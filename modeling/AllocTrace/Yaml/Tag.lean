import AllocTrace.Text.Utf8

/-! Tags of YAML nodes. A tag is a string of octets without zeros. One that starts with an
exclamation mark is local and names a variant; the core types have tags of their own.
-/

namespace AllocTrace.Yaml

/-- The octets of a tag. -/
abbrev Tag := List UInt8

namespace Tag

/-- The octets of ASCII text. -/
def ofAscii (cs : List Char) : Tag :=
  cs.map fun c => UInt8.ofNat c.toNat

/-- What the tags of core types start with. -/
def coreLead : Tag :=
  ofAscii "tag:yaml.org,2002:".toList

/-- The tag of a core type. -/
def core (type : String) : Tag :=
  coreLead ++ ofAscii type.toList

/-- The exclamation mark alone. -/
def lone : Tag :=
  ofAscii ['!']

def isLocal (tag : Tag) : Bool :=
  lone.isPrefixOf tag

/-- What a local tag names, if it is text; the lone exclamation mark is its own name. -/
def name? (tag : Tag) : Option String :=
  if tag.isLocal then Text.decode? (if tag = lone then lone else tag.drop 1) else none

end Tag

end AllocTrace.Yaml
