import AllocTrace.Config.Basic
import AllocTrace.Config.Misfit
import AllocTrace.Text.Utf8

/-! A configuration read from a YAML text. Fields that are missing keep their defaults, unknown
ones are passed over, and the first value in document order that does not fit its field is the
one reported.
-/

namespace AllocTrace

open Yaml (Document Mark Node Style Tag)

/-- Why a text yields no configuration. -/
inductive LoadError where
  | unreadable
  | malformed
  | unfit (misfit : Misfit)
  | invalid (error : ConfigError)
deriving DecidableEq

/-- The message of the error for the file at a path. -/
def LoadError.message (path : String) : LoadError → String
  | unreadable => "reading config file " ++ path
  | malformed => "parsing config file " ++ path
  | unfit _ => "parsing config file " ++ path
  | invalid error => error.message

namespace Field

/-- What a scalar shows itself to be. A tag of one of the core types has it read as that type,
and fails if it cannot be; any other global tag makes it a string.
-/
def foundScalar (tag : Option Tag) (style : Style) (text : String) (expected : String)
    : MisfitReason :=
  let typed (read : Option Found) (name : String) : MisfitReason :=
    match read with
    | some found => .invalidType found expected
    | none => .invalidValue (.string text) name
  let untagged : Found := if style = .plain then .ofPlain text else .string text
  match tag with
  | none => .invalidType untagged expected
  | some tag =>
    if tag = .core "bool" then typed ((Yaml.Plain.boolean? text).map .boolean) "a boolean"
    else if tag = .core "int" then typed (Found.integer? text) "an integer"
    else if tag = .core "float" then typed ((Yaml.Plain.floatText? text).map .float) "a float"
    else if tag = .core "null" then
      typed (if Yaml.Plain.isNull text then some .unit else none) "null"
    else if tag.isLocal then .invalidType untagged expected
    else .invalidType (.string text) expected

/-- The node, which is no alias, does not have the expected type. -/
def mistyped (path : String) (node : Node) (expected : String) : Misfit :=
  match node with
  | .scalar mark tag style text =>
    { path := path, reason := foundScalar tag style text expected, mark := mark }
  | .sequence mark .. =>
    { path := path, reason := .invalidType .sequence expected, mark := mark }
  | .mapping mark .. =>
    { path := path, reason := .invalidType .mapping expected, mark := mark }
  | .alias mark _ => { path := path, reason := .invalidType .unit expected, mark := mark }

/-- The scalar may be read as a value of the core type: it is plain, or a literal block with the
tag of the type.
-/
def readsAs (type : String) (tag : Option Tag) (style : Style) : Bool :=
  style == .plain || (style == .literal && tag == some (.core type))

/-- Any scalar is a string, written as it stands. -/
def string (path expected : String) (node : Node) : Except Misfit String :=
  match node with
  | .scalar _ _ _ text => .ok text
  | node => .error (mistyped path node expected)

def boolean (path : String) (node : Node) : Except Misfit Bool :=
  let refuse := .error (mistyped path node "a boolean")
  match node with
  | .scalar _ tag style text =>
    if readsAs "bool" tag style then
      match Yaml.Plain.boolean? text with
      | some value => .ok value
      | none => refuse
    else refuse
  | _ => refuse

/-- An integer of 64 bits without sign that also fits a possibly narrower type. -/
def natural (bound : Nat) (type path : String) (node : Node) : Except Misfit Nat :=
  let refuse := .error (mistyped path node type)
  match node with
  | .scalar mark tag style text =>
    if readsAs "int" tag style then
      match Yaml.Plain.unsigned? Config.countBound text with
      | some n =>
        if n < bound then .ok n
        else
          .error { path := path, reason := .invalidValue (.integer n) type, mark := mark }
      | none => refuse
    else refuse
  | _ => refuse

def size (path : String) (node : Node) : Except Misfit Nat :=
  natural Config.countBound "usize" path node

def pixels (path : String) (node : Node) : Except Misfit Nat :=
  natural Config.pixelBound "u32" path node

/-- A place that a message can name: the path of a field, and a position. -/
structure Site where
  path : String
  mark : Mark
deriving DecidableEq

/-- The value of a field, with the place that is blamed if the field's own is not known: the
alias that stands for the value, or else the structure around it.
-/
structure Given where
  name : String
  path : String
  holder : Site
  node : Node

/-- The choice of a name that is found at a place. -/
def variant (site : Site) (name : String) : Except Misfit SchemaChoice :=
  match SchemaChoice.ofName? name with
  | some choice => .ok choice
  | none => .error { path := site.path, reason := .unknownVariant name, mark := site.mark }

/-- A choice named by a tag has no content of its own. -/
def bare (path : String) (choice : SchemaChoice) (node : Node) : Except Misfit SchemaChoice :=
  match node with
  | .scalar mark _ style text =>
    if style = .plain ∧ (text = "" ∨ Yaml.Plain.isNull text) then .ok choice
    else .error { path := path, reason := .invalidValue (.string text) "null", mark := mark }
  | node => .error (mistyped path node "unit")

/-- A choice is named by a scalar or by a local tag. A tag's name has no place of its own. -/
def schemaChoice (given : Given) : Except Misfit SchemaChoice := do
  match given.node.tag?.bind Tag.name? with
  | some name => bare given.path (← variant given.holder name) given.node
  | none =>
    match given.node with
    | .scalar mark _ _ text => variant { path := given.path, mark := mark } text
    | node => throw (mistyped given.path node "a YAML tag starting with '!'")

/-- The path of a field of the structure at a path. -/
def join (path name : String) : String :=
  if path = "" then name else path ++ "." ++ name

/-- The fields given to a structure, in order, each of the known ones at most once; a name given
by an alias shows as a question mark in paths.
-/
def entries (document : Document) (site : Site) (known : List String)
    : List (Node × Node) → List String → List (Except Misfit Given)
  | [], _ => []
  | (key, value) :: rest, seen =>
    match string site.path "field identifier" (document.resolve key) with
    | .error misfit => [.error misfit]
    | .ok name =>
      if name ∈ seen then
        [.error { path := site.path, reason := .duplicateField name, mark := site.mark }]
      else
        let shown := match key with
          | .alias .. => "?"
          | _ => name
        let path := join site.path shown
        let holder := match value with
          | .alias mark _ => { path := path, mark := mark }
          | _ => site
        let later := entries document site known rest (if name ∈ known then name :: seen else seen)
        .ok { name := name, path := path, holder := holder, node := document.resolve value }
          :: later

/-- Reads a structure field by field, starting from its defaults. -/
def structured {α : Type} (document : Document) (path expected : String) (known : List String)
    (default : α) (assign : α → Given → Except Misfit α) (node : Node) : Except Misfit α :=
  match node with
  | .mapping mark _ pairs =>
    (entries document { path := path, mark := mark } known pairs []).foldlM
      (fun value given => do assign value (← given))
      default
  | .scalar _ _ .plain "" => .ok default
  | node => .error (mistyped path node expected)

/-- One field of the render section. -/
def assignRender (render : RenderConfig) (given : Given) : Except Misfit RenderConfig := do
  let path := given.path
  let node := given.node
  match given.name with
  | "enabled" => return { render with enabled := ← boolean path node }
  | "file_name" => return { render with fileName := ← string path "a string" node }
  | "max_tick_labels" => return { render with maxTickLabels := ← size path node }
  | "width" => return { render with width := ← pixels path node }
  | "height" => return { render with height := ← pixels path node }
  | _ => return render

def renderConfig (document : Document) (path : String) (node : Node)
    : Except Misfit RenderConfig :=
  structured document path "struct RenderConfig"
    ["enabled", "file_name", "max_tick_labels", "width", "height"] .default assignRender node

/-- One field of the configuration. -/
def assignConfig (document : Document) (config : Config) (given : Given)
    : Except Misfit Config := do
  let path := given.path
  let node := given.node
  match given.name with
  | "log_level" => return { config with logLevel := ← string path "a string" node }
  | "schema" => return { config with schema := ← schemaChoice given }
  | "extension" => return { config with extension := ← string path "a string" node }
  | "highlights" => return { config with highlights := ← size path node }
  | "parallel" => return { config with parallel := ← boolean path node }
  | "render" => return { config with render := ← renderConfig document path node }
  | _ => return config

end Field

namespace Config

/-- The configuration of a document; one without content keeps every default. -/
def ofDocument (document : Document) : Except Misfit Config :=
  match document.root with
  | none => .ok default
  | some root =>
    Field.structured document "" "struct Config"
      ["log_level", "schema", "extension", "highlights", "parallel", "render"] default
      (Field.assignConfig document) (document.resolve root)

def ofText (text : String) : Except LoadError Config :=
  match Document.ofText? text with
  | none => .error .malformed
  | some document => (ofDocument document).mapError .unfit

/-- The configuration that the bytes of a file hold, checked. No bytes means that the file could
not be read, and so do bytes that are no text.
-/
def load (content : Option (List UInt8)) : Except LoadError Config := do
  match content.bind Text.decode? with
  | none => throw .unreadable
  | some text =>
    let config ← ofText text
    config.validate.mapError .invalid
    return config

end Config

end AllocTrace
