import AllocTrace.Yaml.Token

/-! The one document of a YAML text as a tree of nodes. An alias stays a node of its own that
names its anchor by number, since an anchored node may hold aliases of itself. No result means
that the text is not a single document.
-/

namespace AllocTrace.Yaml

inductive Node where
  | scalar (mark : Mark) (tag : Option Tag) (style : Style) (text : String)
  | sequence (mark : Mark) (tag : Option Tag) (items : List Node)
  | mapping (mark : Mark) (tag : Option Tag) (entries : List (Node × Node))
  | alias (mark : Mark) (anchor : Nat)

/-- The tag of a node; an alias has none. -/
def Node.tag? : Node → Option Tag
  | .scalar _ tag _ _ => tag
  | .sequence _ tag _ => tag
  | .mapping _ tag _ => tag
  | .alias .. => none

/-- The scalar that stands where nothing is written. -/
def Node.absent (mark : Mark) : Node :=
  .scalar mark none .plain ""

/-- A document's root, if it has one, and its anchored nodes by number. Of nodes with the same
number, the first in the list counts.
-/
structure Document where
  root : Option Node
  anchored : List (Nat × Node)

/-- The node that an alias stands for, any other node itself. -/
def Document.resolve (document : Document) (node : Node) : Node :=
  match node with
  | .alias mark anchor => (document.anchored.lookup anchor).getD (.absent mark)
  | node => node

/-- The tokens still to be read, the tag handles of the document, the names of anchors with
their numbers, the numbers of the anchored nodes begun so far, the latest first, and those of
these nodes that are read in full, by how many were begun before them.
-/
structure Feed where
  tokens : List Token
  handles : List (List Char × Tag)
  names : List (List Char × Nat)
  begun : List Nat
  read : List (Nat × Node)

/-- The anchored nodes with their numbers, the one begun last first. -/
def Feed.anchored (feed : Feed) : List (Nat × Node) :=
  (feed.begun.reverse.zipIdx.reverse).filterMap fun (number, place) =>
    (feed.read.lookup place).map fun node => (number, node)

abbrev Reading := StateT Feed Option

namespace Reading

def peek : Reading Token := fun feed =>
  feed.tokens.head?.map fun token => (token, feed)

def skip : Reading Unit := fun feed =>
  some ((), { feed with tokens := feed.tokens.drop 1 })

def kind : Reading TokenKind := do
  return (← peek).kind

def fail {α : Type} : Reading α := fun _ => none

/-- Begins an anchored node, and gives its name the number of names known so far. A name given
again leaves that count as it was, so the next new name shares its number, and aliases of either
stand for the node begun last.
-/
def newAnchor (name : List Char) : Reading Nat := fun feed =>
  let number := feed.names.length
  some
    (feed.begun.length,
      {
        feed with
        names := (name, number) :: feed.names.filter (·.1 ≠ name)
        begun := number :: feed.begun
      })

def anchorNumber (name : List Char) : Reading Nat := fun feed =>
  (feed.names.lookup name).map fun number => (number, feed)

/-- Keeps a node read in full, if it is anchored. -/
def record (anchor : Option Nat) (node : Node) : Reading Node := fun feed =>
  match anchor with
  | some place => some (node, { feed with read := (place, node) :: feed.read })
  | none => some (node, feed)

/-- A tag with its handle replaced by what the handle stands for. -/
def resolveTag (handle : List Char) (suffix : Tag) : Reading Tag := fun feed =>
  if handle.isEmpty then some (suffix, feed)
  else (feed.handles.lookup handle).map fun lead => (lead ++ suffix, feed)

/-- What stands before the content of a node: its place among the anchored ones, if it is one of
them, and its tag.
-/
structure Properties where
  anchor : Option Nat
  tag : Option Tag

def anchorHere? : Reading (Option (List Char)) := do
  match ← kind with
  | .anchor name =>
    skip
    return some name
  | _ => return none

def tagHere? : Reading (Option (List Char × Tag)) := do
  match ← kind with
  | .tag handle suffix =>
    skip
    return some (handle, suffix)
  | _ => return none

/-- At most one anchor and one tag, in either order. -/
def properties : Reading Properties := do
  let (name, tag) ← do
    match ← anchorHere? with
    | some name => pure (some name, ← tagHere?)
    | none =>
      match ← tagHere? with
      | some tag => pure (← anchorHere?, some tag)
      | none => pure (none, none)
  let tag ← tag.mapM fun (handle, suffix) => resolveTag handle suffix
  let anchor ← name.mapM newAnchor
  return { anchor := anchor, tag := tag }

def isBlockStop (kind : TokenKind) : Bool :=
  kind == .key || kind == .value || kind == .blockEnd

mutual

/-- A node. In block context it may be a block collection, and where `indentless` is set also a
sequence whose entries are not indented.
-/
def node (block indentless : Bool) : Nat → Reading Node
  | 0 => fail
  | fuel + 1 => do
    let mark := (← peek).first
    match ← kind with
    | .alias name =>
      let anchor ← anchorNumber name
      skip
      return .alias mark anchor
    | _ =>
      let properties ← properties
      let tag := properties.tag
      let kind ← kind
      if indentless && kind == .blockEntry then
        record properties.anchor (.sequence mark tag (← indentlessItems fuel))
      else
        match kind with
        | .scalar text style =>
          skip
          record properties.anchor (.scalar mark tag style (String.ofList text))
        | .flowSequenceStart =>
          skip
          record properties.anchor (.sequence mark tag (← flowItems true fuel))
        | .flowMappingStart =>
          skip
          record properties.anchor (.mapping mark tag (← flowEntries true fuel))
        | kind =>
          if block && kind == .blockSequenceStart then
            skip
            record properties.anchor (.sequence mark tag (← blockItems fuel))
          else if block && kind == .blockMappingStart then
            skip
            record properties.anchor (.mapping mark tag (← blockEntries fuel))
          else if properties.anchor.isSome || properties.tag.isSome then
            record properties.anchor (.scalar mark tag .plain "")
          else fail

/-- The items of a block sequence up to its end. -/
def blockItems : Nat → Reading (List Node)
  | 0 => fail
  | fuel + 1 => do
    let entry ← peek
    skip
    if entry.kind == .blockEnd then return []
    else if entry.kind == .blockEntry then
      let next ← kind
      let item ←
        if next == .blockEntry || next == .blockEnd then pure (Node.absent entry.last)
        else node true false fuel
      return item :: (← blockItems fuel)
    else fail

/-- The items of a sequence that shares the indentation of its mapping. -/
def indentlessItems : Nat → Reading (List Node)
  | 0 => fail
  | fuel + 1 => do
    let entry ← peek
    if entry.kind == .blockEntry then
      skip
      let next ← kind
      let item ←
        if next == .blockEntry || isBlockStop next then pure (Node.absent entry.last)
        else node true false fuel
      return item :: (← indentlessItems fuel)
    else return []

/-- The entries of a block mapping up to its end. -/
def blockEntries : Nat → Reading (List (Node × Node))
  | 0 => fail
  | fuel + 1 => do
    let entry ← peek
    if entry.kind == .blockEnd then
      skip
      return []
    else if entry.kind == .key then
      skip
      let key ←
        if isBlockStop (← kind) then pure (Node.absent entry.last) else node true true fuel
      let value ← blockValue fuel
      return (key, value) :: (← blockEntries fuel)
    else fail

/-- What follows a key of a block mapping. -/
def blockValue : Nat → Reading Node
  | 0 => fail
  | fuel + 1 => do
    let token ← peek
    if token.kind == .value then
      skip
      if isBlockStop (← kind) then return .absent token.last else node true true fuel
    else return .absent token.first

/-- The items of a flow sequence up to its end. A key stands for a mapping of one entry. -/
def flowItems (first : Bool) : Nat → Reading (List Node)
  | 0 => fail
  | fuel + 1 => do
    if (← kind) == .flowSequenceEnd then
      skip
      return []
    else
      if !first then
        if (← kind) == .flowEntry then skip else fail
      let token ← peek
      if token.kind == .flowSequenceEnd then
        skip
        return []
      else if token.kind == .key then
        skip
        let entry ← singleEntry fuel
        return .mapping token.first none [entry] :: (← flowItems false fuel)
      else
        let item ← node false false fuel
        return item :: (← flowItems false fuel)

/-- The entry of a mapping written as an item of a flow sequence. If no key is written, the
token in its place is passed over.
-/
def singleEntry : Nat → Reading (Node × Node)
  | 0 => fail
  | fuel + 1 => do
    let token ← peek
    let key ←
      if token.kind == .value || token.kind == .flowEntry || token.kind == .flowSequenceEnd then
        skip
        pure (Node.absent token.last)
      else node false false fuel
    if (← kind) == .value then
      skip
      let next ← peek
      if next.kind == .flowEntry || next.kind == .flowSequenceEnd then
        return (key, .absent next.first)
      else return (key, ← node false false fuel)
    else return (key, .absent (← peek).first)

/-- The entries of a flow mapping up to its end. -/
def flowEntries (first : Bool) : Nat → Reading (List (Node × Node))
  | 0 => fail
  | fuel + 1 => do
    if (← kind) == .flowMappingEnd then
      skip
      return []
    else
      if !first then
        if (← kind) == .flowEntry then skip else fail
      let token ← peek
      if token.kind == .flowMappingEnd then
        skip
        return []
      else if token.kind == .key then
        skip
        let next ← peek
        let key ←
          if next.kind == .value || next.kind == .flowEntry || next.kind == .flowMappingEnd then
            pure (Node.absent next.first)
          else node false false fuel
        let value ← flowValue fuel
        return (key, value) :: (← flowEntries false fuel)
      else
        let key ← node false false fuel
        let value := Node.absent (← peek).first
        return (key, value) :: (← flowEntries false fuel)

/-- What follows a key of a flow mapping. -/
def flowValue : Nat → Reading Node
  | 0 => fail
  | fuel + 1 => do
    if (← kind) == .value then
      skip
      let next ← peek
      if next.kind == .flowEntry || next.kind == .flowMappingEnd then return .absent next.first
      else node false false fuel
    else return .absent (← peek).first

end

/-- The handles that need no directive. -/
def defaultHandles : List (List Char × Tag) :=
  [(['!'], .lone), (['!', '!'], .coreLead)]

/-- The directives before a document: at most one version, which is 1.1 or 1.2, and handles, each
declared once.
-/
def directives (versioned : Bool) (declared : List (List Char × Tag))
    : Nat → Reading Unit
  | 0 => fail
  | fuel + 1 => do
    match ← kind with
    | .versionDirective major minor =>
      if versioned || major ≠ 1 || (minor ≠ 1 && minor ≠ 2) then fail
      else
        skip
        directives true declared fuel
    | .tagDirective handle lead =>
      if (declared.lookup handle).isSome then fail
      else
        skip
        directives versioned ((handle, lead) :: declared) fuel
    | _ => modify fun feed => { feed with handles := declared ++ defaultHandles }

/-- The content of a document after its explicit start. -/
def content (fuel : Nat) : Reading Node := do
  let token ← peek
  match token.kind with
  | .versionDirective .. => return .absent token.first
  | .tagDirective .. => return .absent token.first
  | .documentStart => return .absent token.first
  | .documentEnd => return .absent token.first
  | .streamEnd => return .absent token.first
  | _ => node true false fuel

/-- The root of the first document, if there is a document. -/
def root (fuel : Nat) : Reading (Option Node) := do
  match ← kind with
  | .streamEnd => return none
  | .versionDirective .. => explicitRoot
  | .tagDirective .. => explicitRoot
  | .documentStart => explicitRoot
  | _ => return some (← node true false fuel)
where
  explicitRoot : Reading (Option Node) := do
    directives false [] fuel
    if (← kind) == .documentStart then
      skip
      return some (← content fuel)
    else fail

/-- Nothing but marked ends of documents up to the end of the stream. -/
def finish : Reading Unit := fun feed =>
  match feed.tokens.dropWhile fun token => token.kind == .documentEnd with
  | [token] => if token.kind == .streamEnd then some ((), feed) else none
  | _ => none

end Reading

/-- The document that the text holds. The tokens bound how deep reading can go: between two of
them it goes down at most three times.
-/
def Document.ofText? (text : String) : Option Document := do
  let tokens ← tokens? text.toList
  let fuel := 4 * tokens.length + 4
  let feed : Feed :=
    { tokens := tokens, handles := Reading.defaultHandles, names := [], begun := [], read := [] }
  let (root, feed) ← (Reading.root fuel).run feed
  let (_, feed) ← Reading.finish.run feed
  return { root := root, anchored := feed.anchored }

end AllocTrace.Yaml
