import BrokerConnector.Keyed
import BrokerConnector.Yaml.Token

/-!
# Nodes

Tokens are put together to a tree. A node that is missing is a plain scalar without text. The tag
that leaves the kind open is as good as none on a scalar that is there.

An anchor is numbered by how many names were anchored before it, and an alias holds the number that
its name has where it stands. Of the nodes with one number the last counts, so an alias may stand
for a node behind it, and also for one that it is part of.
-/

namespace BrokerConnector.Yaml

/-- A node of a document. -/
inductive Node where
  | scalar (text : String) (style : Style) (tag : Option Tag)
  | sequence (items : List Node)
  | mapping (entries : List (Node × Node))
  /-- Stands for the node that has the number. -/
  | alias (number : Nat)
  deriving Inhabited

/-- The node that stands for a missing one. -/
def Node.missing : Node :=
  .scalar "" .plain none

/-- Tokens that are being put together. -/
structure Assembly where
  tokens : List Token
  /-- The numbers of the anchored names. -/
  anchors : Keyed String Nat := []
  /-- The anchored nodes in the order in which they begin. That of an open collection is not known
  yet. -/
  anchored : List (Nat × Option Node) := []
  /-- What the handles of tags stand for. -/
  handles : List (String × Tag) := []

/-- A step of an assembly, which may find a token that does not fit. -/
abbrev Assemble := StateT Assembly Option

namespace Assemble

/-- Nothing fits here. -/
def refuse {α : Type} : Assemble α :=
  fun _ => none

/-- The next token, if there is one. -/
def peek : Assemble (Option Token) := do
  return (← get).tokens.head?

/-- Leaves a token behind. -/
def skip : Assemble Unit :=
  modify fun assembly => { assembly with tokens := assembly.tokens.drop 1 }

/-- Whether the next token is one of some. -/
def nextIs (tokens : List Token) : Assemble Bool := do
  return (← peek).any tokens.contains

/-- Leaves the next token behind if it is the one asked for, and tells whether it is. -/
def accept (token : Token) : Assemble Bool := do
  if ← nextIs [token] then
    skip
    return true
  else return false

/-! ## Anchors and tags -/

/-- Numbers the anchor of a node that begins, and tells the position of the node. -/
def openAnchor (name : Option String) : Assemble (Option Nat) := do
  match name with
  | none => return none
  | some name =>
    let assembly ← get
    let number := assembly.anchors.length
    set { assembly with
      anchors := assembly.anchors.set name number
      anchored := assembly.anchored ++ [(number, none)] }
    return some assembly.anchored.length

/-- Remembers the anchored node at a position. -/
def closeAnchor (position : Option Nat) (node : Node) : Assemble Node := do
  match position with
  | none => return node
  | some position =>
    modify fun assembly =>
      { assembly with
        anchored := assembly.anchored.modify position fun anchor => (anchor.1, some node) }
    return node

/-- The node of an alias. -/
def resolveAlias (name : String) : Assemble Node := do
  match (← get).anchors.get? name with
  | none => refuse
  | some number => return .alias number

/-- The handles that need no directive. -/
def standardHandles : List (String × Tag) :=
  [("", Tag.ofText ""), ("!", Tag.ofText "!"), ("!!", Tag.ofText "tag:yaml.org,2002:")]

/-- The tag of a handle and a rest. -/
def resolveTag (handle : String) (rest : Tag) : Assemble Tag := do
  match ((← get).handles ++ standardHandles).find? (·.1 = handle) with
  | none => refuse
  | some (_, start) => return start.append rest

/-- What may stand in front of a node. -/
structure Properties where
  anchor : Option String := none
  tag : Option Tag := none

/-- The anchor and the tag in front of a node, in either order. -/
def properties : Assemble Properties := do
  match ← peek with
  | some (.anchor name) =>
    skip
    match ← peek with
    | some (.tag handle rest) =>
      skip
      return { anchor := some name, tag := some (← resolveTag handle rest) }
    | _ => return { anchor := some name }
  | some (.tag handle rest) =>
    skip
    match ← peek with
    | some (.anchor name) =>
      skip
      return { anchor := some name, tag := some (← resolveTag handle rest) }
    | _ => return { tag := some (← resolveTag handle rest) }
  | _ => return {}

/-- The node that is missing behind an anchor or a tag. -/
def orMissing (properties : Properties) (anchor : Option Nat) : Assemble Node :=
  if properties.anchor.isSome || properties.tag.isSome then
    closeAnchor anchor (.scalar "" .plain properties.tag)
  else refuse

/-! ## Nodes -/

mutual

/-- A node. A block collection is a node where `block` says so, and a sequence that is indented no
further than the mapping around it where `indentless` says so. -/
def node (block indentless : Bool) : Nat → Assemble Node
  | 0 => refuse
  | budget + 1 => do
    match ← peek with
    | some (.alias name) =>
      skip
      resolveAlias name
    | _ =>
      let properties ← properties
      let anchor ← openAnchor properties.anchor
      match ← peek with
      | some (.scalar text style) =>
        skip
        closeAnchor anchor (.scalar text style (properties.tag.filter (· ≠ Tag.nonSpecific)))
      | some .flowSequenceStart =>
        skip
        closeAnchor anchor (.sequence (← flowItems true budget))
      | some .flowMappingStart =>
        skip
        closeAnchor anchor (.mapping (← flowEntries true budget))
      | some .blockSequenceStart =>
        if block then
          skip
          closeAnchor anchor (.sequence (← blockItems budget))
        else orMissing properties anchor
      | some .blockMappingStart =>
        if block then
          skip
          closeAnchor anchor (.mapping (← blockEntries budget))
        else orMissing properties anchor
      | some .blockEntry =>
        if indentless then closeAnchor anchor (.sequence (← indentlessItems budget))
        else orMissing properties anchor
      | _ => orMissing properties anchor

/-- A node, unless one of some tokens comes next or the tokens end. -/
def nodeUnless (stops : List Token) (block indentless : Bool) : Nat → Assemble Node
  | 0 => refuse
  | budget + 1 => do
    if ← nextIs stops then return .missing else node block indentless budget

/-- The items of a block sequence, up to its end. -/
def blockItems : Nat → Assemble (List Node)
  | 0 => refuse
  | budget + 1 => do
    if ← accept .blockEntry then
      let item ← nodeUnless [.blockEntry, .blockEnd] true false budget
      return item :: (← blockItems budget)
    else if ← accept .blockEnd then return []
    else refuse

/-- The items of a sequence without an indentation of its own. -/
def indentlessItems : Nat → Assemble (List Node)
  | 0 => refuse
  | budget + 1 => do
    if ← accept .blockEntry then
      let item ← nodeUnless [.blockEntry, .key, .value, .blockEnd] true false budget
      return item :: (← indentlessItems budget)
    else return []

/-- The value of an entry of a block mapping. -/
def blockValue : Nat → Assemble Node
  | 0 => refuse
  | budget + 1 => do
    if ← accept .value then nodeUnless [.key, .value, .blockEnd] true true budget
    else return .missing

/-- The entries of a block mapping, up to its end. -/
def blockEntries : Nat → Assemble (List (Node × Node))
  | 0 => refuse
  | budget + 1 => do
    if ← accept .key then
      let key ← nodeUnless [.key, .value, .blockEnd] true true budget
      let value ← blockValue budget
      return (key, value) :: (← blockEntries budget)
    else if ← accept .blockEnd then return []
    else refuse

/-- The value of an entry of a flow collection that ends with a token. -/
def flowValue (stop : Token) : Nat → Assemble Node
  | 0 => refuse
  | budget + 1 => do
    if ← accept .value then nodeUnless [.flowEntry, stop] false false budget
    else return .missing

/-- The entry behind a key indicator in a flow sequence. -/
def flowPair : Nat → Assemble Node
  | 0 => refuse
  | budget + 1 => do
    if ← nextIs [.value, .flowEntry, .flowSequenceEnd] then
      skip
      return .mapping [(.missing, ← flowValue .flowSequenceEnd budget)]
    else
      let key ← node false false budget
      return .mapping [(key, ← flowValue .flowSequenceEnd budget)]

/-- The items of a flow sequence, up to its end. -/
def flowItems (first : Bool) : Nat → Assemble (List Node)
  | 0 => refuse
  | budget + 1 => do
    if ← accept .flowSequenceEnd then return []
    else if first || (← accept .flowEntry) then
      if ← accept .key then
        let item ← flowPair budget
        return item :: (← flowItems false budget)
      else if ← accept .flowSequenceEnd then return []
      else
        let item ← node false false budget
        return item :: (← flowItems false budget)
    else refuse

/-- The entries of a flow mapping, up to its end. -/
def flowEntries (first : Bool) : Nat → Assemble (List (Node × Node))
  | 0 => refuse
  | budget + 1 => do
    if ← accept .flowMappingEnd then return []
    else if first || (← accept .flowEntry) then
      if ← accept .key then
        let key ← nodeUnless [.value, .flowEntry, .flowMappingEnd] false false budget
        let value ← flowValue .flowMappingEnd budget
        return (key, value) :: (← flowEntries false budget)
      else if ← accept .flowMappingEnd then return []
      else
        let key ← node false false budget
        return (key, .missing) :: (← flowEntries false budget)
    else refuse

end

/-! ## Documents -/

/-- Takes in the directives of a document and tells whether there were any. There is at most one of
a version, which has to be a known one, and one of each handle. -/
def directives (versionKnown : Bool) : Nat → Assemble Bool
  | 0 => refuse
  | budget + 1 => do
    match ← peek with
    | some (.versionDirective major minor) =>
      if versionKnown || !(major = 1 && (minor = 1 || minor = 2)) then refuse
      else
        skip
        let _ ← directives true budget
        return true
    | some (.tagDirective handle start) =>
      if (← get).handles.any (·.1 = handle) then refuse
      else
        skip
        modify fun assembly => { assembly with handles := assembly.handles ++ [(handle, start)] }
        let _ ← directives versionKnown budget
        return true
    | _ => return false

/-- The node of a document, up to its end. Behind directives the mark that begins a document has to
stand. -/
def document (budget : Nat) : Assemble Node := do
  let directed ← directives false budget
  let marked ← accept .documentStart
  let next ← peek
  if directed && !marked then refuse
  else if marked && (next.isNone || next = some .documentEnd) then return .missing
  else node true false budget

/-- Leaves the ends of documents behind. -/
def documentEnds : Nat → Assemble Unit
  | 0 => refuse
  | budget + 1 => do
    if ← accept .documentEnd then documentEnds budget else return ()

/-- The only document, if there is one. -/
def stream (budget : Nat) : Assemble (Option Node) := do
  if (← peek).isNone then return none
  else
    let node ← document budget
    documentEnds budget
    if (← peek).isNone then return some node else refuse

end Assemble

/-- A document: its root, and the nodes that aliases stand for. -/
structure Document where
  root : Node
  anchored : Keyed Nat Node := []
  deriving Inhabited

/-- What a node of a document stands for. -/
def Document.resolve (document : Document) (node : Node) : Node :=
  match node with
  | .alias number => (document.anchored.get? number).getD .missing
  | node => node

/-- The nodes that have numbers when the document ends. -/
def Assembly.numbered (assembly : Assembly) : Keyed Nat Node :=
  assembly.anchored.foldl
    (fun numbered entry => Keyed.set numbered entry.1 (entry.2.getD .missing)) []

/-- The only document of a text, or nothing when the text holds none. A text that is malformed or
holds several documents is refused. -/
def Document.ofText? (text : String) : Option (Option Document) := do
  let tokens ← Token.ofText? text
  let (root, assembly) ← Assemble.stream (3 * tokens.length + 4) { tokens := tokens }
  return root.map fun root => { root := root, anchored := assembly.numbered }

end BrokerConnector.Yaml
