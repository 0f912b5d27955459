import BrokerConnector.Config.Settings
import BrokerConnector.Yaml.Node

/-!
# Settings files

Settings are a mapping of names to scalars; entries of other names do not matter and no name stands
twice. A plain scalar is a text whatever it looks like. A plain scalar that is empty or spells null
is no value.
-/

namespace BrokerConnector.Yaml

/-! ## Values -/

/-- The spellings of null. -/
def spellsNull (text : String) : Bool :=
  ["null", "Null", "NULL", "~"].contains text

/-- The word of 64 bits that digits in a base stand for. -/
def wordOf? (base : Nat) (digits : List Char) : Option UInt64 :=
  if digits.isEmpty then none
  else ((ofDigits? base digits).filter (· < UInt64.size)).map UInt64.ofNat

/-- Whether digits begin with a zero that a number does not begin with. -/
def hasLeadingZero (digits : List Char) : Bool :=
  1 < digits.length && digits.head? = some '0'

/-- The word of 64 bits that a scalar spells, in base ten without leading zeros, or in base sixteen,
eight or two behind a mark of the base. A plus sign may stand in front. -/
def spelledWord? (text : String) : Option UInt64 :=
  let unsigned :=
    match text.toList with
    | '+' :: rest => rest
    | chars => chars
  match unsigned with
  | '0' :: 'x' :: digits => wordOf? 16 digits
  | '0' :: 'o' :: digits => wordOf? 8 digits
  | '0' :: 'b' :: digits => wordOf? 2 digits
  | digits => if hasLeadingZero digits then none else wordOf? 10 digits

namespace Node

/-- The text of a scalar. -/
def text? : Node → Option String
  | scalar text _ _ => some text
  | _ => none

/-- The word of 64 bits that a plain scalar spells, or a literal one with the tag of numbers. -/
def word? : Node → Option UInt64
  | scalar text .plain _ => spelledWord? text
  | scalar text .literal (some tag) => if tag = Tag.int then spelledWord? text else none
  | _ => none

/-- A value that may be missing. What is tagged as null has to spell null. -/
def optional {α : Type} (read : Node → Option α) (node : Node) : Option (Option α) :=
  match node with
  | scalar text .plain none =>
    if text = "" ∨ spellsNull text then some none else (read node).map some
  | scalar text .plain (some tag) =>
    if tag = Tag.null then (if spellsNull text then some none else none)
    else (read node).map some
  | _ => (read node).map some

/-- The entries of a mapping. An empty plain scalar is a mapping without entries. -/
def entries? : Node → Option (List (Node × Node))
  | mapping entries => some entries
  | scalar "" .plain _ => some []
  | _ => none

/-- The values of the entries with some names, in the order of the names. -/
def fields (document : Document) (names : List String) (node : Node) :
    Option (List (Option Node)) := do
  let entries ← (← node.entries?).mapM fun (key, value) =>
    (document.resolve key).text?.map (·, document.resolve value)
  names.mapM fun name =>
    match entries.filter (·.1 = name) with
    | [] => some none
    | [(_, value)] => some (some value)
    | _ => none

/-- The value of an entry that may be missing. -/
def optionalField {α : Type} (read : Node → Option α) : Option Node → Option (Option α)
  | none => some none
  | some node => node.optional read

/-! ## Settings -/

/-- The settings of a read. -/
def readSettings? (document : Document) (node : Node) : Option ReadSettings := do
  let [queue, topic, username, password, maxNumRecords, maxReadTime, desiredSplits] ←
    node.fields document
      ["queue", "topic", "username", "password", "max_num_records", "max_read_time_ms",
       "desired_splits"] | none
  let settings : ReadSettings := {
    queue := ← optionalField text? queue
    topic := ← optionalField text? topic
    username := ← optionalField text? username
    password := ← optionalField text? password
    maxNumRecords := ← optionalField word? maxNumRecords
    maxReadTime := ← optionalField word? maxReadTime }
  match desiredSplits with
  | none => return settings
  | some node => return { settings with desiredSplits := ← node.word? }

/-- The settings of a write. -/
def writeSettings? (document : Document) (node : Node) : Option WriteSettings := do
  let [queue, topic, username, password] ←
    node.fields document ["queue", "topic", "username", "password"] | none
  return {
    queue := ← optionalField text? queue
    topic := ← optionalField text? topic
    username := ← optionalField text? username
    password := ← optionalField text? password }

end Node

end BrokerConnector.Yaml

namespace BrokerConnector

/-- The document of a file. A file without one is as good as an empty mapping. -/
def Yaml.document? (file : String) : Option Yaml.Document := do
  return (← Yaml.Document.ofText? file).getD { root := .mapping [] }

/-- The settings of a read that a file holds. -/
def ReadSettings.ofFile? (file : String) : Option ReadSettings := do
  let document ← Yaml.document? file
  document.root.readSettings? document

/-- The settings of a write that a file holds. -/
def WriteSettings.ofFile? (file : String) : Option WriteSettings := do
  let document ← Yaml.document? file
  document.root.writeSettings? document

end BrokerConnector
