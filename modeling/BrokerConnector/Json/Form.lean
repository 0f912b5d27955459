import BrokerConnector.Json.Basic

/-!
# Serial forms

A form of a type writes its values as JSON and reads them back. A structure is written as an object
with its fields by name; it is read from an object, in which fields of other names do not matter and
no field stands twice, or from an array of its fields in order. A case of an enumeration is an
object with one field, the name of the case with its value; a case without a value is its name.
-/

namespace BrokerConnector

/-- How values of a type are written and read. -/
structure Form (α : Type) where
  write : α → Json
  read : Json → Option α

namespace Form

variable {α β : Type}

/-! ## Plain values -/

/-- Texts. -/
def text : Form String where
  write := Json.ofText
  read := Json.text?

/-- Truth values. -/
def truth : Form Bool where
  write := .bool
  read := Json.bool?

/-- Whole numbers in a range, as values of a type of that range. -/
def whole (low high : Int) (toInt : α → Int) (ofInt : Int → α) : Form α where
  write value := Json.ofInt (toInt value)
  read json := json.int?.bind fun n => if low ≤ n ∧ n ≤ high then some (ofInt n) else none

/-- Signed bytes. -/
def int8 : Form Int8 :=
  whole Int8.minValue.toInt Int8.maxValue.toInt Int8.toInt Int8.ofInt

/-- Signed words of sixteen bits. -/
def int16 : Form Int16 :=
  whole Int16.minValue.toInt Int16.maxValue.toInt Int16.toInt Int16.ofInt

/-- Signed words of 32 bits. -/
def int32 : Form Int32 :=
  whole Int32.minValue.toInt Int32.maxValue.toInt Int32.toInt Int32.ofInt

/-- Signed words of 64 bits. -/
def int64 : Form Int64 :=
  whole Int64.minValue.toInt Int64.maxValue.toInt Int64.toInt Int64.ofInt

/-- Bytes. -/
def uint8 : Form UInt8 :=
  whole 0 (UInt8.size - 1) (fun byte => byte.toNat) fun n => UInt8.ofNat n.toNat

/-- Words of 64 bits. -/
def uint64 : Form UInt64 :=
  whole 0 (UInt64.size - 1) (fun word => word.toNat) fun n => UInt64.ofNat n.toNat

/-- Doubles, by their bits. -/
def double : Form UInt64 where
  write := Json.ofDouble
  read := Json.double?

/-- Single precision numbers, by their bits. They are written as the doubles that they equal. -/
def float : Form UInt32 where
  write bits := Json.ofDouble (Float32.ofBits bits).toFloat.toBits
  read := Json.single?

/-- Optional values. Null stands for no value. -/
def option (form : Form α) : Form (Option α) where
  write := Json.ofOption form.write
  read
    | .null => some none
    | json => (form.read json).map some

/-- Lists. -/
def list (form : Form α) : Form (List α) where
  write values := .array (values.map form.write)
  read json := json.items?.bind fun items => items.mapM form.read

/-- A type that has the same values as another one. -/
def via (form : Form α) (toForm : β → α) (ofForm : α → β) : Form β where
  write value := form.write (toForm value)
  read json := (form.read json).map ofForm

/-! ## Structures -/

/-- What stands for a field that is missing. -/
inductive Presence where
  /-- The field has to be there. -/
  | required
  /-- Null stands for a field that is missing in an object. -/
  | optional
  /-- A value stands for a field that is missing in an object or at the end of an array. -/
  | defaulted (value : Json)

/-- The value of a field that is missing in an object. -/
def Presence.inObject : Presence → Option Json
  | required => none
  | optional => some .null
  | defaulted value => some value

/-- The value of a field that is missing at the end of an array. -/
def Presence.inArray : Presence → Option Json
  | defaulted value => some value
  | _ => none

/-- The values of fields in an object. -/
def arrangeFields (spec : List (String × Presence)) (fields : List (Option String × Json)) :
    Option (List Json) :=
  if fields.all (·.1.isSome) then
    spec.mapM fun (name, presence) =>
      match fields.filter (·.1 = some name) with
      | [] => presence.inObject
      | [(_, value)] => some value
      | _ => none
  else none

/-- The values of fields in an array. -/
def arrangeItems : List (String × Presence) → List Json → Option (List Json)
  | [], [] => some []
  | [], _ :: _ => none
  | (_, presence) :: spec, [] => do
    let value ← presence.inArray
    let others ← arrangeItems spec []
    return value :: others
  | _ :: spec, value :: items => (arrangeItems spec items).map (value :: ·)

/-- The values of the fields of a structure, in order. -/
def arrange (spec : List (String × Presence)) : Json → Option (List Json)
  | .object fields => arrangeFields spec fields
  | .array items => arrangeItems spec items
  | _ => none

/-! ## Cases -/

/-- A case with its value. -/
def writeCase (name : String) (value : Json) : Json :=
  Json.ofFields [(name, value)]

/-- A case with its value, if it has one. -/
def readCase : Json → Option (String × Option Json)
  | .string (some name) => some (name, none)
  | .object [(some name, value)] => some (name, some value)
  | _ => none

/-- The name of a case that has no value. Null is as good as no value. -/
def readBareCase (json : Json) : Option String :=
  match readCase json with
  | some (name, none) | some (name, some .null) => some name
  | _ => none

end Form

end BrokerConnector
