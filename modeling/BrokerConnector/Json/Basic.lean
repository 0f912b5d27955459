/-!
# JSON values

A value keeps what was written: the fields of an object in their order with repeated names, and
whole numbers apart from other numbers. A string that holds half of a surrogate pair is well-formed
and has no text, and a number beyond all doubles is well-formed and has no value.
-/

namespace BrokerConnector

/-- A JSON value. -/
inductive Json where
  | null
  | bool (value : Bool)
  /-- A number without a point and an exponent that fits a word of 64 bits, signed or unsigned. -/
  | whole (value : Int)
  /-- Any other number, by the bits of its double. -/
  | fraction (bits : Option UInt64)
  | string (text : Option String)
  | array (items : List Json)
  | object (fields : List (Option String × Json))
  deriving Inhabited

namespace Json

/-- A text. -/
def ofText (text : String) : Json :=
  .string (some text)

/-- A whole number. -/
def ofInt (value : Int) : Json :=
  .whole value

/-- A number that is not negative. -/
def ofNat (value : Nat) : Json :=
  ofInt value

/-- A double by its bits, never as a whole number. -/
def ofDouble (bits : UInt64) : Json :=
  .fraction (some bits)

/-- An optional value. -/
def ofOption {α : Type} (write : α → Json) : Option α → Json
  | some value => write value
  | none => .null

/-- An object with these fields. -/
def ofFields (fields : List (String × Json)) : Json :=
  .object (fields.map fun field => (some field.1, field.2))

/-- The text of a string. -/
def text? : Json → Option String
  | string text => text
  | _ => none

/-- A truth value. -/
def bool? : Json → Option Bool
  | bool value => some value
  | _ => none

/-- The items of an array. -/
def items? : Json → Option (List Json)
  | array items => some items
  | _ => none

/-- A whole number. -/
def int? : Json → Option Int
  | whole value => some value
  | _ => none

/-- The bits of the double nearest to a number. -/
def double? : Json → Option UInt64
  | whole value => some (Float.ofInt value).toBits
  | fraction bits => bits
  | _ => none

/-- The bits of the single precision number nearest to a whole number or to the double of another
number. -/
def single? : Json → Option UInt32
  | whole value => some (Float32.ofInt value).toBits
  | fraction bits => bits.map fun bits => (Float.ofBits bits).toFloat32.toBits
  | _ => none

/-- The fields of an object. -/
def fields? : Json → Option (List (Option String × Json))
  | object fields => some fields
  | _ => none

/-- The value of the last field of a name. -/
def field? (name : String) (json : Json) : Option Json :=
  json.fields?.bind fun fields =>
    (fields.reverse.find? (·.1 = some name)).map (·.2)

end Json

end BrokerConnector
