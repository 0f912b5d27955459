import BrokerConnector.Decimal.Shortest
import BrokerConnector.Json.Basic
import BrokerConnector.Text.Debug

/-!
# JSON values as text

Values are written without spaces, the fields of an object in their order. A string has its quotes,
backslashes and control characters escaped and nothing else.
-/

namespace BrokerConnector.Json

/-- A number in four hexadecimal digits. -/
def fourDigits (n : Nat) : List Char :=
  let digits := Text.hexDigits n
  List.replicate (4 - digits.length) '0' ++ digits

/-- How a character stands in a string. -/
def escapeChar (c : Char) : List Char :=
  if c = '"' then ['\\', '"']
  else if c = '\\' then ['\\', '\\']
  else if c = '\n' then ['\\', 'n']
  else if c = '\r' then ['\\', 'r']
  else if c = '\t' then ['\\', 't']
  else if c.toNat < 0x20 then '\\' :: 'u' :: fourDigits c.toNat
  else [c]

/-- A text as a string. -/
def quoteText (text : String) : String :=
  "\"" ++ String.ofList (text.toList.flatMap escapeChar) ++ "\""

/-- A string. One without a text is written as the replacement character. -/
def quoteString (text : Option String) : String :=
  quoteText (text.getD "\ufffd")

/-- A number that is not whole. What is no finite double is written as null. -/
def fractionText (bits : Option UInt64) : String :=
  match bits.bind Decimal.ofBits? with
  | some value => value.text
  | none => "null"

mutual

/-- A value as text. -/
def render : Json → String
  | null => "null"
  | bool value => Text.truth value
  | whole value => toString value
  | fraction bits => fractionText bits
  | string text => quoteString text
  | array items => "[" ++ ",".intercalate (renderItems items) ++ "]"
  | object fields => "\x7b" ++ ",".intercalate (renderFields fields) ++ "\x7d"

/-- Each item as text. -/
def renderItems : List Json → List String
  | [] => []
  | item :: rest => render item :: renderItems rest

/-- Each field as text. -/
def renderFields : List (Option String × Json) → List String
  | [] => []
  | (name, value) :: rest => (quoteString name ++ ":" ++ render value) :: renderFields rest

end

end BrokerConnector.Json
