import BrokerConnector.Text.Unprintable

/-!
# The text that shows a value

Configurations and marks are shown for people to read: texts between double quotes with their
unprintable characters escaped, options by `None` and `Some(..)`, structures by their fields, and
durations in the largest unit that fits. A text without quotes, backslashes and unprintable
characters is shown as itself.
-/

namespace BrokerConnector.Text

/-- The hexadecimal digits of a number, in lower case, without leading zeros. -/
def hexDigits (n : Nat) : List Char :=
  Nat.toDigits 16 n

/-- How one character stands inside quotes. -/
def escapeChar (c : Char) : List Char :=
  if c = '"' then ['\\', '"']
  else if c = '\\' then ['\\', '\\']
  else if c = '\n' then ['\\', 'n']
  else if c = '\r' then ['\\', 'r']
  else if c = '\t' then ['\\', 't']
  else if c = Char.ofNat 0 then ['\\', '0']
  else if isUnprintable c then ['\\', 'u', '{'] ++ hexDigits c.toNat ++ ['}']
  else [c]

/-- A text between double quotes. -/
def quoted (s : String) : String :=
  "\"" ++ String.ofList (s.toList.flatMap escapeChar) ++ "\""

/-- An option, shown by its case. -/
def optional (shown : Option String) : String :=
  match shown with
  | none => "None"
  | some text => "Some(" ++ text ++ ")"

/-- A case of an enumeration with one value. -/
def caseOf (name shown : String) : String :=
  name ++ "(" ++ shown ++ ")"

/-- A structure, shown by its name and its fields in order. -/
def structureOf (name : String) (fields : List (String × String)) : String :=
  let shown := fields.map fun field => field.1 ++ ": " ++ field.2
  name ++ " \x7b " ++ ", ".intercalate shown ++ " \x7d"

/-- A truth value. -/
def truth (b : Bool) : String :=
  if b then "true" else "false"

/-- The decimals of a fraction of a second in thousandths, without the zeros that end them. -/
def thousandths (n : Nat) : String :=
  let digits := (Nat.toDigits 10 (1000 + n)).drop 1
  String.ofList (digits.reverse.dropWhile (· == '0')).reverse

/-- A duration of whole milliseconds: in seconds from one second on, in milliseconds below, and in
nanoseconds when it is nothing. -/
def duration (milliseconds : Nat) : String :=
  if milliseconds = 0 then "0ns"
  else if milliseconds < 1000 then toString milliseconds ++ "ms"
  else
    let whole := toString (milliseconds / 1000)
    let fraction := thousandths (milliseconds % 1000)
    if fraction = "" then whole ++ "s" else whole ++ "." ++ fraction ++ "s"

end BrokerConnector.Text
