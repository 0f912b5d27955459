import BrokerConnector.Yaml.Scalar

/-!
# Tags

A tag is written whole between angle brackets, or as a handle that stands for its beginning with the
rest behind it. The text of a tag is made of bytes, because an escape names a byte by two
hexadecimal digits. The first byte of escapes tells how many belong to it, as in UTF-8, but together
they need not be a character. A zero byte ends the text.
-/

namespace BrokerConnector.Yaml

/-- A tag, or one end of one. -/
structure Tag where
  bytes : List UInt8
  deriving DecidableEq, Inhabited

namespace Tag

/-- The byte of an ASCII character. -/
def asciiByte (c : Char) : UInt8 :=
  UInt8.ofNat c.toNat

/-- The tag of an ASCII text. -/
def ofText (text : String) : Tag where
  bytes := text.toList.map asciiByte

/-- The tag that bytes spell. -/
def ofBytes (bytes : List UInt8) : Tag where
  bytes := bytes.takeWhile (· ≠ 0)

/-- A tag from its beginning and its rest. -/
def append (start rest : Tag) : Tag where
  bytes := start.bytes ++ rest.bytes

/-- The tag that leaves the kind of a node open. -/
def nonSpecific : Tag := ofText "!"

/-- The tag of null. -/
def null : Tag := ofText "tag:yaml.org,2002:null"

/-- The tag of whole numbers. -/
def int : Tag := ofText "tag:yaml.org,2002:int"

/-! ## Bytes -/

/-- The characters of a tag, beside escapes. Between angle brackets there are some more. -/
def isTagChar (bracketed : Bool) (c : Char) : Bool :=
  isNameChar c || [';', '/', '?', ':', '@', '&', '=', '+', '$', '.', '!', '~', '*', '\x27', '(',
    ')'].contains c || (bracketed && [',', '[', ']'].contains c)

/-- How many bytes follow the first one of a character. -/
def followers? (byte : UInt8) : Option Nat :=
  if byte < 0x80 then some 0
  else if byte < 0xc0 then none
  else if byte < 0xe0 then some 1
  else if byte < 0xf0 then some 2
  else if byte < 0xf8 then some 3
  else none

/-- Whether a byte follows another one of its character. -/
def isFollower (byte : UInt8) : Bool :=
  0x80 ≤ byte && byte < 0xc0

/-- How many bytes have to follow behind a byte, where `due` bytes have to come. -/
def dueBehind? (due : Nat) (byte : UInt8) : Option Nat :=
  if due = 0 then followers? byte else if isFollower byte then some (due - 1) else none

/-- The bytes of a tag at the front of a text, with the number of their characters. The first `due`
of them are escapes that belong to the character in front. -/
def bytesFrom (bracketed : Bool) : Nat → List Char → Option (List UInt8 × Nat)
  | due, '%' :: a :: b :: rest => do
    let byte := UInt8.ofNat (← ofDigits? 16 [a, b])
    let (bytes, length) ← bytesFrom bracketed (← dueBehind? due byte) rest
    return (byte :: bytes, length + 3)
  | due, c :: rest =>
    if due ≠ 0 ∨ c = '%' then none
    else if isTagChar bracketed c then do
      let (bytes, length) ← bytesFrom bracketed 0 rest
      return (asciiByte c :: bytes, length + 1)
    else some ([], 0)
  | due, [] => if due = 0 then some ([], 0) else none

/-- Reads the bytes of a tag. -/
def readBytes (bracketed : Bool) (source : Source) : Option (List UInt8 × Source) := do
  let (bytes, length) ← bytesFrom bracketed 0 source.rest
  return (bytes, source.drop length)

/-! ## Handles -/

/-- Reads the handle of a tag: an exclamation mark, or two with a name between them. Without the
second mark the name belongs to the tag. -/
def readHandle (source : Source) : Option (List Char × Source) :=
  if source.rest.head? = some '!' then
    let (name, behind) := (source.drop 1).span isNameChar
    if behind.rest.head? = some '!' then some ('!' :: name ++ ['!'], behind.drop 1)
    else some ('!' :: name, behind)
  else none

/-- Whether a handle has its second mark. -/
def isClosedHandle (handle : List Char) : Bool :=
  2 ≤ handle.length && handle.getLast? = some '!'

/-- Reads a tag as its handle and its rest. A tag between angle brackets has the empty handle, and
so has the exclamation mark alone. -/
def read (source : Source) : Option (String × Tag × Source) :=
  if source.startsWith ['!', '<'] then do
    let (bytes, source) ← readBytes true (source.drop 2)
    if bytes.isEmpty ∨ source.rest.head? ≠ some '>' then none
    else some ("", ofBytes bytes, source.drop 1)
  else do
    let (handle, source) ← readHandle source
    let (bytes, source) ← readBytes false source
    if isClosedHandle handle then
      if bytes.isEmpty then none else some (String.ofList handle, ofBytes bytes, source)
    else
      let rest := ofBytes ((handle.drop 1).map asciiByte ++ bytes)
      if rest.bytes.isEmpty then some ("", nonSpecific, source) else some ("!", rest, source)

end Tag

end BrokerConnector.Yaml
