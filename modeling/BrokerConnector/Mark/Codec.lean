import BrokerConnector.Mark.Basic

/-!
# Marks as bytes

A mark is written as the identifier of its session, if it has one, and its entries. An optional
text begins with a byte that is one when the text follows and zero when none does. Texts and lists
begin with their length as a word of eight bytes, the least significant first; a text is UTF-8. A
timestamp is a word in two's complement. Bytes behind the last entry are ignored.
Each reader gives the bytes behind what it read.

A read mark is detached, and none of its entries are counted.
-/

namespace BrokerConnector.Mark

/-! ## Writing -/

/-- The `width` lowest bytes of a number, the least significant first. -/
def littleEndian : (width value : Nat) → List UInt8
  | 0, _ => []
  | width + 1, value => UInt8.ofNat value :: littleEndian width (value / 256)

/-- A word of eight bytes. -/
def encodeWord (value : UInt64) : List UInt8 :=
  littleEndian 8 value.toNat

/-- A text behind its length. -/
def encodeText (text : String) : List UInt8 :=
  encodeWord (UInt64.ofNat text.utf8ByteSize) ++ text.toByteArray.toList

/-- An optional text. -/
def encodeOptionalText : Option String → List UInt8
  | none => [0]
  | some text => 1 :: encodeText text

/-- An entry. -/
def encodeDelivery (delivery : PendingDelivery) : List UInt8 :=
  encodeText delivery.id.text ++ encodeWord delivery.timestamp.toUInt64

/-- A mark. -/
def encode (mark : Mark) : List UInt8 :=
  encodeOptionalText mark.sessionId ++ encodeWord (UInt64.ofNat mark.pending.length) ++
    mark.pending.flatMap encodeDelivery

/-! ## Reading -/

/-- The number that little-endian bytes stand for. -/
def ofLittleEndian : List UInt8 → Nat
  | [] => 0
  | byte :: rest => byte.toNat + 256 * ofLittleEndian rest

/-- The first bytes. -/
def readBytes (count : Nat) (bytes : List UInt8) :
    Except DecodeFault (List UInt8 × List UInt8) :=
  if count ≤ bytes.length then .ok (bytes.take count, bytes.drop count) else .error .endOfInput

/-- A word of eight bytes. -/
def readWord (bytes : List UInt8) : Except DecodeFault (UInt64 × List UInt8) := do
  let (word, rest) ← readBytes 8 bytes
  return (UInt64.ofNat (ofLittleEndian word), rest)

/-- A text behind its length. -/
def readText (bytes : List UInt8) : Except DecodeFault (String × List UInt8) := do
  let (length, rest) ← readWord bytes
  let (content, rest) ← readBytes length.toNat rest
  match String.fromUTF8? ⟨content.toArray⟩ with
  | some text => return (text, rest)
  | none => throw .badText

/-- An optional text. -/
def readOptionalText : List UInt8 → Except DecodeFault (Option String × List UInt8)
  | [] => .error .endOfInput
  | tag :: rest =>
    if tag = 0 then .ok (none, rest)
    else if tag = 1 then do
      let (text, rest) ← readText rest
      return (some text, rest)
    else .error .badTag

/-- An entry. -/
def readDelivery (bytes : List UInt8) :
    Except DecodeFault (PendingDelivery × List UInt8) := do
  let (id, rest) ← readText bytes
  let (timestamp, rest) ← readWord rest
  return (⟨⟨id⟩, timestamp.toInt64⟩, rest)

/-- A number of entries. -/
def readDeliveries :
    Nat → List UInt8 → Except DecodeFault (List PendingDelivery × List UInt8)
  | 0, bytes => .ok ([], bytes)
  | count + 1, bytes => do
    let (first, rest) ← readDelivery bytes
    let (others, rest) ← readDeliveries count rest
    return (first :: others, rest)

/-- The mark at the front of bytes. -/
def decode (bytes : List UInt8) : Except DecodeFault Mark := do
  let (sessionId, rest) ← readOptionalText bytes
  let (count, rest) ← readWord rest
  let (pending, _) ← readDeliveries count.toNat rest
  return { sessionId := sessionId, pending := pending }

end BrokerConnector.Mark
