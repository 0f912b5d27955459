import BrokerConnector.Mark.Codec
import Mathlib.Algebra.Group.Nat.Defs

/-!
# Marks survive their bytes

Every reader gives back what the writer of the same part wrote, whatever bytes follow. Lengths are
written as words of eight bytes, so this takes texts and lists that are no longer than a word can
tell. A mark that is read back is detached and counts nothing, but lists the same entries.
-/

namespace BrokerConnector.Mark

/-! ## Words -/

@[simp]
theorem length_littleEndian (width value : Nat) : (littleEndian width value).length = width := by
  induction width generalizing value with
  | zero => rfl
  | succ width ih => rw [littleEndian, List.length_cons, ih]

/-- Little-endian bytes stand for the number that they were made of, if they have room for it. -/
theorem ofLittleEndian_littleEndian {width value : Nat} (h : value < 256 ^ width) :
    ofLittleEndian (littleEndian width value) = value := by
  induction width generalizing value with
  | zero =>
    obtain rfl : value = 0 := by simpa using h
    rfl
  | succ width ih =>
    have hrest : value / 256 < 256 ^ width := by
      rw [Nat.div_lt_iff_lt_mul (by omega)]
      rwa [Nat.pow_succ] at h
    rw [littleEndian, ofLittleEndian, ih hrest, UInt8.toNat_ofNat']
    omega

/-- As many bytes are read as there are in front. -/
theorem readBytes_append (bytes rest : List UInt8) :
    readBytes bytes.length (bytes ++ rest) = .ok (bytes, rest) := by
  simp [readBytes]

/-- A word is read back. -/
theorem readWord_encodeWord (value : UInt64) (rest : List UInt8) :
    readWord (encodeWord value ++ rest) = .ok (value, rest) := by
  have hread := readBytes_append (encodeWord value) rest
  have hlength : (encodeWord value).length = 8 := length_littleEndian _ _
  have hvalue : ofLittleEndian (encodeWord value) = value.toNat :=
    ofLittleEndian_littleEndian value.toNat_lt
  rw [hlength] at hread
  rw [readWord, hread]
  simp only [bind, Except.bind, hvalue, UInt64.ofNat_toNat]
  rfl

/-! ## Texts -/

/-- The list of an array of bytes is the list behind it. -/
theorem toList_byteArray (bytes : ByteArray) : bytes.toList = bytes.data.toList := by
  have hloop : ∀ (count i : Nat) (front : List UInt8), bytes.size - i = count →
      ByteArray.toList.loop bytes i front = front.reverse ++ bytes.data.toList.drop i := by
    intro count
    induction count with
    | zero =>
      intro i front hi
      have hover : bytes.data.toList.length ≤ i := by
        rw [Array.length_toList]
        exact Nat.le_of_sub_eq_zero hi
      rw [ByteArray.toList.loop, if_neg (by omega), List.drop_eq_nil_of_le hover, List.append_nil]
    | succ count ih =>
      intro i front hi
      have hsize : i < bytes.size := by omega
      have hlt : i < bytes.data.toList.length := by rwa [Array.length_toList]
      have hget : bytes.get! i = bytes.data.toList[i] := by
        rw [Array.getElem_toList]
        exact getElem!_pos bytes.data i hsize
      rw [ByteArray.toList.loop, if_pos hsize, ih (i + 1) _ (by omega), List.reverse_cons,
        List.append_assoc, List.singleton_append, hget, List.getElem_cons_drop]
  exact hloop _ 0 [] rfl

/-- A text is read back, if a word can tell its length. -/
theorem readText_encodeText {text : String} (h : text.utf8ByteSize < 2 ^ 64) (rest : List UInt8) :
    readText (encodeText text ++ rest) = .ok (text, rest) := by
  have hlength : (UInt64.ofNat text.utf8ByteSize).toNat = text.toByteArray.toList.length := by
    rw [UInt64.toNat_ofNat_of_lt' h, toList_byteArray, Array.length_toList]
    rfl
  have harray : (⟨text.toByteArray.toList.toArray⟩ : ByteArray) = text.toByteArray := by
    rw [toList_byteArray]
  have htext : String.fromUTF8? text.toByteArray = some text := by
    rw [String.fromUTF8?, dif_pos text.isValidUTF8]
    rfl
  rw [readText, encodeText, List.append_assoc, readWord_encodeWord]
  simp only [bind, Except.bind, hlength, readBytes_append, harray, htext]
  rfl

/-- An optional text is read back, if a word can tell its length. -/
theorem readOptionalText_encodeOptionalText {text : Option String}
    (h : ∀ content, text = some content → content.utf8ByteSize < 2 ^ 64) (rest : List UInt8) :
    readOptionalText (encodeOptionalText text ++ rest) = .ok (text, rest) := by
  cases text with
  | none => rfl
  | some content =>
    rw [encodeOptionalText, List.cons_append, readOptionalText, if_neg (by decide), if_pos rfl,
      readText_encodeText (h content rfl)]
    rfl

/-! ## Marks -/

/-- An entry is read back, if a word can tell the length of its identifier. -/
theorem readDelivery_encodeDelivery {delivery : PendingDelivery}
    (h : delivery.id.text.utf8ByteSize < 2 ^ 64) (rest : List UInt8) :
    readDelivery (encodeDelivery delivery ++ rest) = .ok (delivery, rest) := by
  rw [readDelivery, encodeDelivery, List.append_assoc, readText_encodeText h]
  simp only [bind, Except.bind, readWord_encodeWord]
  rfl

/-- Entries are read back, if words can tell the lengths of their identifiers. -/
theorem readDeliveries_flatMap {deliveries : List PendingDelivery}
    (h : ∀ delivery ∈ deliveries, delivery.id.text.utf8ByteSize < 2 ^ 64) (rest : List UInt8) :
    readDeliveries deliveries.length (deliveries.flatMap encodeDelivery ++ rest) =
      .ok (deliveries, rest) := by
  induction deliveries with
  | nil => rfl
  | cons first others ih =>
    rw [List.length_cons, readDeliveries, List.flatMap_cons, List.append_assoc,
      readDelivery_encodeDelivery (h first List.mem_cons_self)]
    simp only [bind, Except.bind, ih fun delivery hmem => h delivery (List.mem_cons_of_mem _ hmem)]
    rfl

/-- A mark that words can tell all lengths of, as they can of any that a machine holds. -/
structure Fits (mark : Mark) : Prop where
  session : ∀ id, mark.sessionId = some id → id.utf8ByteSize < 2 ^ 64
  entries : mark.pending.length < 2 ^ 64
  ids : ∀ delivery ∈ mark.pending, delivery.id.text.utf8ByteSize < 2 ^ 64

instance (mark : Mark) : Decidable mark.Fits :=
  decidable_of_iff ((∀ id ∈ mark.sessionId, id.utf8ByteSize < 2 ^ 64) ∧
      mark.pending.length < 2 ^ 64 ∧ ∀ delivery ∈ mark.pending,
        delivery.id.text.utf8ByteSize < 2 ^ 64)
    ⟨fun h => ⟨h.1, h.2.1, h.2.2⟩, fun h => ⟨h.session, h.entries, h.ids⟩⟩

/-- A mark that is read back from its bytes lists the same entries. It is detached, and none of its
entries are counted. -/
theorem decode_encode {mark : Mark} (h : mark.Fits) :
    decode mark.encode = .ok { sessionId := mark.sessionId, pending := mark.pending } := by
  have hlength : (UInt64.ofNat mark.pending.length).toNat = mark.pending.length :=
    UInt64.toNat_ofNat_of_lt' h.entries
  have hentries := readDeliveries_flatMap h.ids []
  rw [List.append_nil] at hentries
  rw [decode, encode, List.append_assoc, readOptionalText_encodeOptionalText h.session]
  simp only [bind, Except.bind, readWord_encodeWord, hlength, hentries]
  rfl

end BrokerConnector.Mark
