import BrokerConnector.Proofs.Decoding

/-!
# Bytes that no mark is read from

The readers of a mark's parts stop at the first fault that they meet. Here the faults of each part
are told by what stands in the bytes: the end of the input before the part is complete, a tag that
is none, or a complete content that is no text. Each reader fails with a cause exactly if the bytes
have a fault of this cause, and the parts in front of it are sound.

Two consequences. Only the end of the input can be moved by bytes that follow, so bytes cut off a
written mark fail with that cause. And an announced number of entries that the bytes have no room
for is never read further than the bytes reach.
-/

namespace BrokerConnector.Mark

/-! ## Faults -/

/-- Bytes that no text is read from, and the cause. -/
inductive TextFault : List UInt8 → DecodeFault → Prop
  | noLength {bytes : List UInt8} (short : bytes.length < 8) : TextFault bytes .endOfInput
  | noContent {length : UInt64} {rest : List UInt8} (short : rest.length < length.toNat) :
      TextFault (encodeWord length ++ rest) .endOfInput
  | noText {length : UInt64} {content rest : List UInt8} (complete : content.length = length.toNat)
      (foreign : ∀ text : String, text.toByteArray.toList ≠ content) :
      TextFault (encodeWord length ++ (content ++ rest)) .badText

/-- Bytes that no optional text is read from, and the cause. -/
inductive OptionalTextFault : List UInt8 → DecodeFault → Prop
  | noTag : OptionalTextFault [] .endOfInput
  | otherTag {tag : UInt8} {rest : List UInt8} (notNone : tag ≠ 0) (notSome : tag ≠ 1) :
      OptionalTextFault (tag :: rest) .badTag
  | inText {rest : List UInt8} {fault : DecodeFault} (text : TextFault rest fault) :
      OptionalTextFault (1 :: rest) fault

/-- Bytes that no entry is read from, and the cause. -/
inductive DeliveryFault : List UInt8 → DecodeFault → Prop
  | inId {bytes : List UInt8} {fault : DecodeFault} (id : TextFault bytes fault) :
      DeliveryFault bytes fault
  | noTimestamp {id : String} {rest : List UInt8} (fits : id.utf8ByteSize < 2 ^ 64)
      (short : rest.length < 8) : DeliveryFault (encodeText id ++ rest) .endOfInput

/-- Bytes that a number of entries is not read from, and the cause: some entries are complete, and
the next one has a fault. -/
inductive DeliveriesFault (count : Nat) : List UInt8 → DecodeFault → Prop
  | inNext {pending : List PendingDelivery} {rest : List UInt8} {fault : DecodeFault}
      (unfinished : pending.length < count)
      (fit : ∀ delivery ∈ pending, delivery.id.text.utf8ByteSize < 2 ^ 64)
      (next : DeliveryFault rest fault) :
      DeliveriesFault count (pending.flatMap encodeDelivery ++ rest) fault

/-- Bytes that no mark is read from, and the cause. -/
inductive Fault : List UInt8 → DecodeFault → Prop
  | inSession {bytes : List UInt8} {fault : DecodeFault} (session : OptionalTextFault bytes fault) :
      Fault bytes fault
  | noCount {session : Option String} {rest : List UInt8}
      (fits : ∀ id, session = some id → id.utf8ByteSize < 2 ^ 64) (short : rest.length < 8) :
      Fault (encodeOptionalText session ++ rest) .endOfInput
  | inEntries {session : Option String} {count : UInt64} {rest : List UInt8} {fault : DecodeFault}
      (fits : ∀ id, session = some id → id.utf8ByteSize < 2 ^ 64)
      (entries : DeliveriesFault count.toNat rest fault) :
      Fault (encodeOptionalText session ++ (encodeWord count ++ rest)) fault

/-! ## Readers fail at the faults -/

/-- A reader that fails with a cause exactly if the bytes have a fault of this cause. -/
def Refuses {α : Type} (read : List UInt8 → Except DecodeFault α)
    (faulty : List UInt8 → DecodeFault → Prop) : Prop :=
  ∀ bytes fault, read bytes = .error fault ↔ faulty bytes fault

/-- A computation of two steps fails exactly if the first fails, or the second on what the first
gives. -/
theorem bind_eq_error_iff {α β : Type} {first : Except DecodeFault α}
    {second : α → Except DecodeFault β} {fault : DecodeFault} :
    first >>= second = .error fault ↔
      first = .error fault ∨ ∃ part, first = .ok part ∧ second part = .error fault := by
  cases first with
  | error met =>
    constructor
    · intro h
      exact .inl (congrArg Except.error (Except.error.inj h))
    · rintro (h | ⟨part, hpart, -⟩)
      · exact congrArg Except.error (Except.error.inj h)
      · cases hpart
  | ok part =>
    constructor
    · intro h
      exact .inr ⟨part, rfl, h⟩
    · rintro (h | ⟨found, hfound, h⟩)
      · cases h
      · obtain rfl := Except.ok.inj hfound
        exact h

/-- A step that only repacks what it is given does not fail. -/
theorem pure_ne_error {α : Type} {part : α} {fault : DecodeFault} :
    (pure part : Except DecodeFault α) ≠ .error fault := by
  intro h
  cases h

/-- Bytes are not read exactly if there are too few. -/
theorem refuses_bytes (count : Nat) : Refuses (readBytes count)
    fun bytes fault => bytes.length < count ∧ fault = .endOfInput := by
  intro bytes fault
  rw [readBytes]
  split
  · next henough =>
    constructor
    · intro h
      cases h
    · rintro ⟨hshort, -⟩
      omega
  · next hshort =>
    constructor
    · intro h
      exact ⟨by omega, (Except.error.inj h).symm⟩
    · rintro ⟨-, rfl⟩
      rfl

/-- A word is not read exactly if there are fewer than eight bytes. -/
theorem refuses_word : Refuses readWord
    fun bytes fault => bytes.length < 8 ∧ fault = .endOfInput := by
  intro bytes fault
  rw [readWord, bind_eq_error_iff, refuses_bytes 8 bytes fault]
  constructor
  · rintro (h | ⟨part, -, h⟩)
    · exact h
    · exact absurd h pure_ne_error
  · exact .inl

/-- Bytes that are no UTF-8 are those of no text. -/
theorem fromUTF8_eq_none_iff {content : List UInt8} :
    String.fromUTF8? ⟨content.toArray⟩ = none ↔
      ∀ text : String, text.toByteArray.toList ≠ content := by
  constructor
  · rintro h text rfl
    have harray : (⟨text.toByteArray.toList.toArray⟩ : ByteArray) = text.toByteArray := by
      rw [toList_byteArray]
    rw [harray, String.fromUTF8?, dif_pos text.isValidUTF8] at h
    cases h
  · intro h
    cases htext : String.fromUTF8? ⟨content.toArray⟩ with
    | none => rfl
    | some text =>
      refine absurd ?_ (h text)
      rw [toByteArray_of_fromUTF8 htext, toList_byteArray]

/-- A text is not read exactly if its length or its content is missing, or its content is no
text. -/
theorem refuses_text : Refuses readText TextFault := by
  intro bytes fault
  rw [readText, bind_eq_error_iff, refuses_word bytes fault]
  constructor
  · rintro (⟨hshort, rfl⟩ | ⟨⟨length, front⟩, hlength, h⟩)
    · exact .noLength hshort
    obtain ⟨-, rfl⟩ := (reads_word _ _ _).1 hlength
    rcases bind_eq_error_iff.1 h with hcontent | ⟨⟨content, rest⟩, hcontent, htext⟩
    · obtain ⟨hshort, rfl⟩ := (refuses_bytes _ _ _).1 hcontent
      exact .noContent hshort
    obtain ⟨hcomplete, rfl⟩ := (reads_bytes _ _ _ _).1 hcontent
    dsimp only at htext
    split at htext
    · exact absurd htext pure_ne_error
    · next hnone =>
      obtain rfl : fault = .badText := (Except.error.inj htext).symm
      exact .noText hcomplete (fromUTF8_eq_none_iff.1 hnone)
  · intro h
    cases h with
    | noLength hshort => exact .inl ⟨hshort, rfl⟩
    | @noContent length rest hshort =>
      have hbytes := (refuses_bytes length.toNat rest .endOfInput).2 ⟨hshort, rfl⟩
      exact .inr ⟨(length, rest), readWord_encodeWord _ _, bind_eq_error_iff.2 (.inl hbytes)⟩
    | @noText length content rest hcomplete hforeign =>
      have hbytes := (reads_bytes length.toNat (content ++ rest) content rest).2 ⟨hcomplete, rfl⟩
      have hnone := fromUTF8_eq_none_iff.2 hforeign
      refine .inr ⟨_, readWord_encodeWord _ _,
        bind_eq_error_iff.2 (.inr ⟨(content, rest), hbytes, ?_⟩)⟩
      dsimp only
      rw [hnone]
      rfl

/-- An optional text is not read exactly if its tag is missing or none, or the text that it
announces is not read. -/
theorem refuses_optionalText : Refuses readOptionalText OptionalTextFault := by
  intro bytes fault
  cases bytes with
  | nil =>
    constructor
    · intro h
      obtain rfl : fault = .endOfInput := (Except.error.inj h).symm
      exact .noTag
    · intro h
      cases h
      rfl
  | cons tag rest =>
    rw [readOptionalText]
    -- The tag says whether a text follows. A tag of zero ends the value, and nothing is refused.
    by_cases hnone : tag = 0
    · rw [if_pos hnone]
      constructor
      · intro h
        cases h
      · intro h
        cases h with
        | otherTag hne _ => exact absurd hnone hne
        | inText _ => exact absurd hnone (by decide)
    by_cases hsome : tag = 1
    · subst hsome
      rw [if_neg hnone, if_pos rfl, bind_eq_error_iff, refuses_text rest fault]
      constructor
      · rintro (h | ⟨part, -, h⟩)
        · exact .inText h
        · exact absurd h pure_ne_error
      · intro h
        cases h with
        | otherTag _ hne => exact absurd rfl hne
        | inText h => exact .inl h
    · rw [if_neg hnone, if_neg hsome]
      constructor
      · intro h
        obtain rfl : fault = .badTag := (Except.error.inj h).symm
        exact .otherTag hnone hsome
      · intro h
        cases h with
        | otherTag _ _ => rfl
        | inText _ => exact absurd rfl hsome

/-- An entry is not read exactly if its identifier is not read, or its timestamp is missing. -/
theorem refuses_delivery : Refuses readDelivery DeliveryFault := by
  intro bytes fault
  rw [readDelivery, bind_eq_error_iff, refuses_text bytes fault]
  constructor
  · rintro (h | ⟨⟨id, front⟩, hid, h⟩)
    · exact .inId h
    obtain ⟨hfits, rfl⟩ := (reads_text _ _ _).1 hid
    rcases bind_eq_error_iff.1 h with htimestamp | ⟨part, -, h⟩
    · obtain ⟨hshort, rfl⟩ := (refuses_word _ _).1 htimestamp
      exact .noTimestamp hfits hshort
    · exact absurd h pure_ne_error
  · intro h
    cases h with
    | inId h => exact .inl h
    | @noTimestamp id rest hfits hshort =>
      have hword := (refuses_word rest .endOfInput).2 ⟨hshort, rfl⟩
      exact .inr ⟨(id, rest), readText_encodeText hfits _, bind_eq_error_iff.2 (.inl hword)⟩

/-- A number of entries is not read exactly if one of them is not, and those in front of it are. -/
theorem refuses_deliveries (count : Nat) :
    Refuses (readDeliveries count) (DeliveriesFault count) := by
  intro bytes fault
  induction count generalizing bytes with
  | zero =>
    constructor
    · intro h
      cases h
    · rintro ⟨hunfinished, -, -⟩
      omega
  | succ count ih =>
    rw [readDeliveries, bind_eq_error_iff, refuses_delivery bytes fault]
    constructor
    · rintro (h | ⟨⟨first, front⟩, hfirst, h⟩)
      · exact @DeliveriesFault.inNext _ [] _ _ (by simp) (by simp) h
      obtain ⟨hfits, rfl⟩ := (reads_delivery _ _ _).1 hfirst
      rcases bind_eq_error_iff.1 h with hothers | ⟨part, -, h⟩
      · obtain @⟨pending, rest, _, hunfinished, hfit, hnext⟩ := (ih front).1 hothers
        rw [← List.append_assoc, ← List.flatMap_cons]
        exact .inNext (by simpa using hunfinished) (List.forall_mem_cons.2 ⟨hfits, hfit⟩) hnext
      · exact absurd h pure_ne_error
    · rintro @⟨pending, rest, _, hunfinished, hfit, hnext⟩
      cases pending with
      | nil => exact .inl hnext
      | cons first others =>
        obtain ⟨hfits, hfit⟩ := List.forall_mem_cons.1 hfit
        have hothers : readDeliveries count (others.flatMap encodeDelivery ++ rest) =
            .error fault :=
          (ih _).2 (.inNext (by simpa using hunfinished) hfit hnext)
        rw [List.flatMap_cons, List.append_assoc]
        exact .inr ⟨_, readDelivery_encodeDelivery hfits _, bind_eq_error_iff.2 (.inl hothers)⟩

/-- A mark is not read exactly if its bytes have a fault, and the cause is that of the first
fault. -/
theorem refuses_decode : Refuses decode Fault := by
  intro bytes fault
  rw [decode, bind_eq_error_iff, refuses_optionalText bytes fault]
  constructor
  · rintro (h | ⟨⟨session, front⟩, hsession, h⟩)
    · exact .inSession h
    obtain ⟨hfits, rfl⟩ := (reads_optionalText _ _ _).1 hsession
    rcases bind_eq_error_iff.1 h with hcount | ⟨⟨count, rest⟩, hcount, hlast⟩
    · obtain ⟨hshort, rfl⟩ := (refuses_word _ _).1 hcount
      exact .noCount hfits hshort
    obtain ⟨-, rfl⟩ := (reads_word _ _ _).1 hcount
    rcases bind_eq_error_iff.1 hlast with hentries | ⟨part, -, hpart⟩
    · exact .inEntries hfits ((refuses_deliveries _ _ _).1 hentries)
    · exact absurd hpart pure_ne_error
  · intro h
    cases h with
    | inSession h => exact .inl h
    | @noCount session rest hfits hshort =>
      have hcount := (refuses_word rest .endOfInput).2 ⟨hshort, rfl⟩
      exact .inr ⟨(session, rest), readOptionalText_encodeOptionalText hfits _,
        bind_eq_error_iff.2 (.inl hcount)⟩
    | @inEntries session count rest _ hfits hentries =>
      have hrest := (refuses_deliveries count.toNat rest fault).2 hentries
      exact .inr ⟨_, readOptionalText_encodeOptionalText hfits _,
        bind_eq_error_iff.2 (.inr ⟨_, readWord_encodeWord _ _, bind_eq_error_iff.2 (.inl hrest)⟩)⟩

/-! ## Bytes behind a fault -/

section Behind

variable {bytes : List UInt8} {fault : DecodeFault} (tail : List UInt8)

/-- A fault in a text other than the end of the input does not depend on what follows. -/
theorem TextFault.append (h : TextFault bytes fault) (hmet : fault ≠ .endOfInput) :
    TextFault (bytes ++ tail) fault := by
  cases h with
  | noLength _ => exact absurd rfl hmet
  | noContent _ => exact absurd rfl hmet
  | noText hcomplete hforeign =>
    rw [List.append_assoc, List.append_assoc]
    exact .noText hcomplete hforeign

/-- A fault in an optional text other than the end of the input does not depend on what follows. -/
theorem OptionalTextFault.append (h : OptionalTextFault bytes fault) (hmet : fault ≠ .endOfInput) :
    OptionalTextFault (bytes ++ tail) fault := by
  cases h with
  | noTag => exact absurd rfl hmet
  | otherTag hnone hsome => exact .otherTag hnone hsome
  | inText h => exact .inText (h.append tail hmet)

/-- A fault in an entry other than the end of the input does not depend on what follows. -/
theorem DeliveryFault.append (h : DeliveryFault bytes fault) (hmet : fault ≠ .endOfInput) :
    DeliveryFault (bytes ++ tail) fault := by
  cases h with
  | inId h => exact .inId (h.append tail hmet)
  | noTimestamp _ _ => exact absurd rfl hmet

/-- A fault other than the end of the input does not depend on what follows. -/
theorem Fault.append (h : Fault bytes fault) (hmet : fault ≠ .endOfInput) :
    Fault (bytes ++ tail) fault := by
  cases h with
  | inSession h => exact .inSession (h.append tail hmet)
  | noCount _ _ => exact absurd rfl hmet
  | inEntries hfits hentries =>
    obtain ⟨hunfinished, hfit, hnext⟩ := hentries
    simp only [List.append_assoc]
    exact .inEntries hfits (.inNext hunfinished hfit (hnext.append tail hmet))

end Behind

/-- What is left of the bytes of a mark when some are cut off their end is read up to the cut, and
no mark is read from it. -/
theorem decode_cut {mark : Mark} (hfits : mark.Fits) {cut : List UInt8}
    (hcut : cut <+: mark.encode) (hproper : cut ≠ mark.encode) :
    decode cut = .error .endOfInput := by
  obtain ⟨tail, htail⟩ := hcut
  have hwhole : decode (cut ++ tail) =
      .ok { sessionId := mark.sessionId, pending := mark.pending } := by
    rw [htail, decode_encode hfits]
  cases hread : decode cut with
  | ok found =>
    -- A mark read from the cut is read from the whole, so it is the mark itself, which is longer.
    obtain ⟨hfound, hwritten⟩ := decode_eq_ok_iff.1 hread
    have hsame := decode_eq_ok_iff.2 ⟨hfound, hwritten.trans (List.prefix_append cut tail)⟩
    rw [hwhole] at hsame
    obtain rfl := Except.ok.inj hsame
    have hall : mark.encode <+: cut := hwritten
    have hlength := congrArg List.length htail
    rw [List.length_append] at hlength
    exact absurd (hall.eq_of_length (by have := hall.length_le; omega)).symm hproper
  | error fault =>
    by_cases hmet : fault = .endOfInput
    · rw [hmet]
    · have hstill := (refuses_decode _ _).2 (((refuses_decode _ _).1 hread).append tail hmet)
      rw [hwhole] at hstill
      cases hstill

/-! ## Announced entries -/

/-- An entry takes sixteen bytes at least. -/
theorem sixteen_le_length_encodeDelivery (delivery : PendingDelivery) :
    16 ≤ (encodeDelivery delivery).length := by
  simp only [encodeDelivery, encodeText, encodeWord, List.length_append, length_littleEndian]
  omega

/-- Entries take sixteen bytes each at least. -/
theorem length_le_length_flatMap_encodeDelivery (pending : List PendingDelivery) :
    16 * pending.length ≤ (pending.flatMap encodeDelivery).length := by
  induction pending with
  | nil => exact Nat.zero_le _
  | cons first others ih =>
    have hfirst := sixteen_le_length_encodeDelivery first
    rw [List.length_cons, List.flatMap_cons, List.length_append]
    omega

/-- A fault that is met in reading some entries is met in reading any number of entries that the
bytes have no room for. -/
theorem DeliveriesFault.of_length_lt {count other : Nat} {bytes : List UInt8} {fault : DecodeFault}
    (h : DeliveriesFault count bytes fault) (hroom : bytes.length < 16 * other) :
    DeliveriesFault other bytes fault := by
  obtain @⟨pending, rest, _, -, hfit, hnext⟩ := h
  have hpending := length_le_length_flatMap_encodeDelivery pending
  rw [List.length_append] at hroom
  exact .inNext (by omega) hfit hnext

/-- Entries that the bytes have no room for are not read. -/
theorem exists_fault_of_length_lt {count : Nat} {bytes : List UInt8}
    (hroom : bytes.length < 16 * count) : ∃ fault, readDeliveries count bytes = .error fault := by
  cases hread : readDeliveries count bytes with
  | error fault => exact ⟨fault, rfl⟩
  | ok part =>
    obtain ⟨⟨rfl, -⟩, rfl⟩ := (reads_deliveries count bytes part.1 part.2).1 hread
    have hpending := length_le_length_flatMap_encodeDelivery part.1
    simp only [List.length_append] at hroom
    omega

/-- However many entries are announced, no more of them are tried than the bytes have room for, and
one. -/
theorem readDeliveries_of_length_lt {count : Nat} {bytes : List UInt8}
    (hroom : bytes.length < 16 * count) :
    readDeliveries count bytes = readDeliveries (bytes.length / 16 + 1) bytes := by
  obtain ⟨fault, hfault⟩ := exists_fault_of_length_lt hroom
  have hmet := ((refuses_deliveries count bytes fault).1 hfault).of_length_lt
    (show bytes.length < 16 * (bytes.length / 16 + 1) by omega)
  rw [hfault, (refuses_deliveries _ _ _).2 hmet]

/-- A text or a timestamp has no tag, so an entry is faulty in one of the two other ways. -/
theorem DeliveryFault.eq_or {bytes : List UInt8} {fault : DecodeFault}
    (h : DeliveryFault bytes fault) : fault = .endOfInput ∨ fault = .badText := by
  cases h with
  | inId h =>
    cases h with
    | noLength _ => exact .inl rfl
    | noContent _ => exact .inl rfl
    | noText _ _ => exact .inr rfl
  | noTimestamp _ _ => exact .inl rfl

/-! ## The cause that is reported -/

/-- The sound bytes in front of a text of a mark: the tag of a session identifier, or everything up
to the identifier of an announced entry. -/
inductive AtText : List UInt8 → Prop
  | session : AtText [1]
  | entry {session : Option String} {count : UInt64} {pending : List PendingDelivery}
      (fits : ∀ id, session = some id → id.utf8ByteSize < 2 ^ 64)
      (unfinished : pending.length < count.toNat)
      (fit : ∀ delivery ∈ pending, delivery.id.text.utf8ByteSize < 2 ^ 64) :
      AtText (encodeOptionalText session ++ (encodeWord count ++ pending.flatMap encodeDelivery))

/-- A fault in a text is a fault of the mark whose sound bytes stand in front of the text. -/
theorem AtText.fault {front bytes : List UInt8} {fault : DecodeFault} (h : AtText front)
    (hfault : TextFault bytes fault) : Fault (front ++ bytes) fault := by
  cases h with
  | session => exact .inSession (.inText hfault)
  | entry hfits hunfinished hfit =>
    simp only [List.append_assoc]
    exact .inEntries hfits (.inNext hunfinished hfit (.inId hfault))

/-- Every byte string begins with the bytes of a mark, which is read, or has a fault, whose cause is
reported.

* Bytes cut off a written mark anywhere leave an input that ends too soon.
* So does a length of a text that tells more bytes than follow, however large it is.
* A number of entries that the bytes have no room for is met by the end of the input, or by an
  identifier in front of it that is no text, and not read further than the bytes reach.
* A tag that is none and a complete text that is no UTF-8 are reported as such, unless something in
  front of them is at fault. -/
theorem decode_damaged :
    (∀ bytes, (∃ mark, decode bytes = .ok mark ∧ mark.Fits ∧ mark.encode <+: bytes) ∨
      ∃ fault, decode bytes = .error fault) ∧
    (∀ bytes fault, decode bytes = .error fault ↔ Fault bytes fault) ∧
    (∀ (mark : Mark) (cut : List UInt8), mark.Fits → cut <+: mark.encode → cut ≠ mark.encode →
      decode cut = .error .endOfInput) ∧
    (∀ front, AtText front → ∀ (length : UInt64) (rest : List UInt8),
      rest.length < length.toNat →
        decode (front ++ (encodeWord length ++ rest)) = .error .endOfInput) ∧
    (∀ (session : Option String) (count : UInt64) (rest : List UInt8),
      (∀ id, session = some id → id.utf8ByteSize < 2 ^ 64) → rest.length < 16 * count.toNat →
        (decode (encodeOptionalText session ++ (encodeWord count ++ rest)) = .error .endOfInput ∨
          decode (encodeOptionalText session ++ (encodeWord count ++ rest)) = .error .badText ∧
            DeliveriesFault count.toNat rest .badText) ∧
        readDeliveries count.toNat rest = readDeliveries (rest.length / 16 + 1) rest) ∧
    (∀ (tag : UInt8) (rest : List UInt8), tag ≠ 0 → tag ≠ 1 →
      decode (tag :: rest) = .error .badTag) ∧
    (∀ front, AtText front → ∀ (length : UInt64) (content rest : List UInt8),
      content.length = length.toNat → (∀ text : String, text.toByteArray.toList ≠ content) →
        decode (front ++ (encodeWord length ++ (content ++ rest))) = .error .badText) := by
  refine ⟨fun bytes => ?_, refuses_decode, fun mark cut hfits => decode_cut hfits,
    fun front hfront length rest hshort => ?_, fun session count rest hfits hroom => ?_,
    fun tag rest hnone hsome => ?_, fun front hfront length content rest hcomplete hforeign => ?_⟩
  · cases hread : decode bytes with
    | error fault => exact .inr ⟨fault, rfl⟩
    | ok mark =>
      obtain ⟨⟨hfits, -, -⟩, hwritten⟩ := decode_eq_ok_iff.1 hread
      exact .inl ⟨mark, rfl, hfits, hwritten⟩
  · exact (refuses_decode _ _).2 (hfront.fault (.noContent hshort))
  · refine ⟨?_, readDeliveries_of_length_lt hroom⟩
    obtain ⟨fault, hfault⟩ := exists_fault_of_length_lt hroom
    have hentries := (refuses_deliveries _ _ _).1 hfault
    have hread := (refuses_decode _ _).2 (.inEntries hfits hentries)
    have hcause : fault = .endOfInput ∨ fault = .badText := by
      obtain ⟨-, -, hnext⟩ := hentries
      exact hnext.eq_or
    rcases hcause with rfl | rfl
    · exact .inl hread
    · exact .inr ⟨hread, hentries⟩
  · exact (refuses_decode _ _).2 (.inSession (.otherTag hnone hsome))
  · exact (refuses_decode _ _).2 (hfront.fault (.noText hcomplete hforeign))

/-- A mark whose session identifier is cut inside a character, the largest length and count with a
few bytes behind them, a tag that is none, and two bytes that are no text in front of a cut. -/
theorem decode_damaged_extremes :
    (extremes.Fits ∧ extremes.encode.take 18 <+: extremes.encode ∧
      extremes.encode.take 18 ≠ extremes.encode ∧
      decode (extremes.encode.take 18) = .error .endOfInput) ∧
    decode ([1] ++ (encodeWord 0xFFFFFFFFFFFFFFFF ++ [97, 98])) = .error .endOfInput ∧
    (([97, 98] : List UInt8).length < 16 * (0xFFFFFFFFFFFFFFFF : UInt64).toNat ∧
      readDeliveries (0xFFFFFFFFFFFFFFFF : UInt64).toNat [97, 98] = readDeliveries 1 [97, 98]) ∧
    decode [2, 1] = .error .badTag ∧
    (AtText (encodeOptionalText none ++ (encodeWord 1 ++ [].flatMap encodeDelivery)) ∧
      decode (encodeOptionalText none ++ (encodeWord 1 ++ [].flatMap encodeDelivery) ++
        (encodeWord 2 ++ ([255, 254] ++ []))) = .error .badText) := by
  obtain ⟨-, -, hshorter, hlength, hcount, htag, htext⟩ := decode_damaged
  have hfits : extremes.Fits := by decide
  have hcut : extremes.encode.take 18 <+: extremes.encode := List.take_prefix 18 _
  have hlong : 16 * 3 ≤ extremes.encode.length := by
    rw [encode, List.length_append]
    exact Nat.le_trans (length_le_length_flatMap_encodeDelivery extremes.pending)
      (Nat.le_add_left _ _)
  have hproper : extremes.encode.take 18 ≠ extremes.encode := by
    intro h
    have hlength := congrArg List.length h
    rw [List.length_take] at hlength
    omega
  have hfront : AtText (encodeOptionalText none ++ (encodeWord 1 ++ [].flatMap encodeDelivery)) :=
    .entry (by simp) (by decide) (by simp)
  have hforeign : ∀ text : String, text.toByteArray.toList ≠ [255, 254] :=
    fromUTF8_eq_none_iff.1 (by rfl)
  exact ⟨⟨hfits, hcut, hproper, hshorter extremes _ hfits hcut hproper⟩,
    hlength [1] .session _ _ (by decide),
    ⟨by decide, (hcount none 0xFFFFFFFFFFFFFFFF [97, 98] (by simp) (by decide)).2⟩,
    htag 2 [1] (by decide) (by decide),
    hfront, htext _ hfront 2 [255, 254] [] (by decide) hforeign⟩

end BrokerConnector.Mark
