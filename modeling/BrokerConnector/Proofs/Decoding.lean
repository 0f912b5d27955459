import BrokerConnector.Proofs.Codec

/-!
# Bytes that a mark is read from

The readers of a mark's parts accept what the writers produce and nothing else: a part is read
exactly if the bytes begin with what is written for it, and the bytes behind are left. So a mark
has one written form. The parts that words can tell all lengths of are those that fit.
-/

namespace BrokerConnector.Mark

/-! ## Words -/

/-- Little-endian bytes stand for a number that they have room for. -/
theorem ofLittleEndian_lt (bytes : List UInt8) : ofLittleEndian bytes < 256 ^ bytes.length := by
  induction bytes with
  | nil => exact Nat.one_pos
  | cons byte rest ih =>
    have hbyte : byte.toNat < 256 := byte.toNat_lt
    rw [ofLittleEndian, List.length_cons, Nat.pow_succ]
    omega

/-- The little-endian bytes of the number that bytes stand for are these bytes. -/
theorem littleEndian_ofLittleEndian (bytes : List UInt8) :
    littleEndian bytes.length (ofLittleEndian bytes) = bytes := by
  induction bytes with
  | nil => rfl
  | cons byte rest ih =>
    have hbyte : byte.toNat < 256 := byte.toNat_lt
    have hlow : UInt8.ofNat (byte.toNat + 256 * ofLittleEndian rest) = byte := by
      apply UInt8.toNat_inj.1
      rw [UInt8.toNat_ofNat']
      omega
    have hhigh : (byte.toNat + 256 * ofLittleEndian rest) / 256 = ofLittleEndian rest := by omega
    rw [List.length_cons, ofLittleEndian, littleEndian, hlow, hhigh, ih]

/-! ## Readers and writers of a part -/

/-- A reader that accepts exactly what is written for the parts that fit, and leaves the bytes
behind it. -/
def Reads {α : Type} (read : List UInt8 → Except DecodeFault (α × List UInt8))
    (written : α → List UInt8) (fits : α → Prop) : Prop :=
  ∀ bytes part rest, read bytes = .ok (part, rest) ↔ fits part ∧ bytes = written part ++ rest

/-- A computation of two steps answers exactly if both steps do. -/
theorem bind_eq_ok_iff {α β : Type} {first : Except DecodeFault α}
    {second : α → Except DecodeFault β} {answer : β} :
    first >>= second = .ok answer ↔ ∃ part, first = .ok part ∧ second part = .ok answer := by
  cases first with
  | error fault =>
    constructor
    · intro h
      cases h
    · rintro ⟨part, hpart, -⟩
      cases hpart
  | ok part =>
    constructor
    · intro h
      exact ⟨part, rfl, h⟩
    · rintro ⟨found, hfound, h⟩
      obtain rfl := Except.ok.inj hfound
      exact h

/-- Bytes are read exactly if there are as many. -/
theorem reads_bytes (count : Nat) : Reads (readBytes count) id (·.length = count) := by
  intro bytes part rest
  constructor
  · intro h
    rw [readBytes] at h
    split at h
    · next hcount =>
      obtain ⟨rfl, rfl⟩ := Prod.mk.inj (Except.ok.inj h)
      exact ⟨List.length_take_of_le hcount, (List.take_append_drop count bytes).symm⟩
    · cases h
  · rintro ⟨rfl, rfl⟩
    exact readBytes_append part rest

/-- A word is read from its eight bytes only. -/
theorem reads_word : Reads readWord encodeWord fun _ => True := by
  intro bytes value rest
  refine ⟨fun h => ⟨trivial, ?_⟩, fun ⟨_, h⟩ => h ▸ readWord_encodeWord value rest⟩
  obtain ⟨⟨word, behind⟩, hword, h⟩ := bind_eq_ok_iff.1 h
  obtain ⟨rfl, rfl⟩ := Prod.mk.inj (Except.ok.inj h)
  obtain ⟨hlength, rfl⟩ := (reads_bytes 8 _ _ _).1 hword
  have hroom : ofLittleEndian word < 2 ^ 64 := by
    have hlt := ofLittleEndian_lt word
    rwa [hlength] at hlt
  have hwritten : encodeWord (UInt64.ofNat (ofLittleEndian word)) = word := by
    rw [encodeWord, UInt64.toNat_ofNat_of_lt' hroom, ← hlength, littleEndian_ofLittleEndian]
  rw [hwritten, id_eq]

/-! ## Texts -/

/-- A text that bytes are the UTF-8 form of has these bytes. -/
theorem toByteArray_of_fromUTF8 {bytes : ByteArray} {text : String}
    (h : String.fromUTF8? bytes = some text) : text.toByteArray = bytes := by
  rw [String.fromUTF8?] at h
  split at h
  · exact congrArg String.toByteArray (Option.some.inj h).symm
  · cases h

/-- A text is read from its length and its bytes only. -/
theorem reads_text : Reads readText encodeText (·.utf8ByteSize < 2 ^ 64) := by
  intro bytes text rest
  refine ⟨fun h => ?_, fun ⟨hsize, h⟩ => h ▸ readText_encodeText hsize rest⟩
  obtain ⟨⟨length, front⟩, hlength, h⟩ := bind_eq_ok_iff.1 h
  obtain ⟨⟨content, behind⟩, hcontent, htext⟩ := bind_eq_ok_iff.1 h
  obtain ⟨-, rfl⟩ := (reads_word _ _ _).1 hlength
  obtain ⟨hsize, rfl⟩ := (reads_bytes _ _ _ _).1 hcontent
  dsimp only at htext
  split at htext
  case h_2 => cases htext
  case h_1 found hfound =>
    obtain ⟨rfl, rfl⟩ := Prod.mk.inj (Except.ok.inj htext)
    have hbytes := toByteArray_of_fromUTF8 hfound
    have hlist : found.toByteArray.toList = content := by rw [hbytes, toList_byteArray]
    have hcount : found.utf8ByteSize = length.toNat := by
      calc found.utf8ByteSize = found.toByteArray.size := rfl
        _ = content.toArray.size := by rw [hbytes]; rfl
        _ = length.toNat := by rw [List.size_toArray, hsize]
    refine ⟨?_, ?_⟩
    · show found.utf8ByteSize < 2 ^ 64
      rw [hcount]
      exact length.toNat_lt
    · rw [encodeText, hcount, UInt64.ofNat_toNat, hlist, List.append_assoc, id_eq]

/-- An optional text is read from its tag, and from the text if the tag announces one. -/
theorem reads_optionalText : Reads readOptionalText encodeOptionalText
    fun text => ∀ content, text = some content → content.utf8ByteSize < 2 ^ 64 := by
  intro bytes text rest
  refine ⟨fun h => ?_, fun ⟨hsize, h⟩ => h ▸ readOptionalText_encodeOptionalText hsize rest⟩
  cases bytes with
  | nil => cases h
  | cons tag behind =>
    rw [readOptionalText] at h
    by_cases hnone : tag = 0
    · rw [if_pos hnone] at h
      obtain ⟨rfl, rfl⟩ := Prod.mk.inj (Except.ok.inj h)
      constructor
      · intro content hcontent
        cases hcontent
      · rw [hnone, encodeOptionalText, List.singleton_append]
    · by_cases hsome : tag = 1
      · rw [if_neg hnone, if_pos hsome] at h
        obtain ⟨⟨content, after⟩, hcontent, h⟩ := bind_eq_ok_iff.1 h
        obtain ⟨rfl, rfl⟩ := Prod.mk.inj (Except.ok.inj h)
        obtain ⟨hsize, rfl⟩ := (reads_text _ _ _).1 hcontent
        constructor
        · intro found hfound
          rwa [← Option.some.inj hfound]
        · rw [hsome, encodeOptionalText, List.cons_append]
      · rw [if_neg hnone, if_neg hsome] at h
        cases h

/-! ## Marks -/

/-- An entry is read from its identifier and its timestamp only. -/
theorem reads_delivery :
    Reads readDelivery encodeDelivery (·.id.text.utf8ByteSize < 2 ^ 64) := by
  intro bytes delivery rest
  refine ⟨fun h => ?_, fun ⟨hsize, h⟩ => h ▸ readDelivery_encodeDelivery hsize rest⟩
  obtain ⟨⟨id, front⟩, hid, h⟩ := bind_eq_ok_iff.1 h
  obtain ⟨⟨timestamp, behind⟩, htimestamp, h⟩ := bind_eq_ok_iff.1 h
  obtain ⟨rfl, rfl⟩ := Prod.mk.inj (Except.ok.inj h)
  obtain ⟨hsize, rfl⟩ := (reads_text _ _ _).1 hid
  obtain ⟨-, rfl⟩ := (reads_word _ _ _).1 htimestamp
  refine ⟨hsize, ?_⟩
  rw [encodeDelivery, UInt64.toUInt64_toInt64, List.append_assoc]

/-- A number of entries is read from these entries only. -/
theorem reads_deliveries (count : Nat) : Reads (readDeliveries count) (·.flatMap encodeDelivery)
    fun deliveries => deliveries.length = count ∧
      ∀ delivery ∈ deliveries, delivery.id.text.utf8ByteSize < 2 ^ 64 := by
  intro bytes deliveries rest
  constructor
  · intro h
    induction count generalizing bytes deliveries with
    | zero =>
      obtain ⟨rfl, rfl⟩ := Prod.mk.inj (Except.ok.inj h)
      exact ⟨⟨rfl, List.forall_mem_nil _⟩, rfl⟩
    | succ count ih =>
      obtain ⟨⟨first, front⟩, hfirst, h⟩ := bind_eq_ok_iff.1 h
      obtain ⟨⟨others, behind⟩, hothers, h⟩ := bind_eq_ok_iff.1 h
      obtain ⟨rfl, rfl⟩ := Prod.mk.inj (Except.ok.inj h)
      obtain ⟨hsize, rfl⟩ := (reads_delivery _ _ _).1 hfirst
      obtain ⟨⟨hlength, hsizes⟩, rfl⟩ := ih _ _ hothers
      refine ⟨⟨by rw [List.length_cons, hlength], List.forall_mem_cons.2 ⟨hsize, hsizes⟩⟩, ?_⟩
      simp only [List.flatMap_cons, List.append_assoc]
  · rintro ⟨⟨rfl, hsizes⟩, rfl⟩
    exact readDeliveries_flatMap hsizes rest

/-- Bytes are read as a mark exactly if they begin with its written form, and the mark is a
detached one that fits and counts nothing. -/
theorem decode_eq_ok_iff {bytes : List UInt8} {mark : Mark} :
    decode bytes = .ok mark ↔
      (mark.Fits ∧ mark.session = none ∧ mark.tracked = 0) ∧ mark.encode <+: bytes := by
  constructor
  · intro h
    obtain ⟨⟨sessionId, front⟩, hsession, h⟩ := bind_eq_ok_iff.1 h
    obtain ⟨⟨count, behind⟩, hcount, h⟩ := bind_eq_ok_iff.1 h
    obtain ⟨⟨pending, rest⟩, hpending, h⟩ := bind_eq_ok_iff.1 h
    obtain rfl := Except.ok.inj h
    obtain ⟨hid, rfl⟩ := (reads_optionalText _ _ _).1 hsession
    obtain ⟨-, rfl⟩ := (reads_word _ _ _).1 hcount
    obtain ⟨⟨hlength, hsizes⟩, rfl⟩ := (reads_deliveries _ _ _ _).1 hpending
    have hentries : pending.length < 2 ^ 64 := hlength ▸ count.toNat_lt
    refine ⟨⟨⟨hid, hentries, hsizes⟩, rfl, rfl⟩, rest, ?_⟩
    rw [encode, hlength, UInt64.ofNat_toNat, List.append_assoc, List.append_assoc]
  · rintro ⟨⟨hfits, hsession, htracked⟩, rest, rfl⟩
    have hlength : (UInt64.ofNat mark.pending.length).toNat = mark.pending.length :=
      UInt64.toNat_ofNat_of_lt' hfits.entries
    rw [decode, encode, List.append_assoc, List.append_assoc,
      readOptionalText_encodeOptionalText hfits.session]
    simp only [bind, Except.bind, readWord_encodeWord, hlength, readDeliveries_flatMap hfits.ids]
    rw [← hsession, ← htracked]
    rfl

/-- A mark is read back from its bytes whatever stands behind them: the same session identifier and
the same entries in order, detached and not counted. And bytes that a mark is read from begin with
the bytes of this mark. -/
theorem decode_canonical :
    (∀ (mark : Mark) (tail : List UInt8), mark.Fits →
      decode (mark.encode ++ tail) =
        .ok { sessionId := mark.sessionId, pending := mark.pending, session := none, tracked := 0 }) ∧
    ∀ (bytes : List UInt8) (mark : Mark), decode bytes = .ok mark →
      mark.encode <+: bytes ∧ mark.Fits ∧ mark.session = none ∧ mark.tracked = 0 := by
  constructor
  · intro mark tail hfits
    have hdetached : ({ sessionId := mark.sessionId, pending := mark.pending } : Mark).Fits :=
      ⟨hfits.session, hfits.entries, hfits.ids⟩
    -- What is written of a mark does not depend on its session and its count.
    exact decode_eq_ok_iff.2 ⟨⟨hdetached, rfl, rfl⟩, tail, rfl⟩
  · intro bytes mark h
    obtain ⟨hdetached, hwritten⟩ := decode_eq_ok_iff.1 h
    exact ⟨hwritten, hdetached⟩

/-- An attached mark with timestamps at both ends of their range and an empty identifier. -/
def extremes : Mark where
  sessionId := some "session-é"
  pending := [⟨⟨"ID:ü"⟩, Int64.minValue⟩, ⟨⟨""⟩, Int64.maxValue⟩, ⟨⟨"ID:ü"⟩, -1⟩]
  session := some ⟨0, "session-é", .client⟩
  tracked := 3

/-- The bytes of a mark without session and with one entry, and a byte behind. -/
def trailing : List UInt8 :=
  [0] ++ [1, 0, 0, 0, 0, 0, 0, 0] ++ [1, 0, 0, 0, 0, 0, 0, 0] ++ [97] ++
    [254, 255, 255, 255, 255, 255, 255, 255] ++ [9]

theorem decode_canonical_extremes :
    (extremes.Fits ∧
      decode (extremes.encode ++ [255]) =
        .ok { sessionId := extremes.sessionId, pending := extremes.pending }) ∧
    decode trailing = .ok { pending := [⟨⟨"a"⟩, -2⟩] } ∧
    encode { pending := [⟨⟨"a"⟩, -2⟩] } <+: trailing := by
  have hfits : extremes.Fits := by decide
  have hread : decode trailing = .ok { pending := [⟨⟨"a"⟩, -2⟩] } := by rfl
  exact ⟨⟨hfits, decode_canonical.1 extremes [255] hfits⟩, hread,
    (decode_canonical.2 trailing _ hread).1⟩

end BrokerConnector.Mark
