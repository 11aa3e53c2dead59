import Mathlib.Tactic.Common
import StyleGate.Text.Utf8

/-!
# Faults of UTF-8

The search for a fault goes through the bytes once. `Sequence` is the table of byte ranges by which
it reads one character, and a sequence of bytes is in the table exactly when it encodes a character.
So the search finds a fault exactly in the bytes that encode no text, and decoding fails with the
fault that it finds.
-/

namespace StyleGate.Utf8

open String (utf8EncodeChar)

/-! ## Byte ranges -/

/-- A byte that continues a character. -/
def Tail (b : UInt8) : Prop := 0x80 ≤ b.toNat ∧ b.toNat ≤ 0xbf

instance (b : UInt8) : Decidable (Tail b) :=
  inferInstanceAs (Decidable (0x80 ≤ b.toNat ∧ b.toNat ≤ 0xbf))

/-- The bytes of one character. The second byte is narrowed where the first one alone would allow an
overlong form, a surrogate or a number beyond the last character. -/
inductive Sequence : List UInt8 → Prop
  | one {a : UInt8} (lead : a.toNat < 0x80) : Sequence [a]
  | two {a b : UInt8} (low : 0xc2 ≤ a.toNat) (high : a.toNat < 0xe0) (tail : Tail b) :
      Sequence [a, b]
  | three {a b c : UInt8} (low : 0xe0 ≤ a.toNat) (high : a.toNat < 0xf0)
      (long : a.toNat = 0xe0 → 0xa0 ≤ b.toNat) (apart : a.toNat = 0xed → b.toNat ≤ 0x9f)
      (tail : Tail b) (last : Tail c) : Sequence [a, b, c]
  | four {a b c d : UInt8} (low : 0xf0 ≤ a.toNat) (high : a.toNat ≤ 0xf4)
      (long : a.toNat = 0xf0 → 0x90 ≤ b.toNat) (within : a.toNat = 0xf4 → b.toNat ≤ 0x8f)
      (tail : Tail b) (middle : Tail c) (last : Tail d) : Sequence [a, b, c, d]

lemma sequence_utf8EncodeChar (c : Char) : Sequence (utf8EncodeChar c) := by
  have valid := c.valid
  simp only [UInt32.isValidChar, Nat.isValidChar] at valid
  fun_cases utf8EncodeChar c with
  | case1 v one =>
    refine .one ?_
    simp only [UInt8.toNat_ofNat']
    omega
  | case2 v one two =>
    refine .two ?_ ?_ ⟨?_, ?_⟩ <;> simp only [UInt8.toNat_ofNat'] <;> omega
  | case3 v one two three =>
    refine .three ?_ ?_ ?_ ?_ ⟨?_, ?_⟩ ⟨?_, ?_⟩ <;> simp only [UInt8.toNat_ofNat'] <;> omega
  | case4 v one two three =>
    refine .four ?_ ?_ ?_ ?_ ⟨?_, ?_⟩ ⟨?_, ?_⟩ ⟨?_, ?_⟩ <;> simp only [UInt8.toNat_ofNat'] <;> omega

/-- The character with this number. -/
lemma exists_char {n : Nat} (valid : n < 0xd800 ∨ 0xdfff < n ∧ n < 0x110000) :
    ∃ c : Char, c.val.toNat = n :=
  ⟨Char.ofNatAux n valid, rfl⟩

lemma Sequence.exists_utf8EncodeChar {bytes : List UInt8} (h : Sequence bytes) :
    ∃ c, utf8EncodeChar c = bytes := by
  -- The number of the character is put together from the bytes, six bits from each that continues it.
  cases h with
  | @one a lead =>
    obtain ⟨c, number⟩ := exists_char (n := a.toNat) (by omega)
    refine ⟨c, ?_⟩
    simp only [utf8EncodeChar, number]
    rw [if_pos (by omega), UInt8.ofNat_toNat]
  | @two a b low high tail =>
    obtain ⟨tail₁, tail₂⟩ := tail
    obtain ⟨c, number⟩ := exists_char (n := (a.toNat - 0xc0) * 64 + (b.toNat - 0x80)) (by omega)
    refine ⟨c, ?_⟩
    simp only [utf8EncodeChar, number]
    rw [if_neg (by omega), if_pos (by omega)]
    simp only [List.cons.injEq, ← UInt8.toNat_inj, UInt8.toNat_ofNat', and_true]
    omega
  | @three a b c low high long apart tail last =>
    obtain ⟨tail₁, tail₂⟩ := tail
    obtain ⟨last₁, last₂⟩ := last
    obtain ⟨e, number⟩ := exists_char
      (n := (a.toNat - 0xe0) * 4096 + (b.toNat - 0x80) * 64 + (c.toNat - 0x80)) (by omega)
    refine ⟨e, ?_⟩
    simp only [utf8EncodeChar, number]
    rw [if_neg (by omega), if_neg (by omega), if_pos (by omega)]
    simp only [List.cons.injEq, ← UInt8.toNat_inj, UInt8.toNat_ofNat', and_true]
    omega
  | @four a b c d low high long within tail middle last =>
    obtain ⟨tail₁, tail₂⟩ := tail
    obtain ⟨middle₁, middle₂⟩ := middle
    obtain ⟨last₁, last₂⟩ := last
    obtain ⟨e, number⟩ := exists_char
      (n := (a.toNat - 0xf0) * 262144 + (b.toNat - 0x80) * 4096 + (c.toNat - 0x80) * 64 +
        (d.toNat - 0x80)) (by omega)
    refine ⟨e, ?_⟩
    simp only [utf8EncodeChar, number]
    rw [if_neg (by omega), if_neg (by omega), if_neg (by omega)]
    simp only [List.cons.injEq, ← UInt8.toNat_inj, UInt8.toNat_ofNat', and_true]
    omega

/-! ## The search reads one sequence after the other -/

lemma ofLead_two {b : UInt8} (low : 0xc2 ≤ b.toNat) (high : b.toNat < 0xe0) (n : Nat) :
    Pending.ofLead n b = some ⟨n, b, 1, 0x80, 0xbf⟩ := by
  simp only [Pending.ofLead, UInt8.lt_iff_toNat_lt, UInt8.reduceToNat]
  rw [if_neg (by omega), if_pos high]

lemma ofLead_three {b : UInt8} (low : 0xe0 ≤ b.toNat) (high : b.toNat < 0xf0) (n : Nat) :
    Pending.ofLead n b = some ⟨n, b, 2, if b.toNat = 0xe0 then 0xa0 else 0x80,
      if b.toNat = 0xed then 0x9f else 0xbf⟩ := by
  simp only [Pending.ofLead, UInt8.lt_iff_toNat_lt, UInt8.reduceToNat, beq_iff_eq, ← UInt8.toNat_inj]
  rw [if_neg (by omega), if_neg (by omega)]
  by_cases first : b.toNat = 0xe0
  · rw [if_pos first, if_pos first, if_neg (by omega)]
  · by_cases surrogate : b.toNat = 0xed
    · rw [if_neg first, if_pos surrogate, if_neg first, if_pos surrogate]
    · rw [if_neg first, if_neg surrogate, if_pos high, if_neg first, if_neg surrogate]

lemma ofLead_four {b : UInt8} (low : 0xf0 ≤ b.toNat) (high : b.toNat ≤ 0xf4) (n : Nat) :
    Pending.ofLead n b = some ⟨n, b, 3, if b.toNat = 0xf0 then 0x90 else 0x80,
      if b.toNat = 0xf4 then 0x8f else 0xbf⟩ := by
  simp only [Pending.ofLead, UInt8.lt_iff_toNat_lt, UInt8.reduceToNat, beq_iff_eq, ← UInt8.toNat_inj]
  rw [if_neg (by omega), if_neg (by omega), if_neg (by omega), if_neg (by omega), if_neg (by omega)]
  by_cases first : b.toNat = 0xf0
  · rw [if_pos first, if_pos first, if_neg (by omega)]
  · rw [if_neg first, if_neg first]
    by_cases last : b.toNat = 0xf4
    · rw [if_neg (by omega), if_pos last, if_pos last]
    · rw [if_pos (by omega), if_neg last]

lemma ofLead_none {b : UInt8} (out : b.toNat < 0xc2 ∨ 0xf4 < b.toNat) (n : Nat) :
    Pending.ofLead n b = none := by
  simp only [Pending.ofLead, UInt8.lt_iff_toNat_lt, UInt8.reduceToNat, beq_iff_eq, ← UInt8.toNat_inj]
  rcases out with low | high
  · rw [if_pos low]
  · repeat rw [if_neg (by omega)]

lemma faultFrom_ascii {b : UInt8} (lead : b.toNat < 0x80) (n : Nat) (bs : List UInt8) :
    faultFrom none n (b :: bs) = faultFrom none (n + 1) bs := by
  rw [faultFrom, if_pos (UInt8.lt_iff_toNat_lt.mpr lead)]

lemma faultFrom_lead {b : UInt8} {p : Pending} (lead : 0x80 ≤ b.toNat) {n : Nat}
    (opens : Pending.ofLead n b = some p) (bs : List UInt8) :
    faultFrom none n (b :: bs) = faultFrom (some p) (n + 1) bs := by
  rw [faultFrom, if_neg (by rw [UInt8.lt_iff_toNat_lt]; exact Nat.not_lt.mpr lead), opens]

lemma faultFrom_continue {p : Pending} {b : UInt8} (low : p.low.toNat ≤ b.toNat)
    (high : b.toNat ≤ p.high.toNat) (n : Nat) (bs : List UInt8) :
    faultFrom (some p) n (b :: bs) = faultFrom p.next (n + 1) bs := by
  rw [faultFrom, if_pos]
  simp only [Bool.and_eq_true, decide_eq_true_eq, UInt8.le_iff_toNat_le]
  exact ⟨low, high⟩

/-- Inside a character the search finds no fault only if the next byte is in range. -/
lemma exists_continue {p : Pending} {n : Nat} {bytes : List UInt8}
    (sound : faultFrom (some p) n bytes = none) :
    ∃ b bs, bytes = b :: bs ∧ p.low.toNat ≤ b.toNat ∧ b.toNat ≤ p.high.toNat ∧
      faultFrom p.next (n + 1) bs = none := by
  cases bytes with
  | nil => cases sound
  | cons b bs =>
    rw [faultFrom] at sound
    split at sound
    · rename_i range
      simp only [Bool.and_eq_true, decide_eq_true_eq, UInt8.le_iff_toNat_le] at range
      exact ⟨b, bs, rfl, range.1, range.2, sound⟩
    · cases sound

lemma next_tail (start : Nat) (lead : UInt8) (owed : Nat) (low high : UInt8) :
    Pending.next ⟨start, lead, owed + 2, low, high⟩ =
      some ⟨start, lead, owed + 1, 0x80, 0xbf⟩ := rfl

lemma next_done (start : Nat) (lead low high : UInt8) :
    Pending.next ⟨start, lead, 1, low, high⟩ = none := rfl

lemma faultFrom_tail {b : UInt8} (tail : Tail b) (start : Nat) (lead : UInt8) (owed n : Nat)
    (bs : List UInt8) :
    faultFrom (some ⟨start, lead, owed, 0x80, 0xbf⟩) n (b :: bs) =
      faultFrom (Pending.next ⟨start, lead, owed, 0x80, 0xbf⟩) (n + 1) bs :=
  faultFrom_continue (p := ⟨start, lead, owed, 0x80, 0xbf⟩) tail.1 tail.2 n bs

/-- The range of a second byte, which some first bytes narrow. -/
lemma narrowed_iff {first last : Prop} [Decidable first] [Decidable last] {b : UInt8}
    (low high : UInt8) (low_tail : Tail low) (high_tail : Tail high) :
    ((if first then low else 0x80).toNat ≤ b.toNat ∧
        b.toNat ≤ (if last then high else 0xbf).toNat) ↔
      Tail b ∧ (first → low.toNat ≤ b.toNat) ∧ (last → b.toNat ≤ high.toNat) := by
  have edges : (0x80 : UInt8).toNat = 0x80 ∧ (0xbf : UInt8).toNat = 0xbf := ⟨rfl, rfl⟩
  unfold Tail at *
  by_cases first <;> by_cases last <;> simp [*] <;> omega

lemma Sequence.faultFrom_append {seq : List UInt8} (h : Sequence seq) (n : Nat)
    (bs : List UInt8) : faultFrom none n (seq ++ bs) = faultFrom none (n + seq.length) bs := by
  cases h with
  | one lead => exact faultFrom_ascii lead n bs
  | @two a b low high tail =>
    simp only [List.cons_append, List.nil_append]
    rw [faultFrom_lead (by omega) (ofLead_two low high n), faultFrom_tail tail, next_done]
    rfl
  | @three a b c low high long apart tail last =>
    obtain ⟨from_low, to_high⟩ := (narrowed_iff 0xa0 0x9f (by decide)
      (by decide)).mpr ⟨tail, long, apart⟩
    simp only [List.cons_append, List.nil_append]
    rw [faultFrom_lead (by omega) (ofLead_three low high n),
      faultFrom_continue from_low to_high, next_tail, faultFrom_tail last, next_done]
    rfl
  | @four a b c d low high long within tail middle last =>
    obtain ⟨from_low, to_high⟩ := (narrowed_iff 0x90 0x8f (by decide)
      (by decide)).mpr ⟨tail, long, within⟩
    simp only [List.cons_append, List.nil_append]
    rw [faultFrom_lead (by omega) (ofLead_four low high n),
      faultFrom_continue from_low to_high, next_tail, faultFrom_tail middle, next_tail,
      faultFrom_tail last, next_done]
    rfl

/-- Where the search finds no fault, a sequence is at the front and none is found after it. -/
lemma exists_sequence {b : UInt8} {n : Nat} {bs : List UInt8}
    (sound : faultFrom none n (b :: bs) = none) :
    ∃ seq rest m, Sequence seq ∧ b :: bs = seq ++ rest ∧ faultFrom none m rest = none := by
  by_cases ascii : b.toNat < 0x80
  · rw [faultFrom_ascii ascii] at sound
    exact ⟨[b], bs, _, .one ascii, rfl, sound⟩
  by_cases out : b.toNat < 0xc2 ∨ 0xf4 < b.toNat
  · rw [faultFrom, if_neg (by rw [UInt8.lt_iff_toNat_lt]; exact ascii), ofLead_none out] at sound
    cases sound
  by_cases two : b.toNat < 0xe0
  · rw [faultFrom_lead (by omega) (ofLead_two (by omega) two n)] at sound
    obtain ⟨x, rest, rfl, low, high, sound⟩ := exists_continue sound
    exact ⟨[b, x], rest, _, .two (by omega) two ⟨low, high⟩, rfl, sound⟩
  by_cases three : b.toNat < 0xf0
  · rw [faultFrom_lead (by omega) (ofLead_three (by omega) three n)] at sound
    obtain ⟨x, rest, rfl, low, high, sound⟩ := exists_continue sound
    obtain ⟨y, rest, rfl, low', high', sound⟩ := exists_continue sound
    obtain ⟨tail, long, apart⟩ :=
      (narrowed_iff 0xa0 0x9f (by decide) (by decide)).mp ⟨low, high⟩
    exact ⟨[b, x, y], rest, _, .three (by omega) three long apart tail ⟨low', high'⟩, rfl, sound⟩
  · rw [faultFrom_lead (by omega) (ofLead_four (by omega) (by omega) n)] at sound
    obtain ⟨x, rest, rfl, low, high, sound⟩ := exists_continue sound
    obtain ⟨y, rest, rfl, low', high', sound⟩ := exists_continue sound
    obtain ⟨z, rest, rfl, low'', high'', sound⟩ := exists_continue sound
    obtain ⟨tail, long, within⟩ :=
      (narrowed_iff 0x90 0x8f (by decide) (by decide)).mp ⟨low, high⟩
    exact ⟨[b, x, y, z], rest, _,
      .four (by omega) (by omega) long within tail ⟨low', high'⟩ ⟨low'', high''⟩, rfl, sound⟩

/-- The search finds no fault exactly in the bytes of a text. -/
theorem faultFrom_eq_none_iff (n : Nat) (bytes : List UInt8) :
    faultFrom none n bytes = none ↔ ∃ s : Text, bytes = s.flatMap utf8EncodeChar := by
  constructor
  · intro sound
    induction length : bytes.length using Nat.strongRecOn generalizing n bytes with
    | ind k ih =>
      cases bytes with
      | nil => exact ⟨[], rfl⟩
      | cons b bs =>
        obtain ⟨seq, rest, m, sequence, split, sound⟩ := exists_sequence sound
        obtain ⟨c, rfl⟩ := sequence.exists_utf8EncodeChar
        have shorter : rest.length < k := by
          rw [← length, split, List.length_append, String.length_utf8EncodeChar]
          have := c.utf8Size_pos
          omega
        obtain ⟨s, hs⟩ := ih rest.length shorter m rest sound rfl
        exact ⟨c :: s, by rw [split, hs, List.flatMap_cons]⟩
  · rintro ⟨s, rfl⟩
    induction s generalizing n with
    | nil => rfl
    | cons c s ih =>
      rw [List.flatMap_cons, (sequence_utf8EncodeChar c).faultFrom_append]
      exact ih _

/-! ## Decoding -/

lemma toList_loop (bytes : ByteArray) (i : Nat) (done : List UInt8) :
    ByteArray.toList.loop bytes i done = done.reverse ++ bytes.data.toList.drop i := by
  fun_induction ByteArray.toList.loop bytes i done with
  | case1 i done more ih =>
    have hi : i < bytes.data.toList.length := by simpa using more
    rw [ih, List.drop_eq_getElem_cons hi]
    simp [ByteArray.get!, more]
  | case2 i done more =>
    rw [List.drop_eq_nil_of_le (by simpa using Nat.le_of_not_lt more), List.append_nil]

lemma toList_eq (bytes : ByteArray) : bytes.toList = bytes.data.toList := by
  simp [ByteArray.toList, toList_loop]

lemma toList_inj {a b : ByteArray} : a.toList = b.toList ↔ a = b := by
  rw [toList_eq, toList_eq, Array.toList_inj]
  exact ⟨ByteArray.ext, congrArg ByteArray.data⟩

lemma toList_utf8Encode (s : Text) : s.utf8Encode.toList = s.flatMap utf8EncodeChar := by
  rw [toList_eq, List.utf8Encode, List.toList_data_toByteArray]

theorem firstFault?_eq_none_iff (bytes : ByteArray) :
    firstFault? bytes = none ↔ bytes.IsValidUTF8 := by
  rw [firstFault?, faultFrom_eq_none_iff]
  constructor
  · rintro ⟨s, hs⟩
    exact ⟨s, toList_inj.mp (by rw [hs, toList_utf8Encode])⟩
  · rintro ⟨s, rfl⟩
    exact ⟨s, toList_utf8Encode s⟩

/-- Decoding reads a text back from its bytes. -/
theorem decode_utf8Encode (s : Text) : decode s.utf8Encode = .ok s := by
  have valid : s.utf8Encode.IsValidUTF8 := ByteArray.isValidUTF8_utf8Encode
  have same : String.fromUTF8 s.utf8Encode valid = String.ofList s :=
    String.toByteArray_inj.mp String.toByteArray_ofList.symm
  rw [decode, String.fromUTF8?, dif_pos valid, same]
  simp

/-- Decoding fails with the fault that the search finds. -/
theorem decode_eq_error_iff (bytes : ByteArray) (f : Fault) :
    decode bytes = .error f ↔ firstFault? bytes = some f := by
  by_cases valid : bytes.IsValidUTF8
  · have none := (firstFault?_eq_none_iff bytes).mpr valid
    obtain ⟨s, rfl⟩ := valid
    simp [decode_utf8Encode, none]
  · obtain ⟨g, found⟩ := Option.ne_none_iff_exists'.mp (mt (firstFault?_eq_none_iff bytes).mp valid)
    simp [decode, String.fromUTF8?, valid, found]

theorem decode_eq_ok_iff (bytes : ByteArray) (s : Text) :
    decode bytes = .ok s ↔ bytes = s.utf8Encode := by
  constructor
  · intro decoded
    have sound : firstFault? bytes = none := by
      cases found : firstFault? bytes with
      | none => rfl
      | some f =>
        rw [(decode_eq_error_iff bytes f).mpr found] at decoded
        cases decoded
    obtain ⟨t, rfl⟩ := (firstFault?_eq_none_iff bytes).mp sound
    rw [decode_utf8Encode] at decoded
    cases decoded
    rfl
  · rintro rfl
    exact decode_utf8Encode s

lemma decode_isOk_iff (bytes : ByteArray) : (∃ s, decode bytes = .ok s) ↔ bytes.IsValidUTF8 := by
  simp only [decode_eq_ok_iff]
  exact ⟨fun ⟨s, hs⟩ => ⟨s, hs⟩, fun ⟨s, hs⟩ => ⟨s, hs⟩⟩

lemma length_le_size_utf8Encode (s : Text) : s.length ≤ s.utf8Encode.size := by
  induction s with
  | nil => exact Nat.zero_le _
  | cons c s ih =>
    have bytes := c.utf8Size_pos
    rw [List.utf8Encode_cons, ByteArray.size_append, List.length_cons]
    simp only [List.utf8Encode_singleton, List.size_toByteArray, String.length_utf8EncodeChar]
    omega

/-! ## The mark at the start -/

/-- The bytes end inside the mark. -/
def CutMark (bytes : ByteArray) : Prop :=
  bytes = [0xef].toByteArray ∨ bytes = [0xef, 0xbb].toByteArray

/-- The bytes after the mark, if they start with one. -/
def unmarked (bytes : ByteArray) : ByteArray :=
  if mark.isPrefixOf bytes.toList then bytes.extract 3 bytes.size else bytes

lemma toList_toByteArray (l : List UInt8) : l.toByteArray.toList = l := by
  rw [toList_eq, List.toList_data_toByteArray]

lemma toList_append (a b : ByteArray) : (a ++ b).toList = a.toList ++ b.toList := by
  simp [toList_eq]

lemma toList_extract_front (bytes : ByteArray) (n : Nat) :
    (bytes.extract 0 n).toList = bytes.toList.take n := by
  simp [toList_eq, Array.toList_extract, List.extract]

lemma toList_extract_back (bytes : ByteArray) (n : Nat) :
    (bytes.extract n bytes.size).toList = bytes.toList.drop n := by
  simp only [toList_eq, ByteArray.data_extract, Array.toList_extract, List.extract]
  exact List.take_of_length_le (by simp)

lemma eq_toByteArray_iff {bytes : ByteArray} {l : List UInt8} :
    bytes = l.toByteArray ↔ bytes.toList = l := by
  rw [← toList_inj, toList_toByteArray]

lemma mark_toByteArray : mark.toByteArray = ['\uFEFF'].utf8Encode := by
  rw [List.utf8Encode_singleton]
  rfl

lemma front_cut_iff (l : List UInt8) :
    ((l.take 3).length < 3 && (l.take 3).isPrefixOf mark) = true ↔
      l = [] ∨ l = [0xef] ∨ l = [0xef, 0xbb] := by
  rcases l with _ | ⟨a, _ | ⟨b, _ | ⟨c, l⟩⟩⟩
  · simp [mark]
  · simp [mark, List.isPrefixOf]
  · simp [mark, List.isPrefixOf]
  · simp

lemma front_eq_mark (l : List UInt8) : (l.take 3 == mark) = mark.isPrefixOf l := by
  rw [Bool.eq_iff_iff, beq_iff_eq, List.isPrefixOf_iff_prefix, List.prefix_iff_eq_take, eq_comm]
  rfl

lemma cutMark_iff (bytes : ByteArray) :
    CutMark bytes ↔ bytes.toList = [0xef] ∨ bytes.toList = [0xef, 0xbb] := by
  rw [CutMark, eq_toByteArray_iff, eq_toByteArray_iff]

lemma decodeMarked_of_cut {bytes : ByteArray} (cut : CutMark bytes) :
    decodeMarked bytes = .ok [] := by
  have front := (front_cut_iff bytes.toList).mpr (Or.inr ((cutMark_iff bytes).mp cut))
  rw [decodeMarked, toList_extract_front]
  exact if_pos front

lemma decodeMarked_of_not_cut {bytes : ByteArray} (whole : ¬ CutMark bytes) :
    decodeMarked bytes = decode (unmarked bytes) := by
  rw [cutMark_iff] at whole
  rw [decodeMarked, unmarked, toList_extract_front, front_eq_mark]
  by_cases empty : bytes.toList = []
  · have nothing : bytes = ([] : Text).utf8Encode := by
      rw [List.utf8Encode_nil, ← toList_inj, empty, ByteArray.toList_empty]
    simp only [empty]
    rw [if_pos ((front_cut_iff []).mpr (Or.inl rfl)), if_neg (by decide), nothing,
      decode_utf8Encode]
  · have front : ¬ ((bytes.toList.take 3).length < 3 &&
        (bytes.toList.take 3).isPrefixOf mark) = true := by
      rw [front_cut_iff]
      rintro (nothing | cut)
      · exact empty nothing
      · exact whole cut
    rw [if_neg front]
    split
    · rfl
    · rfl

lemma unmarked_mark_append (rest : ByteArray) : unmarked (mark.toByteArray ++ rest) = rest := by
  have starts : mark.isPrefixOf (mark.toByteArray ++ rest).toList = true := by
    rw [toList_append, toList_toByteArray, List.isPrefixOf_iff_prefix]
    exact List.prefix_append mark rest.toList
  rw [unmarked, if_pos starts, ← toList_inj, toList_extract_back, toList_append,
    toList_toByteArray]
  rfl

lemma eq_mark_append_of_isPrefixOf {bytes : ByteArray}
    (starts : mark.isPrefixOf bytes.toList = true) : bytes = mark.toByteArray ++ unmarked bytes := by
  obtain ⟨rest, split⟩ := List.isPrefixOf_iff_prefix.mp starts
  have whole : bytes = mark.toByteArray ++ rest.toByteArray := by
    rw [← toList_inj, toList_append, toList_toByteArray, toList_toByteArray, split]
  rw [whole, unmarked_mark_append]

lemma isValidUTF8_unmarked_iff (bytes : ByteArray) :
    (unmarked bytes).IsValidUTF8 ↔ bytes.IsValidUTF8 := by
  by_cases starts : mark.isPrefixOf bytes.toList = true
  · conv_rhs => rw [eq_mark_append_of_isPrefixOf starts, mark_toByteArray]
    exact ByteArray.isValidUTF8_utf8Encode_singleton_append_iff.symm
  · rw [unmarked, if_neg starts]

/-- Only a text that starts with the character of the mark has bytes that start with it. -/
lemma unmarked_utf8Encode {s : Text} (plain : s.head? ≠ some '\uFEFF') :
    unmarked s.utf8Encode = s.utf8Encode := by
  refine if_neg ?_
  intro starts
  have split := eq_mark_append_of_isPrefixOf starts
  rw [mark_toByteArray] at split
  cases s with
  | nil => simp [mark] at starts
  | cons c s =>
    have first := congrArg (ByteArray.utf8DecodeChar? · 0) split
    simp only [List.utf8DecodeChar?_utf8Encode_cons,
      List.utf8DecodeChar?_utf8Encode_singleton_append] at first
    exact plain first

lemma CutMark.not_isValidUTF8 {bytes : ByteArray} (cut : CutMark bytes) : ¬ bytes.IsValidUTF8 := by
  rw [← firstFault?_eq_none_iff, firstFault?]
  rcases (cutMark_iff bytes).mp cut with one | two
  · rw [one]
    decide
  · rw [two]
    decide

/-- Reading a file gives back the text whose bytes it holds, with or without the mark. -/
theorem decodeMarked_text {s : Text} {bytes : ByteArray} (plain : s.head? ≠ some '\uFEFF')
    (holds : bytes = s.utf8Encode ∨ bytes = mark.toByteArray ++ s.utf8Encode) :
    decodeMarked bytes = .ok s := by
  have valid : bytes.IsValidUTF8 := by
    rcases holds with rfl | rfl
    · exact ByteArray.isValidUTF8_utf8Encode
    · rw [mark_toByteArray]
      exact ByteArray.isValidUTF8_utf8Encode.append ByteArray.isValidUTF8_utf8Encode
  rw [decodeMarked_of_not_cut fun cut => cut.not_isValidUTF8 valid, ← decode_utf8Encode s]
  rcases holds with rfl | rfl
  · rw [unmarked_utf8Encode plain]
  · rw [unmarked_mark_append]

theorem decodeMarked_isOk_iff (bytes : ByteArray) :
    (∃ s, decodeMarked bytes = .ok s) ↔ bytes.IsValidUTF8 ∨ CutMark bytes := by
  by_cases cut : CutMark bytes
  · simp [decodeMarked_of_cut cut, cut]
  · rw [decodeMarked_of_not_cut cut, decode_isOk_iff, isValidUTF8_unmarked_iff, or_iff_left cut]

/-- Other bytes are refused with the first fault after the mark. -/
theorem decodeMarked_fault {bytes : ByteArray} (bad : ¬ bytes.IsValidUTF8)
    (whole : ¬ CutMark bytes) :
    ∃ f, firstFault? (unmarked bytes) = some f ∧ decodeMarked bytes = .error f := by
  have found : firstFault? (unmarked bytes) ≠ none := by
    rw [ne_eq, firstFault?_eq_none_iff, isValidUTF8_unmarked_iff]
    exact bad
  obtain ⟨f, hf⟩ := Option.ne_none_iff_exists'.mp found
  exact ⟨f, hf, by rw [decodeMarked_of_not_cut whole, decode_eq_error_iff, hf]⟩

end StyleGate.Utf8
