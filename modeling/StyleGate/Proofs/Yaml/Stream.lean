import StyleGate.Proofs.Text.Breaks
import StyleGate.Proofs.Text.Utf8
import StyleGate.Yaml.Stream

/-!
# What a stream keeps of a file

How a stream ends tells what is wrong with the bytes. It ends cleanly only if they are the bytes of
a text, and it ends in bytes that cannot be decoded only if there are some. Of a file that is read
in one piece nothing comes before them. A screened stream holds only characters that YAML allows,
and unless it lost some it is the stream itself.
-/

namespace StyleGate.Text

variable {s u : Text}

lemma Unified.mem {c : Char} (h : Unified s u) (mem : c ∈ s) : c = '\r' ∨ c ∈ u := by
  induction h with
  | nil => cases mem
  | char plain rest ih =>
    rcases List.mem_cons.mp mem with rfl | later
    · exact Or.inr List.mem_cons_self
    · exact (ih later).imp_right (List.mem_cons_of_mem _)
  | pair rest ih =>
    rcases List.mem_cons.mp mem with rfl | later
    · exact Or.inl rfl
    · rcases List.mem_cons.mp later with rfl | later
      · exact Or.inr List.mem_cons_self
      · exact (ih later).imp_right (List.mem_cons_of_mem _)
  | lone apart rest ih =>
    rcases List.mem_cons.mp mem with rfl | later
    · exact Or.inl rfl
    · exact (ih later).imp_right (List.mem_cons_of_mem _)

lemma Unified.length_le (h : Unified s u) : u.length ≤ s.length := by
  induction h with
  | nil => exact Nat.le_refl 0
  | char plain rest ih => exact Nat.succ_le_succ ih
  | pair rest ih => exact Nat.succ_le_succ (Nat.le_succ_of_le ih)
  | lone apart rest ih => exact Nat.succ_le_succ ih

end StyleGate.Text

namespace StyleGate.Yaml.Stream

/-! ## Characters that are not allowed -/

lemma blockStart_le (i : Nat) : blockStart i ≤ i := by
  unfold blockStart
  split
  · exact Nat.zero_le i
  · exact Nat.div_mul_le_self i blockSize

lemma isAllowed_of_mem_screen {s : Stream} {c : Char} (mem : c ∈ s.screen.chars) :
    isAllowed c = true := by
  unfold screen at mem
  cases found : s.chars.findIdx? fun c => !isAllowed c with
  | none =>
    rw [found] at mem
    simpa using List.findIdx?_eq_none_iff.mp found c mem
  | some i =>
    rw [found] at mem
    obtain ⟨within, -, before⟩ := List.findIdx?_eq_some_iff_getElem.mp found
    obtain ⟨j, hj, rfl⟩ := List.mem_iff_getElem.mp mem
    rw [List.length_take] at hj
    have start := blockStart_le i
    rw [List.getElem_take]
    simpa using before j (by omega)

lemma screen_cases (s : Stream) : s.screen.ending = .unprintable ∨
    s.screen = s ∧ ∀ c ∈ s.chars, isAllowed c = true := by
  unfold screen
  cases found : s.chars.findIdx? fun c => !isAllowed c with
  | none =>
    refine Or.inr ⟨rfl, fun c mem => ?_⟩
    simpa using List.findIdx?_eq_none_iff.mp found c mem
  | some i => exact Or.inl rfl

/-- Nothing is screened off if every character is allowed. -/
lemma screen_eq_self {s : Stream} (allowed : s.chars.all isAllowed = true) : s.screen = s := by
  have clear : s.chars.findIdx? (fun c => !isAllowed c) = none := by
    refine List.findIdx?_eq_none_iff.mpr fun c mem => ?_
    rw [List.all_eq_true.mp allowed c mem]
    rfl
  rw [screen, clear]

/-! ## Bytes that cannot be decoded -/

lemma ofBytes_utf8Encode (s : Text) : ofBytes s.utf8Encode = ⟨Text.unifyBreaks s, .clean⟩ := by
  rw [ofBytes, Utf8.decode_utf8Encode]

/-- A stream that ends cleanly is a text. -/
theorem exists_text_of_clean {bytes : ByteArray} (clean : (ofBytes bytes).ending = .clean) :
    ∃ t : Text, bytes = t.utf8Encode := by
  unfold ofBytes at clean
  cases decoded : Utf8.decode bytes with
  | error fault =>
    rw [decoded] at clean
    cases clean
  | ok s => exact ⟨s, (Utf8.decode_eq_ok_iff bytes s).mp decoded⟩

theorem not_isValidUTF8_of_undecodable {bytes : ByteArray}
    (bad : (ofBytes bytes).ending = .undecodable) : ¬ bytes.IsValidUTF8 := by
  rintro ⟨t, rfl⟩
  rw [ofBytes_utf8Encode] at bad
  cases bad

lemma size_extract_le (bytes : ByteArray) (n : Nat) : (bytes.extract 0 n).size ≤ bytes.size := by
  rw [ByteArray.size_extract]
  omega

/-- There are no more characters than bytes. -/
lemma length_decoded_le (bytes : ByteArray) (stop : Nat) :
    (decoded bytes stop).length ≤ bytes.size := by
  unfold decoded
  extract_lets front kept
  have part : kept.size ≤ bytes.size := by
    have cut : front.size ≤ bytes.size := size_extract_le bytes stop
    simp only [kept]
    split
    · exact Nat.le_trans (size_extract_le front _) cut
    · exact cut
  refine Nat.le_trans ?_ part
  cases given : Utf8.decode kept with
  | error f => exact Nat.zero_le _
  | ok s =>
    have chars : s.length ≤ kept.size := by
      rw [(Utf8.decode_eq_ok_iff kept s).mp given]
      exact Utf8.length_le_size_utf8Encode s
    have unified (t : Text) := ((Text.unified_iff t _).mpr rfl).length_le
    dsimp only
    split
    · exact Nat.le_trans (unified _) (by rw [List.length_dropLast]; omega)
    · exact Nat.le_trans (unified _) chars

/-- Two blocks have to be full before anything is looked at. -/
lemma beforeFault_eq_nil {bytes : ByteArray} (short : bytes.size < chunkSize) (fault : Utf8.Fault) :
    beforeFault bytes fault = [] := by
  unfold beforeFault
  extract_lets stop text blocks
  have few : text.length ≤ bytes.size := length_decoded_le bytes stop
  refine if_pos ?_
  simp only [blocks, blockSize]
  unfold chunkSize at short
  omega

/-- Of a file in one chunk nothing is read before its fault. -/
theorem ofBytes_of_short {bytes : ByteArray} (short : bytes.size < chunkSize)
    (bad : ¬ bytes.IsValidUTF8) : ofBytes bytes = ⟨[], .undecodable⟩ := by
  cases decoded : Utf8.decode bytes with
  | ok s => exact False.elim (bad ((Utf8.decode_isOk_iff bytes).mp ⟨s, decoded⟩))
  | error fault =>
    rw [ofBytes, decoded]
    simp only [beforeFault_eq_nil short]

end StyleGate.Yaml.Stream
