import StyleGate.Proofs.Declaration.Field

/-!
# Signatures and fields told apart

Up to the name of a declaration, whatever it declares, there are only blanks and characters of
types. What comes next tells the two kinds apart: a signature opens a parenthesis, and a field goes
on with the mark of an assignment or ends. Modifiers that are read as a type or a name do not matter
for this, nor does anything behind that first mark.
-/

namespace StyleGate.Declaration

open Text

/-- The first character that is neither blank nor part of a type. -/
def firstMark? (s : Text) : Option Char := s.find? fun c => !(isTypeChar c || isBlank c)

/-- Blanks and characters of types. -/
def Unmarked (s : Text) : Prop := ∀ c ∈ s, (isTypeChar c || isBlank c) = true

lemma firstMark?_append {s : Text} (unmarked : Unmarked s) (r : Text) :
    firstMark? (s ++ r) = firstMark? r := by
  have passed : s.find? (fun c => !(isTypeChar c || isBlank c)) = none := by
    refine List.find?_eq_none.mpr fun c mem => ?_
    rw [unmarked c mem]
    exact Bool.false_ne_true
  rw [firstMark?, List.find?_append, passed, Option.none_or, firstMark?]

lemma firstMark?_cons {c : Char} (mark : (isTypeChar c || isBlank c) = false) (r : Text) :
    firstMark? (c :: r) = some c := by
  rw [firstMark?, List.find?_cons_of_pos (by rw [mark]; rfl)]

/-! ## Parts without a mark -/

lemma Unmarked.append {s t : Text} (hs : Unmarked s) (ht : Unmarked t) : Unmarked (s ++ t) := by
  intro c mem
  rcases List.mem_append.mp mem with h | h
  · exact hs c h
  · exact ht c h

lemma unmarked_of_blanks {w : Text} (blank : Blanks w) : Unmarked w := by
  intro c mem
  rw [blank c mem, Bool.or_true]

lemma Gap.unmarked {w : Text} (gap : Gap w) : Unmarked w := unmarked_of_blanks gap.2

lemma TypeText.unmarked {t : Text} (type : TypeText t) : Unmarked t := by
  intro c mem
  rw [type.2 c mem, Bool.true_or]

lemma Name.typeText {n : Text} (name : Name n) : TypeText n := by
  refine ⟨name.1, fun c mem => ?_⟩
  simp [isTypeChar, name.2 c mem]

lemma unmarked_of_mem_accessModifiers {a : Text} (mem : a ∈ accessModifiers) : Unmarked a := by
  have all : ∀ a ∈ accessModifiers, (a.all fun c => isTypeChar c || isBlank c) = true := by decide
  exact List.all_eq_true.mp (all a mem)

lemma unmarked_of_mem_fieldModifiers {k : Text} (mem : k ∈ fieldModifiers) : Unmarked k := by
  have all : ∀ k ∈ fieldModifiers, (k.all fun c => isTypeChar c || isBlank c) = true := by decide
  exact List.all_eq_true.mp (all k mem)

lemma Modifiers.unmarked {m : Text} (modifiers : Modifiers m) : Unmarked m := by
  induction modifiers with
  | none => exact unmarked_of_blanks blanks_nil
  | more keyword gap _ ih =>
    exact (unmarked_of_mem_fieldModifiers keyword).append (gap.unmarked.append ih)

/-! ## The mark of each kind -/

lemma Signature.modifier_unmarked (p : Signature) : Unmarked p.modifier := by
  rcases p.modifier_static with empty | ⟨w, gap, static⟩
  · rw [empty]
    exact unmarked_of_blanks blanks_nil
  · rw [static]
    exact (unmarked_of_mem_fieldModifiers (by decide)).append gap.unmarked

theorem Signature.firstMark?_text (p : Signature) : firstMark? p.text = some '(' := by
  rw [text, firstMark?_append (unmarked_of_blanks p.indent_blank),
    firstMark?_append (unmarked_of_mem_accessModifiers p.access_mem),
    firstMark?_append p.gap_blank.unmarked, firstMark?_append p.modifier_unmarked, heading,
    firstMark?_append p.type_text.unmarked, firstMark?_append p.typeGap_blank.unmarked,
    firstMark?_append p.name_word.typeText.unmarked, afterName,
    firstMark?_append (unmarked_of_blanks p.nameGap_blank)]
  exact firstMark?_cons (by decide) _

lemma Initial.firstMark? {v : Text} (initial : Initial v) (r : Text) :
    firstMark? (v ++ ';' :: r) = some '=' ∨ firstMark? (v ++ ';' :: r) = some ';' := by
  rcases initial with rfl | ⟨g, m, blank, -, rfl⟩
  · exact Or.inr (firstMark?_cons (by decide) r)
  · rw [List.append_assoc, firstMark?_append (unmarked_of_blanks blank)]
    exact Or.inl (firstMark?_cons (by decide) _)

theorem Field.firstMark?_text (p : Field) :
    firstMark? p.text = some '=' ∨ firstMark? p.text = some ';' := by
  rw [text, firstMark?_append (unmarked_of_blanks p.indent_blank),
    firstMark?_append (unmarked_of_mem_accessModifiers p.access_mem),
    firstMark?_append p.gap_blank.unmarked, firstMark?_append p.modifiers_listed.unmarked, heading,
    firstMark?_append p.type_text.unmarked, firstMark?_append p.typeGap_blank.unmarked,
    firstMark?_append p.name_word.typeText.unmarked]
  exact p.initial_value.firstMark? p.tail

/-- No line is a signature and a field: the first mark of a signature is a parenthesis, and that of
a field is the mark of an assignment or a semicolon. -/
theorem no_line_declares_twice (s : Text) :
    ¬ (isSignature s = true ∧ isField s = true) ∧
      (isSignature s = true → firstMark? s = some '(') ∧
      (isField s = true → firstMark? s = some '=' ∨ firstMark? s = some ';') := by
  have signature : isSignature s = true → firstMark? s = some '(' := by
    intro h
    obtain ⟨p, rfl⟩ := isSignature_iff.mp h
    exact p.firstMark?_text
  have field : isField s = true → firstMark? s = some '=' ∨ firstMark? s = some ';' := by
    intro h
    obtain ⟨p, rfl⟩ := isField_iff.mp h
    exact p.firstMark?_text
  refine ⟨?_, signature, field⟩
  rintro ⟨hs, hf⟩
  rcases field hf with mark | mark
  · rw [signature hs] at mark
    exact absurd mark (by decide)
  · rw [signature hs] at mark
    exact absurd mark (by decide)

-- A body behind an arrow assigns and ends like a field, and an initial value may be a call.
example : isSignature "public int Next() => x = 1;".toList = true ∧
    isField "private List<int> xs = Read(1);".toList = true := by decide +kernel

end StyleGate.Declaration
