import Mathlib.Data.List.Infix
import StyleGate.Analysis
import StyleGate.Proofs.Text.Class
import StyleGate.Proofs.Text.Words

/-!
# Numbers without a name

A literal is a stretch of decimal digits between two word boundaries. Digits are word characters, so
the boundaries make it a whole word, and the literals of a text are those of its words that are made
of digits alone. The rule about numbers names the first one other than zero and one.
-/

namespace StyleGate

open Text

namespace Usage

/-- A word begins or ends between the two texts. -/
def Boundary (a b : Text) : Prop := a.getLast?.any isWord ≠ b.head?.any isWord

/-- In the text `a ++ (w ++ r)` the part `w` is a literal. -/
structure Literal (a w r : Text) : Prop where
  visible : w ≠ []
  digits : ∀ c ∈ w, isDigit c = true
  opens : Boundary a (w ++ r)
  closes : Boundary (a ++ w) r

lemma any_eq_false_iff {o : Option Char} :
    o.any isWord = false ↔ ∀ c ∈ o, isWord c = false := by
  cases o with
  | none => simp
  | some c => simp

section Solid

variable {w : Text} (visible : w ≠ []) (solid : ∀ c ∈ w, isWord c = true)
include visible solid

lemma boundary_before_iff (a r : Text) :
    Boundary a (w ++ r) ↔ ∀ c ∈ a.getLast?, isWord c = false := by
  have first : (w ++ r).head?.any isWord = true := by
    obtain ⟨c, w, rfl⟩ := List.exists_cons_of_ne_nil visible
    exact solid c List.mem_cons_self
  rw [Boundary, first, ne_eq, Bool.not_eq_true, any_eq_false_iff]

lemma boundary_after_iff (a r : Text) : Boundary (a ++ w) r ↔ Stops isWord r := by
  have last : (a ++ w).getLast?.any isWord = true := by
    rw [List.getLast?_append, List.getLast?_eq_some_getLast visible]
    exact solid _ (List.getLast_mem visible)
  rw [Boundary, last, ne_comm, ne_eq, Bool.not_eq_true, any_eq_false_iff, Stops]

end Solid

/-- The literals of a text are its whole words of digits. -/
theorem literal_iff {a w r : Text} :
    Literal a w r ↔ WholeWord a w r ∧ ∀ c ∈ w, isDigit c = true := by
  constructor
  · rintro ⟨visible, digits, opens, closes⟩
    have solid : ∀ c ∈ w, isWord c = true := fun c hc => isWord_of_isDigit (digits c hc)
    exact ⟨⟨visible, solid, (boundary_before_iff visible solid a r).mp opens,
      (boundary_after_iff visible solid a r).mp closes⟩, digits⟩
  · rintro ⟨⟨visible, solid, before, after⟩, digits⟩
    exact ⟨visible, digits, (boundary_before_iff visible solid a r).mpr before,
      (boundary_after_iff visible solid a r).mpr after⟩

/-! ## The first literal -/

/-- A word that has to be explained: decimal digits, and neither zero nor one. -/
def unexplained (w : Text) : Bool := w.all isDigit && w != "0".toList && w != "1".toList

lemma magicLiteral?_def (s : Text) :
    magicLiteral? s = findRun? (fun w _ => unexplained w) s := by
  have same : (fun (w : Text) (_ : Text) => w.all isDigit && !exemptLiterals.contains w) =
      fun w _ => unexplained w := by
    funext w _
    rw [Bool.eq_iff_iff]
    simp [unexplained, exemptLiterals, and_assoc]
  rw [magicLiteral?, same]

theorem magicLiteral?_eq_find? (s : Text) : magicLiteral? s = (words s).find? unexplained := by
  rw [magicLiteral?_def, findRun?_eq_find?_words]

/-- The leftmost literal of `s` other than zero and one is `w`. -/
def FirstLiteral (s w : Text) : Prop :=
  ∃ a r, (Literal a w r ∧ w ≠ "0".toList ∧ w ≠ "1".toList) ∧ s = a ++ (w ++ r) ∧
    ∀ a' w' r', Literal a' w' r' ∧ w' ≠ "0".toList ∧ w' ≠ "1".toList →
      s = a' ++ (w' ++ r') → a.length ≤ a'.length

lemma wholeWord_unexplained_iff {a w r : Text} :
    WholeWord a w r ∧ unexplained w = true ↔
      Literal a w r ∧ w ≠ "0".toList ∧ w ≠ "1".toList := by
  rw [literal_iff, unexplained, Bool.and_eq_true, Bool.and_eq_true, List.all_eq_true, bne_iff_ne,
    bne_iff_ne]
  tauto

theorem magicLiteral?_eq_some_iff {s w : Text} :
    magicLiteral? s = some w ↔ FirstLiteral s w := by
  rw [magicLiteral?_def, findRun?_eq_some_iff, FirstWord, FirstLiteral]
  simp only [← wholeWord_unexplained_iff, and_imp, and_assoc]

end Usage

namespace Rule

/-- A line in which numbers have to be explained: it opens no comment, declares no constant, and
assigns or compares. -/
def Weighs (s : Text) : Prop :=
  ¬ "//".toList <+: s ∧ ¬ "/*".toList <+: s ∧ ¬ "const ".toList <:+: s ∧
    ('=' ∈ s ∨ '<' ∈ s ∨ '>' ∈ s)

instance (s : Text) : Decidable (Weighs s) :=
  inferInstanceAs (Decidable (¬ "//".toList <+: s ∧ ¬ "/*".toList <+: s ∧
    ¬ "const ".toList <:+: s ∧ ('=' ∈ s ∨ '<' ∈ s ∨ '>' ∈ s)))

lemma weighs_iff {s : Text} : Weighs s ↔
    (Comment.opens s || Declaration.isConst s || !Usage.assignmentOrComparison s) = false := by
  have operator : Usage.assignmentOrComparison s = true ↔ '=' ∈ s ∨ '<' ∈ s ∨ '>' ∈ s := by
    simp only [Usage.assignmentOrComparison, List.any_eq_true, Bool.or_eq_true, beq_iff_eq]
    constructor
    · rintro ⟨c, mem, (rfl | rfl) | rfl⟩
      · exact Or.inl mem
      · exact Or.inr (Or.inr mem)
      · exact Or.inr (Or.inl mem)
    · rintro (mem | mem | mem)
      · exact ⟨_, mem, Or.inl (Or.inl rfl)⟩
      · exact ⟨_, mem, Or.inr rfl⟩
      · exact ⟨_, mem, Or.inl (Or.inr rfl)⟩
  rw [Weighs, Bool.or_eq_false_iff, Bool.or_eq_false_iff, Comment.opens, Bool.or_eq_false_iff,
    Declaration.isConst, Bool.not_eq_false', operator]
  simp only [← Bool.not_eq_true, List.isPrefixOf_iff_prefix, hasPart_iff, and_assoc]

lemma unexplained?_eq (s : Text) :
    unexplained? s = if Weighs s then (words s).find? Usage.unexplained else none := by
  rw [unexplained?, Usage.magicLiteral?_eq_find?]
  by_cases weighs : Weighs s
  · rw [if_pos weighs, weighs_iff.mp weighs, if_neg Bool.false_ne_true]
  · rw [if_neg weighs, (Bool.not_eq_false _).mp (mt weighs_iff.mpr weighs), if_pos rfl]

lemma isWord_of_mem_unexplained? {s w : Text} (found : unexplained? s = some w) :
    ∀ c ∈ w, isWord c = true := by
  rw [unexplained?_eq, Option.ite_none_right_eq_some] at found
  have digits : Usage.unexplained w = true := List.find?_some found.2
  simp only [Usage.unexplained, Bool.and_eq_true, List.all_eq_true] at digits
  intro c hc
  exact isWord_of_isDigit (digits.1.1 c hc)

/-- The violation that names `w` as a number on line `n`. -/
def magicNumberViolation (w : Text) (n : Nat) : Violation :=
  ⟨magicNumber.number, magicNumberMessage w n, some n⟩

end Rule

/-- The number that is named is the first word of digits other than zero and one, that is, the
leftmost stretch of digits between word boundaries. The rule goes through the lines from the top and
reports those that open no comment, declare no constant, assign or compare, and hold such a word,
once each and with this word. -/
theorem magic_number_is_first_unexplained_word (s : Text) (d : Document) :
    Usage.magicLiteral? s = (words s).find? Usage.unexplained ∧
    (∀ w, Usage.magicLiteral? s = some w ↔ Usage.FirstLiteral s w) ∧
    Rule.check .magicNumber d = d.lines.filterMap fun l =>
      if Rule.Weighs l.trimmed then
        ((words l.trimmed).find? Usage.unexplained).map (Rule.magicNumberViolation · l.number)
      else none := by
  refine ⟨Usage.magicLiteral?_eq_find? s, fun w => Usage.magicLiteral?_eq_some_iff, ?_⟩
  refine List.filterMap_congr fun l _ => ?_
  rw [Rule.magicNumberAt, Rule.unexplained?_eq, Option.map_map]
  split
  · rfl
  · rfl

-- A superscript and an underscore belong to the word, a point and a sign do not.
example : Usage.magicLiteral? "x = 10² + _7 - 1.0 < -25".toList = some "25".toList := by
  decide +kernel

end StyleGate
