import StyleGate.Proofs.Rule.MagicNumber
import StyleGate.Proofs.Rule.MethodNaming
import StyleGate.Proofs.Usage.WholeText

/-!
# Loops

A loop is a keyword that begins at a word boundary and is followed by a parenthesis, where blanks
and line breaks may stand between the two. No boundary is asked for behind the keyword, but neither
a blank nor a parenthesis continues a word, so the keyword is a whole word and `foreach` is never
taken for `for`. A line feed therefore cuts the search in two: a loop lies on one side of it, or the
keyword ends one side and the parenthesis starts the other.
-/

namespace StyleGate

open Text

namespace Text

/-- Blanks and then a parenthesis. -/
lemma opensParen_iff {s : Text} : opensParen s = true ↔ ∃ g r, Blanks g ∧ s = g ++ '(' :: r := by
  constructor
  · intro opens
    obtain ⟨g, blank, split⟩ := exists_blanks_append_trimStart s
    rw [opensParen, beq_iff_eq] at opens
    obtain ⟨r, rest⟩ := List.head?_eq_some_iff.mp opens
    exact ⟨g, r, blank, by rw [← rest]; exact split⟩
  · rintro ⟨g, r, blank, rfl⟩
    rw [opensParen_blanks_append blank, opensParen_cons (by decide)]
    rfl

lemma Blanks.stops_isWord {g : Text} (blank : Blanks g) : Stops isWord g := by
  intro c first
  exact isWord_of_isBlank (blank c (List.mem_of_mem_head? first))

/-- Neither the blanks before a parenthesis nor the parenthesis continue a word. -/
lemma Blanks.stops_paren {g : Text} (blank : Blanks g) (r : Text) :
    Stops isWord (g ++ '(' :: r) := by
  cases g with
  | nil => exact stops_cons (by decide) r
  | cons c g => exact stops_cons (isWord_of_isBlank (blank c List.mem_cons_self)) _

end Text

namespace Usage

/-- The words that begin a loop. -/
def LoopWord (k : Text) : Prop :=
  k = "for".toList ∨ k = "foreach".toList ∨ k = "while".toList ∨ k = "do".toList

lemma contains_loopKeywords_iff {k : Text} : loopKeywords.contains k = true ↔ LoopWord k := by
  simp [loopKeywords, LoopWord]

lemma LoopWord.solid {k : Text} (keyword : LoopWord k) : k ≠ [] ∧ ∀ c ∈ k, isWord c = true := by
  rcases keyword with rfl | rfl | rfl | rfl
  all_goals exact ⟨by decide, List.all_eq_true.mp (by decide)⟩

/-- In the text `a ++ (k ++ (g ++ '(' :: r))` the keyword `k` begins at a word boundary, and nothing
but the blanks `g` stand between it and the parenthesis. -/
structure LoopHead (a k g r : Text) : Prop where
  boundary : Boundary a (k ++ (g ++ '(' :: r))
  keyword : LoopWord k
  blank : Blanks g

/-- The boundary before the keyword is enough to make it a whole word. -/
theorem loopHead_iff {a k g r : Text} :
    LoopHead a k g r ↔ WholeWord a k (g ++ '(' :: r) ∧ LoopWord k ∧ Blanks g := by
  constructor
  · rintro ⟨boundary, keyword, blank⟩
    obtain ⟨visible, solid⟩ := keyword.solid
    have before := (boundary_before_iff visible solid a _).mp boundary
    exact ⟨⟨visible, solid, before, blank.stops_paren r⟩, keyword, blank⟩
  · rintro ⟨whole, keyword, blank⟩
    refine ⟨?_, keyword, blank⟩
    exact (boundary_before_iff whole.visible whole.solid a _).mpr whole.before

theorem loop_iff {s : Text} : loop s = true ↔
    ∃ a k g r, (WholeWord a k (g ++ '(' :: r) ∧ LoopWord k ∧ Blanks g) ∧
      s = a ++ (k ++ (g ++ '(' :: r)) := by
  rw [loop_eq, List.any_eq_true]
  constructor
  · rintro ⟨⟨k, rest⟩, run, accepted⟩
    obtain ⟨a, whole, text⟩ := (mem_runs_iff s k rest).mp run
    obtain ⟨keyword, opens⟩ := Bool.and_eq_true_iff.mp accepted
    obtain ⟨g, r, blank, rfl⟩ := opensParen_iff.mp opens
    exact ⟨a, k, g, r, ⟨whole, contains_loopKeywords_iff.mp keyword, blank⟩, text⟩
  · rintro ⟨a, k, g, r, ⟨whole, keyword, blank⟩, text⟩
    refine ⟨(k, g ++ '(' :: r), (mem_runs_iff s k _).mpr ⟨a, whole, text⟩, ?_⟩
    apply Bool.and_eq_true_iff.mpr
    exact ⟨contains_loopKeywords_iff.mpr keyword, opensParen_iff.mpr ⟨g, r, blank, rfl⟩⟩

/-! ## The two sides of a line feed -/

/-- A text waits for a parenthesis if a keyword is the last word of it and only blanks follow. -/
theorem awaitsParen_iff {s : Text} : awaitsParen s = true ↔
    ∃ u k, WholeWord u k [] ∧ LoopWord k ∧ trimEnd s = u ++ k := by
  rw [awaitsParen, List.any_eq_true]
  constructor
  · rintro ⟨⟨k, rest⟩, run, accepted⟩
    obtain ⟨u, whole, text⟩ := (mem_runs_iff s k rest).mp run
    obtain ⟨keyword, blank⟩ := Bool.and_eq_true_iff.mp accepted
    have blank : Blanks rest := List.all_eq_true.mp blank
    have ended : WholeWord u k [] :=
      ⟨whole.visible, whole.solid, whole.before, blanks_nil.stops_isWord⟩
    refine ⟨u, k, ended, contains_loopKeywords_iff.mp keyword, ?_⟩
    rw [text, ← List.append_assoc, trimEnd_append_blanks blank]
    exact Declaration.trimEnd_append_name ⟨whole.visible, whole.solid⟩ u
  · rintro ⟨u, k, whole, keyword, ending⟩
    obtain ⟨rest, blank, text⟩ := exists_trimEnd_append_blanks s
    rw [ending, List.append_assoc] at text
    have whole : WholeWord u k rest :=
      ⟨whole.visible, whole.solid, whole.before, blank.stops_isWord⟩
    refine ⟨(k, rest), (mem_runs_iff s k rest).mpr ⟨u, whole, text⟩, ?_⟩
    apply Bool.and_eq_true_iff.mpr
    exact ⟨contains_loopKeywords_iff.mpr keyword, List.all_eq_true.mpr blank⟩

lemma opensParen_iff_trimStart {s : Text} :
    opensParen s = true ↔ ∃ r, trimStart s = '(' :: r := by
  rw [opensParen, beq_iff_eq, List.head?_eq_some_iff]

end Usage

open Usage

/-- A text has a loop where one of its whole words is a loop keyword and a parenthesis follows it,
blanks aside; to look for a keyword that begins at a word boundary comes to the same. Two texts with
a line feed between them have a loop if one of them has, or if a keyword ends the first one and a
parenthesis starts the second one, blanks aside. -/
theorem loop_is_whole_keyword_before_paren :
    (∀ s : Text, loop s = true ↔
      ∃ a k g r, (WholeWord a k (g ++ '(' :: r) ∧ LoopWord k ∧ Blanks g) ∧
        s = a ++ (k ++ (g ++ '(' :: r))) ∧
    (∀ s : Text, loop s = true ↔
      ∃ a k g r, LoopHead a k g r ∧ s = a ++ (k ++ (g ++ '(' :: r))) ∧
    ∀ a b : Text, loop (a ++ '\n' :: b) = true ↔ loop a = true ∨ loop b = true ∨
      (∃ u k, WholeWord u k [] ∧ LoopWord k ∧ trimEnd a = u ++ k) ∧
        ∃ r, trimStart b = '(' :: r := by
  refine ⟨fun s => loop_iff, fun s => ?_, fun a b => ?_⟩
  · simp only [loopHead_iff]
    exact loop_iff
  · rw [loop_across (by decide), Bool.or_eq_true, Bool.or_eq_true, Bool.and_eq_true,
      awaitsParen_iff, opensParen_iff_trimStart, or_assoc]

-- Three blank lines are no obstacle, an underscore and a comment are.
example : loop "_for(\nforeach\n\n\n (x".toList = true ∧ loop "_for(\nfor // (".toList = false := by
  decide

end StyleGate
