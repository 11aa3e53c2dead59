import StyleGate.Proofs.Analysis.Catalogue
import StyleGate.Proofs.Text.Lines

/-!
# Order and repetition in a report

A report is ordered by rule and, within a rule, by line, and it names no line twice on behalf of one
rule, except for what the spacing rule makes of its bodies. Bodies inside one another close in the
reverse order of their signatures. A signature without a body of its own, such as one that is
followed by an expression, is given the next body, and then both signatures name its end.
-/

namespace StyleGate

open Text Rule

namespace Violation

/-- The line for ordering; a violation of the whole text comes before all lines. -/
def place (v : Violation) : Int := v.line.getD 0

/-- `a` may stand before `b` in an ordered report. -/
def Before (a b : Violation) : Prop := a.rule < b.rule ∨ a.rule = b.rule ∧ a.place ≤ b.place

/-- Both name the same line on behalf of the same rule. -/
def Repeats (a b : Violation) : Prop := a.rule = b.rule ∧ a.line = b.line ∧ a.line.isSome = true

instance (a b : Violation) : Decidable (a.Before b) :=
  inferInstanceAs (Decidable (a.rule < b.rule ∨ a.rule = b.rule ∧ a.place ≤ b.place))

instance (a b : Violation) : Decidable (a.Repeats b) :=
  inferInstanceAs (Decidable (a.rule = b.rule ∧ a.line = b.line ∧ a.line.isSome = true))

lemma before_of_rule_lt {a b : Violation} (h : a.rule < b.rule) : a.Before b := Or.inl h

lemma Above.before {a b : Violation} (same : a.rule = b.rule) (h : a.Above b) : a.Before b := by
  obtain ⟨m, n, ha, hb, hmn⟩ := h
  refine Or.inr ⟨same, ?_⟩
  simp only [place, ha, hb, Option.getD_some]
  omega

lemma Above.not_repeats {a b : Violation} (h : a.Above b) : ¬ a.Repeats b := by
  obtain ⟨m, n, ha, hb, hmn⟩ := h
  rintro ⟨-, line, -⟩
  rw [ha, hb, Option.some.injEq] at line
  omega

lemma not_repeats_of_rule_lt {a b : Violation} (h : a.rule < b.rule) : ¬ a.Repeats b := by
  rintro ⟨rule, -, -⟩
  omega

end Violation

open Violation

/-- Sorted by rule and, within one rule, by line. -/
def Report.Ordered (r : Report) : Prop := r.violations.Pairwise Before

/-- No line is named twice on behalf of one rule. -/
def Report.Unrepeated (r : Report) : Prop := r.violations.Pairwise fun a b => ¬ a.Repeats b

namespace Rule

lemma spacingViolation_before_iff {e f : Nat} :
    (spacingViolation e).Before (spacingViolation f) ↔ e ≤ f := by
  have places : (spacingViolation e).place ≤ (spacingViolation f).place ↔ e ≤ f := by
    simp only [place, spacingViolation, Option.getD_some]
    omega
  constructor
  · rintro (rule | ⟨-, le⟩)
    · exact False.elim (Int.lt_irrefl _ rule)
    · exact places.mp le
  · intro le
    exact Or.inr ⟨rfl, places.mpr le⟩

lemma spacingViolation_repeats_iff {e f : Nat} :
    (spacingViolation e).Repeats (spacingViolation f) ↔ e = f := by
  constructor
  · rintro ⟨-, line, -⟩
    simp only [spacingViolation, Option.some.injEq] at line
    omega
  · rintro rfl
    exact ⟨rfl, rfl, rfl⟩

/-- Two signatures are reported for one end exactly when no brace stands between them. -/
lemma crowds_iff_braceless {lines : List Text} {i j e : Nat} (hij : i < j)
    (later : Crowds lines j e) :
    Crowds lines i e ↔ HeadsBody lines i ∧ Braces.Braceless (Braces.between lines i j) := by
  have closes := Braces.bodyEnd_eq_some_iff.mp later.closes
  rw [← Braces.closesAt_iff_braceless hij closes, ← Braces.bodyEnd_eq_some_iff]
  constructor
  · intro earlier
    exact ⟨earlier.heads, earlier.closes⟩
  · rintro ⟨heads, same⟩
    exact ⟨heads, same, later.crowded⟩

end Rule

/-! ## Order -/

/-- A report is in order apart from the spacing rule, and it is in order altogether exactly when of
the bodies that this rule reports none lies inside another: no later signature closes earlier. -/
theorem report_ordered_iff (t : Text) :
    (analyzeText t).violations.Pairwise (fun a b => a.Before b ∨
      a.rule = (subroutineSpacing.number : Int) ∧ b.rule = (subroutineSpacing.number : Int)) ∧
    ((analyzeText t).Ordered ↔ ¬ ∃ i j e f, i < j ∧ f < e ∧ Crowds (splitLines t) i e ∧
      Crowds (splitLines t) j f) := by
  constructor
  · rw [pairwise_analyzeText_iff (fun a b h => Or.inl (before_of_rule_lt h))
      (fun a b same above => Or.inl (above.before same))]
    intro i j e f _ _ _
    exact Or.inr ⟨rfl, rfl⟩
  · rw [Report.Ordered, pairwise_analyzeText_iff (fun a b => before_of_rule_lt)
      (fun a b same above => above.before same)]
    simp only [spacingViolation_before_iff]
    constructor
    · rintro monotone ⟨i, j, e, f, hij, hfe, outer, inner⟩
      have hef := monotone i j e f hij outer inner
      omega
    · intro apart i j e f hij outer inner
      by_contra hef
      exact apart ⟨i, j, e, f, hij, by omega, outer, inner⟩

/-- The end of the inner method is reported after that of the record around it. -/
theorem nested_bodies_not_ordered :
    ¬ (analyzeText (unlines (["public record Point(int X)", "\x7b", "    public void Move()",
      "    \x7b", "    \x7d", "    int y;", "\x7d", "int z;"].map String.toList))).Ordered := by
  intro h
  rw [Report.Ordered, analyzeText, pairwise_analyze_iff fun a b => before_of_rule_lt] at h
  exact absurd (h .subroutineSpacing) (by decide)

/-! ## Repetition -/

/-- Only the spacing rule repeats itself, and it does so exactly when no brace stands between two
signatures and the body of the second one is reported. -/
theorem report_unrepeated_iff (t : Text) :
    (analyzeText t).violations.Pairwise
      (fun a b => a.Repeats b → a.rule = (subroutineSpacing.number : Int)) ∧
    ((analyzeText t).Unrepeated ↔ ¬ ∃ i j e, i < j ∧ HeadsBody (splitLines t) i ∧
      Braces.Braceless (Braces.between (splitLines t) i j) ∧ Crowds (splitLines t) j e) := by
  constructor
  · rw [pairwise_analyzeText_iff (fun a b h repeated => absurd repeated (not_repeats_of_rule_lt h))
      (fun a b _ above repeated => absurd repeated above.not_repeats)]
    intro i j e f _ _ _ _
    rfl
  · rw [Report.Unrepeated, pairwise_analyzeText_iff (fun a b => not_repeats_of_rule_lt)
      (fun a b _ above => above.not_repeats)]
    simp only [spacingViolation_repeats_iff]
    constructor
    · rintro distinct ⟨i, j, e, hij, heads, quiet, later⟩
      exact distinct i j e e hij ((crowds_iff_braceless hij later).mpr ⟨heads, quiet⟩) later rfl
    · rintro apart i j e f hij earlier later rfl
      obtain ⟨heads, quiet⟩ := (crowds_iff_braceless hij later).mp earlier
      exact apart ⟨i, j, e, hij, heads, quiet, later⟩

/-- A method that is an expression is given the body of the method below. -/
theorem shared_body_repeated :
    ¬ (analyzeText (unlines (["public int One() => 1;", "public void Run()", "\x7b", "\x7d",
      "int x;"].map String.toList))).Unrepeated := by
  intro h
  rw [Report.Unrepeated, analyzeText, pairwise_analyze_iff fun a b => not_repeats_of_rule_lt] at h
  exact absurd (h .subroutineSpacing) (by decide)

end StyleGate
