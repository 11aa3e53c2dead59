import StyleGate.Analysis
import StyleGate.Proofs.Rule.Spacing

/-!
# The violations of a whole report

Every rule reports under its own number, and the catalogue runs in ascending order of the numbers.
All rules but the one about spacing go through the lines from the top and name the line at which
they stand, so their line numbers ascend strictly. What holds of any two violations of a report is
therefore decided by what holds of any two bodies that the spacing rule reports.
-/

namespace StyleGate

namespace Violation

/-- Both violations name a line, and the first one names an earlier line. -/
def Above (a b : Violation) : Prop := ∃ m n, a.line = some m ∧ b.line = some n ∧ m < n

end Violation

open Violation

/-! ## Lines in a document -/

lemma Document.rawLines_ofText (t : Text) : (Document.ofText t).rawLines = Text.splitLines t := by
  refine List.ext_getElem (by simp [Document.ofText, Document.rawLines]) ?_
  intro i h₁ h₂
  simp [Document.ofText, Document.rawLines]

/-- The lines of the document are these, numbered from one. -/
def Document.Holds (d : Document) (ls : List Text) : Prop :=
  d.lines = ls.mapIdx fun i raw => ⟨i + 1, raw⟩

lemma Document.holds_ofText (t : Text) : (Document.ofText t).Holds (Text.splitLines t) := rfl

/-- The lines are numbered upwards. -/
def Document.Numbered (d : Document) : Prop := d.lines.Pairwise fun l m => l.number < m.number

lemma Document.numbered_ofText (t : Text) : (Document.ofText t).Numbered := by
  refine List.pairwise_iff_getElem.mpr ?_
  intro i j hi hj hij
  simp only [Document.ofText, List.getElem_mapIdx]
  omega

namespace Rule

/-! ## One rule -/

lemma exists_line_of_mem_eachLine {rule : Rule} {judge : Line → Option String} {d : Document}
    {v : Violation} (hv : v ∈ eachLine rule judge d) :
    ∃ l ∈ d.lines, ∃ message, judge l = some message ∧
      v = ⟨rule.number, message, some l.number⟩ := by
  obtain ⟨l, mem, hl⟩ := List.mem_filterMap.mp hv
  obtain ⟨message, judged, rfl⟩ := Option.map_eq_some_iff.mp hl
  exact ⟨l, mem, message, judged, rfl⟩

lemma rule_of_mem_eachLine {rule : Rule} {judge : Line → Option String} {d : Document}
    {v : Violation} (hv : v ∈ eachLine rule judge d) : v.rule = rule.number := by
  obtain ⟨l, -, message, -, rfl⟩ := exists_line_of_mem_eachLine hv
  rfl

lemma rule_of_mem_require {present : Bool} {rule : Rule} {message : String} {v : Violation}
    (hv : v ∈ require present rule message) : v.rule = rule.number := by
  cases present with
  | true => simp [require] at hv
  | false =>
    simp only [require, Bool.false_eq_true, if_false, List.mem_singleton] at hv
    rw [hv]

lemma rule_of_mem_checkDuplicateBlock {d : Document} {v : Violation}
    (hv : v ∈ checkDuplicateBlock d) : v.rule = duplicateBlock.number := by
  rw [checkDuplicateBlock] at hv
  split at hv
  · rw [List.mem_singleton.mp hv]
  · cases hv

lemma rule_of_mem_checkDocumentation {d : Document} {v : Violation}
    (hv : v ∈ checkDocumentation d) : v.rule = documentation.number := by
  obtain ⟨⟨above, l⟩, -, hl⟩ := List.mem_filterMap.mp hv
  simp only [documentationAt, Option.ite_none_right_eq_some, Option.some.injEq] at hl
  rw [← hl.2]

lemma rule_of_mem_checkSubroutineSpacing {d : Document} {v : Violation}
    (hv : v ∈ checkSubroutineSpacing d) : v.rule = subroutineSpacing.number := by
  obtain ⟨i, e, -, rfl⟩ := exists_of_mem_checkSubroutineSpacing hv
  rfl

/-- A rule reports under its own number only. -/
theorem rule_of_mem_check {r : Rule} {d : Document} {v : Violation} (hv : v ∈ r.check d) :
    v.rule = r.number := by
  cases r with
  | methodNaming => exact rule_of_mem_eachLine hv
  | publicStaticField => exact rule_of_mem_eachLine hv
  | mediaAttribute => exact rule_of_mem_eachLine hv
  | duplicateBlock => exact rule_of_mem_checkDuplicateBlock hv
  | collectionPresence => exact rule_of_mem_require hv
  | loopPresence => exact rule_of_mem_require hv
  | magicNumber => exact rule_of_mem_eachLine hv
  | subroutineSpacing => exact rule_of_mem_checkSubroutineSpacing hv
  | documentation => exact rule_of_mem_checkDocumentation hv
  | subroutinePresence => exact rule_of_mem_require hv

lemma eachLine_above {d : Document} (numbered : d.Numbered) (rule : Rule)
    (judge : Line → Option String) : (eachLine rule judge d).Pairwise Above := by
  rw [eachLine, List.pairwise_filterMap]
  refine numbered.imp ?_
  intro l m hlm v hv w hw
  obtain ⟨s, -, rfl⟩ := Option.map_eq_some_iff.mp hv
  obtain ⟨s', -, rfl⟩ := Option.map_eq_some_iff.mp hw
  exact ⟨l.number, m.number, rfl, rfl, by simpa using hlm⟩

lemma map_snd_withAbove (lines : List Line) : (withAbove lines).map Prod.snd = lines := by
  rw [withAbove, List.map_snd_zip]
  simp

lemma checkDocumentation_above {d : Document} (numbered : d.Numbered) :
    (checkDocumentation d).Pairwise Above := by
  have lines : (withAbove d.lines).Pairwise fun p q => p.2.number < q.2.number := by
    have below := numbered
    rw [Document.Numbered, ← map_snd_withAbove d.lines, List.pairwise_map] at below
    exact below
  rw [checkDocumentation, List.pairwise_filterMap]
  refine lines.imp ?_
  rintro ⟨above, l⟩ ⟨above', m⟩ hlm v hv w hw
  simp only [documentationAt, Option.ite_none_right_eq_some, Option.some.injEq] at hv hw
  rw [← hv.2, ← hw.2]
  exact ⟨l.number, m.number, rfl, rfl, by simpa using hlm⟩

lemma require_pairwise (R : Violation → Violation → Prop) (present : Bool) (rule : Rule)
    (message : String) : (require present rule message).Pairwise R := by
  cases present with
  | true => simp [require]
  | false => simp [require]

lemma checkDuplicateBlock_pairwise (R : Violation → Violation → Prop) (d : Document) :
    (checkDuplicateBlock d).Pairwise R := by
  rw [checkDuplicateBlock]
  split
  · exact List.pairwise_singleton R _
  · exact List.Pairwise.nil

theorem check_above {d : Document} (numbered : d.Numbered) {r : Rule}
    (other : r ≠ subroutineSpacing) : (r.check d).Pairwise Above := by
  cases r with
  | methodNaming => exact eachLine_above numbered _ _
  | publicStaticField => exact eachLine_above numbered _ _
  | mediaAttribute => exact eachLine_above numbered _ _
  | duplicateBlock => exact checkDuplicateBlock_pairwise Above d
  | collectionPresence => exact require_pairwise Above _ _ _
  | loopPresence => exact require_pairwise Above _ _ _
  | magicNumber => exact eachLine_above numbered _ _
  | subroutineSpacing => exact False.elim (other rfl)
  | documentation => exact checkDocumentation_above numbered
  | subroutinePresence => exact require_pairwise Above _ _ _

/-! ## The whole catalogue -/

lemma all_ascending : all.Pairwise fun r s => r.number < s.number := by decide

lemma mem_all (r : Rule) : r ∈ all := by
  cases r <;> decide

lemma inOrder_all : inOrder all = all := by
  refine List.mergeSort_of_pairwise (all_ascending.imp ?_)
  intro r s hrs
  simpa using Nat.le_of_lt hrs

end Rule

lemma violations_analyze (d : Document) :
    (analyze d).violations = Rule.all.flatMap fun r => r.check d := by
  rw [analyze, analyzeWith, Rule.inOrder_all]

/-- A relation that separates rules by their numbers has to be checked within each rule only. -/
theorem pairwise_analyze_iff {R : Violation → Violation → Prop}
    (apart : ∀ a b, a.rule < b.rule → R a b) (d : Document) :
    (analyze d).violations.Pairwise R ↔ ∀ r : Rule, (r.check d).Pairwise R := by
  rw [violations_analyze, List.pairwise_flatMap]
  constructor
  · intro h r
    exact h.1 r (Rule.mem_all r)
  · intro h
    refine ⟨fun r _ => h r, Rule.all_ascending.imp ?_⟩
    intro r s hrs a ha b hb
    refine apart a b ?_
    rw [Rule.rule_of_mem_check ha, Rule.rule_of_mem_check hb]
    exact_mod_cast hrs

/-- Among the violations of one text only those about spacing can fail a relation that holds
between rules and, within a rule, from each line to the lines below. -/
theorem pairwise_analyzeText_iff {R : Violation → Violation → Prop}
    (apart : ∀ a b, a.rule < b.rule → R a b)
    (below : ∀ a b, a.rule = b.rule → a.Above b → R a b) (t : Text) :
    (analyzeText t).violations.Pairwise R ↔ ∀ i j e f, i < j →
      Rule.Crowds (Text.splitLines t) i e → Rule.Crowds (Text.splitLines t) j f →
        R (Rule.spacingViolation e) (Rule.spacingViolation f) := by
  rw [analyzeText, pairwise_analyze_iff apart, ← Document.rawLines_ofText,
    ← Rule.pairwise_checkSubroutineSpacing]
  constructor
  · intro h
    exact h .subroutineSpacing
  · intro h r
    by_cases spacing : r = .subroutineSpacing
    · rw [spacing]
      exact h
    · refine (Rule.check_above (Document.numbered_ofText t) spacing).imp_of_mem ?_
      intro a b ha hb
      exact below a b ((Rule.rule_of_mem_check ha).trans (Rule.rule_of_mem_check hb).symm)

end StyleGate
