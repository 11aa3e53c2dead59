import StyleGate.Proofs.Analysis.Catalogue
import StyleGate.Proofs.Config.Selection

/-!
# Choosing rules filters the report

The order of the catalogue leaves no choice: rules have different numbers, so a list of chosen rules
sorts into the catalogue with every rule as often as it was chosen. A rule reports under its own
number whatever runs beside it. Choosing rules therefore only decides how often each part of the full
report stands in the result, and a valid configuration takes out the parts of the rules it disables.
-/

namespace StyleGate

namespace Rule

/-- What a rule contributes to the report of the chosen rules: its violations, as often as it is
chosen. -/
def copies (chosen : List Rule) (d : Document) (r : Rule) : List Violation :=
  (List.replicate (chosen.count r) (r.check d)).flatten

lemma number_injective {r s : Rule} (h : r.number = s.number) : r = s := by
  revert h
  cases r <;> cases s <;> simp [number]

lemma count_all (r : Rule) : all.count r = 1 := by
  cases r <;> rfl

/-! ## The order in which chosen rules run -/

lemma inOrder_pairwise (chosen : List Rule) :
    (inOrder chosen).Pairwise fun r s => r.number ≤ s.number := by
  refine (List.pairwise_mergeSort ?_ ?_ chosen).imp ?_
  · intro r s t first second
    rw [decide_eq_true_eq] at *
    exact Nat.le_trans first second
  · intro r s
    rw [Bool.or_eq_true, decide_eq_true_eq, decide_eq_true_eq]
    exact Nat.le_total r.number s.number
  · intro r s ordered
    rwa [decide_eq_true_eq] at ordered

/-- The catalogue with every rule as often as it is chosen. -/
def repeated (chosen : List Rule) : List Rule :=
  all.flatMap fun r => List.replicate (chosen.count r) r

lemma repeated_pairwise (chosen : List Rule) :
    (repeated chosen).Pairwise fun r s => r.number ≤ s.number := by
  rw [repeated, List.pairwise_flatMap]
  constructor
  · intro r _
    exact List.pairwise_replicate.mpr (Or.inr (Nat.le_refl _))
  · refine all_ascending.imp ?_
    intro r s hrs a ha b hb
    rw [List.eq_of_mem_replicate ha, List.eq_of_mem_replicate hb]
    exact Nat.le_of_lt hrs

lemma count_repeated (chosen : List Rule) (r : Rule) :
    (repeated chosen).count r = chosen.count r := by
  cases r <;> simp [repeated, all, List.count_replicate]

lemma inOrder_eq (chosen : List Rule) : inOrder chosen = repeated chosen := by
  have perm : (inOrder chosen).Perm (repeated chosen) := by
    refine (List.mergeSort_perm chosen _).trans (List.perm_iff_count.mpr ?_)
    intro r
    exact (count_repeated chosen r).symm
  refine perm.eq_of_pairwise ?_ (inOrder_pairwise chosen) (repeated_pairwise chosen)
  intro r s _ _ hrs hsr
  exact number_injective (Nat.le_antisymm hrs hsr)

end Rule

theorem violations_analyzeWith (chosen : List Rule) (d : Document) :
    (analyzeWith chosen d).violations = Rule.all.flatMap (Rule.copies chosen d) := by
  simp only [analyzeWith, Rule.inOrder_eq, Rule.repeated, List.flatMap_assoc,
    List.flatMap_replicate]
  rfl

/-! ## Parts of a report -/

lemma rule_of_mem_copies {chosen : List Rule} {d : Document} {r : Rule} {v : Violation}
    (hv : v ∈ Rule.copies chosen d r) : v.rule = r.number := by
  obtain ⟨part, member, hv⟩ := List.mem_flatten.mp hv
  rw [List.eq_of_mem_replicate member] at hv
  exact Rule.rule_of_mem_check hv

lemma filter_copies (p : Int → Bool) (chosen : List Rule) (d : Document) (r : Rule) :
    (Rule.copies chosen d r).filter (fun v => p v.rule) =
      if p r.number then Rule.copies chosen d r else [] := by
  by_cases keep : p r.number = true
  · rw [if_pos keep, List.filter_eq_self]
    intro v hv
    rw [rule_of_mem_copies hv, keep]
  · rw [if_neg keep, List.filter_eq_nil_iff]
    intro v hv
    rw [rule_of_mem_copies hv]
    exact keep

/-- Keeping violations by the numbers of their rules keeps or drops whole rules. -/
lemma filter_flatMap_copies (p : Int → Bool) (chosen : List Rule) (d : Document)
    (rules : List Rule) :
    (rules.flatMap (Rule.copies chosen d)).filter (fun v => p v.rule) =
      (rules.filter fun r => p r.number).flatMap (Rule.copies chosen d) := by
  induction rules with
  | nil => rfl
  | cons r rules ih =>
    rw [List.flatMap_cons, List.filter_append, filter_copies, ih]
    by_cases keep : p r.number = true
    · rw [if_pos keep, List.filter_cons, if_pos keep, List.flatMap_cons]
    · rw [if_neg keep, List.filter_cons, if_neg keep, List.nil_append]

lemma filter_number_all (r : Rule) :
    (Rule.all.filter fun s => (s.number : Int) == r.number) = [r] := by
  cases r <;> rfl

lemma forRule_analyzeWith (chosen : List Rule) (d : Document) (r : Rule) :
    (analyzeWith chosen d).forRule r.number = Rule.copies chosen d r := by
  rw [Report.forRule, violations_analyzeWith, filter_flatMap_copies (· == (r.number : Int)),
    filter_number_all, List.flatMap_cons, List.flatMap_nil, List.append_nil]

lemma analyzeWith_perm {chosen chosen' : List Rule} (perm : chosen.Perm chosen') (d : Document) :
    analyzeWith chosen d = analyzeWith chosen' d := by
  have same : Rule.repeated chosen = Rule.repeated chosen' := by
    simp only [Rule.repeated, perm.count_eq]
  rw [analyzeWith, Rule.inOrder_eq, same, ← Rule.inOrder_eq, analyzeWith]

lemma copies_all (d : Document) (r : Rule) : Rule.copies Rule.all d r = r.check d := by
  rw [Rule.copies, Rule.count_all]
  simp

/-- Running some rules of the catalogue keeps their violations of the full report. -/
lemma violations_analyzeWith_filter (p : Int → Bool) (d : Document) :
    (analyzeWith (Rule.all.filter fun r => p r.number) d).violations =
      (analyze d).violations.filter fun v => p v.rule := by
  have inOrder : Rule.inOrder (Rule.all.filter fun r => p r.number) =
      Rule.all.filter fun r => p r.number := by
    refine List.mergeSort_of_pairwise ((Rule.all_ascending.filter _).imp ?_)
    intro r s hrs
    simpa using Nat.le_of_lt hrs
  rw [analyze, violations_analyzeWith Rule.all, filter_flatMap_copies, analyzeWith, inOrder]
  simp only [funext (copies_all d)]

/-! ## Selection -/

/-- The report of chosen rules is put together from whole parts of the full report in the order of
the catalogue, each as often as its rule is chosen. The order of choosing does not show, the part of
a rule can be read off by its number, and every configuration without complaints keeps exactly the
violations of the rules that it does not disable. -/
theorem selection_filters_report :
    (∀ (chosen : List Rule) (d : Document), (analyzeWith chosen d).violations =
      Rule.all.flatMap fun r => (List.replicate (chosen.count r) (r.check d)).flatten) ∧
    (∀ (chosen chosen' : List Rule) (d : Document), chosen.Perm chosen' →
      analyzeWith chosen d = analyzeWith chosen' d) ∧
    (∀ (chosen : List Rule) (d : Document) (r : Rule),
      (analyzeWith chosen d).forRule r.number =
        (List.replicate (chosen.count r) (r.check d)).flatten) ∧
    (∀ (config : Config.Value) (d : Document), Config.validate config = .ok [] →
      ∃ fields rules, config.layer = .map fields ∧ Config.enabledRulesOf config = .ok rules ∧
        (analyzeWith rules d).violations =
          (analyze d).violations.filter fun v => v.rule ∉ Config.disabledNumbers fields) := by
  refine ⟨violations_analyzeWith, fun chosen chosen' d perm => analyzeWith_perm perm d,
    forRule_analyzeWith, ?_⟩
  intro config d accepted
  obtain ⟨fields, layer, valid⟩ := Config.validate_eq_nil_iff.mp accepted
  refine ⟨fields, Rule.all.filter fun r => (r.number : Int) ∉ Config.disabledNumbers fields, layer,
    ?_, violations_analyzeWith_filter (fun n => n ∉ Config.disabledNumbers fields) d⟩
  rw [Config.enabledRulesOf, layer]
  exact Config.enabledRules_of_valid valid

/-- A configuration that disables two rules, out of order. -/
def twoRulesDisabled : Config.Value :=
  ⟨#[.map [(.text "version", 1), (.text "rules", 2)], .scalar (.text "1.0"),
    .map [(.text "disabled", 3)], .list [4, 5], .scalar (.int 7), .scalar (.int 4)], 0⟩

/-- Rules chosen out of order, one of them twice, and a configuration that disables two, on a line
with a magic number. -/
theorem selection_on_magic_number :
    [Rule.magicNumber, .documentation, .magicNumber].Perm
        [.magicNumber, .magicNumber, .documentation] ∧
      analyzeWith [.magicNumber, .documentation, .magicNumber]
          (Document.ofText "int x = 7;".toList) =
        analyzeWith [.magicNumber, .magicNumber, .documentation]
          (Document.ofText "int x = 7;".toList) ∧
      Config.validate twoRulesDisabled = .ok [] ∧
      ∃ rules, Config.enabledRulesOf twoRulesDisabled = .ok rules ∧
        (analyzeWith rules (Document.ofText "int x = 7;".toList)).violations =
          (analyze (Document.ofText "int x = 7;".toList)).violations.filter
            fun v => v.rule ∉ [7, 4] := by
  have perm : [Rule.magicNumber, .documentation, .magicNumber].Perm
      [.magicNumber, .magicNumber, .documentation] := by decide
  have accepted : Config.validate twoRulesDisabled = .ok [] := rfl
  obtain ⟨-, unordered, -, kept⟩ := selection_filters_report
  obtain ⟨fields, rules, layer, enabled, violations⟩ := kept twoRulesDisabled
    (Document.ofText "int x = 7;".toList) accepted
  have listed : Config.disabledNumbers fields = [7, 4] := by
    rw [← Config.Layer.map.inj layer]
    rfl
  rw [listed] at violations
  exact ⟨perm, unordered _ _ _ perm, accepted, rules, enabled, violations⟩

end StyleGate
