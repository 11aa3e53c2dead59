import Mathlib.Data.List.Basic
import Mathlib.Tactic.Common
import StyleGate.Config.Selection

/-!
# The rules that a valid configuration leaves enabled

Validation and selection read the same fields by different rules: validation tells an absent value
from an empty one and a number from a truth value, selection does not. On a configuration without
complaints they agree: the list of disabled rules holds whole numbers only, and the rules that stay
enabled are those whose numbers are not in it.
-/

namespace StyleGate.Config

/-- The whole number that a value is. -/
def wholeNumber? (v : Value) : Option Int :=
  match v.layer with
  | .scalar (.int n) => some n
  | _ => none

def listedNumbers (disabled : Option Value) : List Int :=
  match disabled.map Value.layer with
  | some (.list items) => items.filterMap wholeNumber?
  | _ => []

/-- The numbers that the fields of a configuration list as disabled. -/
def disabledNumbers (fields : Fields) : List Int :=
  match (field? fields "rules").map Value.layer with
  | some (.map rules) => listedNumbers (field? rules "disabled")
  | _ => []

/-! ## The list of disabled rules -/

lemma exists_int_of_memberComplaint? {index : Nat} {v : Value}
    (accepted : memberComplaint? index v = none) : ∃ n, v.layer = .scalar (.int n) := by
  unfold memberComplaint? at accepted
  split at accepted
  · rename_i n layer
    exact ⟨n, layer⟩
  · cases accepted

lemma exists_int_of_valid {items : List Value}
    (valid : (items.mapIdx memberComplaint?).filterMap id = []) :
    ∀ v ∈ items, ∃ n, v.layer = .scalar (.int n) := by
  intro v hv
  obtain ⟨i, hi, rfl⟩ := List.getElem_of_mem hv
  have accepted := List.filterMap_eq_nil_iff.mp valid (memberComplaint? i items[i])
  exact exists_int_of_memberComplaint? (accepted (List.mem_mapIdx.mpr ⟨i, hi, rfl⟩))

lemma members_of_ints {v : Value} {items : List Value} (layer : v.layer = .list items)
    (ints : ∀ item ∈ items, ∃ n, item.layer = .scalar (.int n)) :
    members v = .ok ((items.filterMap wholeNumber?).map .int) := by
  have hashes : items.all hashable = true := by
    refine List.all_eq_true.mpr ?_
    intro item member
    obtain ⟨n, scalar⟩ := ints item member
    rw [hashable, scalar]
  have scalars : items.filterMap scalar? = (items.filterMap wholeNumber?).map .int := by
    rw [List.map_filterMap]
    refine List.filterMap_congr ?_
    intro item member
    obtain ⟨n, scalar⟩ := ints item member
    simp [scalar?, wholeNumber?, scalar]
  rw [members, layer, ← scalars]
  exact if_pos hashes

lemma present?_of_truthy {fields : Fields} {name : String} {v : Value}
    (found : field? fields name = some v) (there : v.truthy = true) :
    present? fields name = some v := by
  rw [present?, found, Option.filter_some_pos there]

lemma present?_of_not_truthy {fields : Fields} {name : String} {v : Value}
    (found : field? fields name = some v) (empty : v.truthy = false) :
    present? fields name = none := by
  rw [present?, found, Option.filter_some_neg (by simp [empty])]

lemma truthy_of_null {v : Value} (layer : v.layer = .scalar .null) : v.truthy = false := by
  rw [Value.truthy, layer]
  rfl

/-- What selection makes of the list of disabled rules in a mapping. -/
lemma members_disabled_of_valid {rules : Fields}
    (valid : disabledComplaints (field? rules "disabled") = []) :
    (match present? rules "disabled" with
      | none => Except.ok []
      | some v => members v) = .ok ((listedNumbers (field? rules "disabled")).map .int) := by
  cases found : field? rules "disabled" with
  | none => simp [present?, found, listedNumbers]
  | some v =>
    rw [found, disabledComplaints, Option.map_some] at valid
    split at valid
    · contradiction
    · rename_i layer
      have layer : v.layer = .scalar .null := Option.some.inj layer
      rw [present?_of_not_truthy found (truthy_of_null layer)]
      simp [listedNumbers, layer]
    · rename_i items layer
      have layer : v.layer = .list items := Option.some.inj layer
      have truthy : v.truthy = !items.isEmpty := by rw [Value.truthy, layer]
      by_cases empty : items = []
      · rw [present?_of_not_truthy found (by rw [truthy, empty]; rfl)]
        simp [listedNumbers, layer, empty]
      · rw [present?_of_truthy found (by rw [truthy]; simpa using empty)]
        simp only [listedNumbers, Option.map_some, layer]
        exact members_of_ints layer (exists_int_of_valid valid)
    · cases valid

/-! ## Selection -/

lemma rulesComplaints_of_valid {fields : Fields} (valid : complaints fields = []) :
    rulesComplaints fields = [] := by
  simp only [complaints, List.append_eq_nil_iff] at valid
  exact valid.2

theorem disabled_of_valid {fields : Fields} (valid : complaints fields = []) :
    disabled fields = .ok ((disabledNumbers fields).map .int) := by
  have valid := rulesComplaints_of_valid valid
  cases found : field? fields "rules" with
  | none => simp [disabled, present?, disabledNumbers, found]
  | some v =>
    rw [rulesComplaints, found, Option.map_some] at valid
    split at valid
    · contradiction
    · rename_i layer
      have layer : v.layer = .scalar .null := Option.some.inj layer
      rw [disabled, present?_of_not_truthy found (truthy_of_null layer)]
      simp [disabledNumbers, found, layer]
    · rename_i rules layer
      have layer : v.layer = .map rules := Option.some.inj layer
      have truthy : v.truthy = !rules.isEmpty := by rw [Value.truthy, layer]
      have numbers : disabledNumbers fields = listedNumbers (field? rules "disabled") := by
        simp [disabledNumbers, found, layer]
      by_cases empty : rules = []
      · rw [disabled, present?_of_not_truthy found (by rw [truthy, empty]; rfl), numbers, empty]
        rfl
      · rw [disabled, present?_of_truthy found (by rw [truthy]; simpa using empty), numbers]
        simp only [layer]
        exact members_disabled_of_valid valid
    · cases valid

/-- Selection never misuses a valid configuration, and takes out the listed rules and no others. -/
theorem enabledRules_of_valid {fields : Fields} (valid : complaints fields = []) :
    enabledRules fields =
      .ok (Rule.all.filter fun r => (r.number : Int) ∉ disabledNumbers fields) := by
  have kept : ∀ r : Rule,
      (!((disabledNumbers fields).map Scalar.int).any fun s => s.same (.int r.number)) =
        decide ((r.number : Int) ∉ disabledNumbers fields) := by
    intro r
    rw [List.any_map, decide_not, Bool.not_inj_iff, Bool.eq_iff_iff, List.any_eq_true,
      decide_eq_true_iff]
    constructor
    · rintro ⟨n, member, same⟩
      have equal : n = r.number := by simpa [Scalar.same, Scalar.integer?] using same
      exact equal ▸ member
    · intro member
      exact ⟨_, member, by simp [Scalar.same, Scalar.integer?]⟩
  simp only [enabledRules, disabled_of_valid valid, Except.map, kept]

lemma validate_eq_nil_iff {config : Value} :
    validate config = .ok [] ↔ ∃ fields, config.layer = .map fields ∧ complaints fields = [] := by
  unfold validate
  constructor
  · intro accepted
    split at accepted
    · rename_i fields layer
      exact ⟨fields, layer, Except.ok.inj accepted⟩
    all_goals cases accepted
  · rintro ⟨fields, layer, valid⟩
    rw [layer, ← valid]

end StyleGate.Config
