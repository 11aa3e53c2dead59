import Mathlib.Data.List.Basic
import StyleGate.Proofs.Braces.BodyEnd
import StyleGate.Rule.AfterBody

/-!
# What the spacing rule reports

The rule goes through the signatures from the top and names, for each, the line on which its body
closes. So its violations come in the order of the signatures, not of the lines that they name.
-/

namespace StyleGate.Rule

/-- Line `i`, counted from zero, is a signature. -/
def HeadsBody (lines : List Text) (i : Nat) : Prop :=
  ∃ l, lines[i]? = some l ∧ Declaration.isSignature l = true

/-- Line `i` is a signature, its body closes on line `e`, and too little space follows. -/
structure Crowds (lines : List Text) (i e : Nat) : Prop where
  heads : HeadsBody lines i
  closes : Braces.bodyEnd lines i = .ok (some (e : Int))
  crowded : crowded (lines.drop (e + 1)) = true

/-- The violation that names line `e`, counted from zero, as the end of a method. -/
def spacingViolation (e : Nat) : Violation :=
  ⟨subroutineSpacing.number,
    "Rule 8 Violation: Method ending at line " ++ toString ((e : Int) + 1) ++
      " does not have 2 empty lines after it.",
    some ((e : Int) + 1)⟩

lemma sweep_eq {α : Type} (judge : Nat → List Text → Option α) (index : Nat) (found : List α)
    (ls : List Text) : sweep judge index found ls =
      found.reverse ++ (List.range ls.length).filterMap fun k => judge (index + k) (ls.drop k) := by
  induction ls generalizing index found with
  | nil => simp [sweep]
  | cons l ls ih =>
    have later : (List.range ls.length).filterMap
        ((fun k => judge (index + k) ((l :: ls).drop k)) ∘ Nat.succ) =
          (List.range ls.length).filterMap fun k => judge (index + 1 + k) (ls.drop k) := by
      refine List.filterMap_congr fun k _ => ?_
      have hk : index + (k + 1) = index + 1 + k := by omega
      simp only [Function.comp_apply, Nat.succ_eq_add_one, hk, List.drop_succ_cons]
    rw [sweep, ih, List.length_cons, List.range_succ_eq_map, List.filterMap_cons,
      List.filterMap_map, later, Nat.add_zero, List.drop_zero]
    cases judge index (l :: ls) with
    | none => rfl
    | some a => simp

lemma checkSubroutineSpacing_eq (d : Document) :
    checkSubroutineSpacing d = (List.range d.rawLines.length).filterMap fun i =>
      subroutineSpacingAt i (d.rawLines.drop i) := by
  rw [checkSubroutineSpacing, sweep_eq]
  simp

lemma bodyAt_drop_eq_some_iff {lines : List Text} {i : Nat} {close : Braces.Close} :
    bodyAt i (lines.drop i) = some (some close) ↔ HeadsBody lines i ∧
      ∃ e : Nat, Braces.ClosesAt lines i e ∧ close = ⟨e, lines.drop (e + 1)⟩ := by
  rw [← Braces.closeFrom_drop_eq_some_iff, HeadsBody, ← List.head?_drop]
  cases lines.drop i with
  | nil => simp [bodyAt]
  | cons l ls =>
    by_cases sig : Declaration.isSignature l = true
    · simp [bodyAt, sig]
    · simp [bodyAt, sig]

lemma subroutineSpacingAt_eq_some {lines : List Text} {index : Nat} {v : Violation} :
    subroutineSpacingAt index lines = some v ↔
      ∃ close, bodyAt index lines = some (some close) ∧ crowded close.after = true ∧
        v = ⟨subroutineSpacing.number,
          "Rule 8 Violation: Method ending at line " ++ toString (close.position + 1) ++
            " does not have 2 empty lines after it.",
          some (close.position + 1)⟩ := by
  rw [subroutineSpacingAt]
  rcases bodyAt index lines with _ | _ | close
  · simp
  · simp
  · by_cases tight : crowded close.after = true
    · simp only [tight, if_true, Option.some.injEq]
      constructor
      · rintro rfl
        exact ⟨close, rfl, tight, rfl⟩
      · rintro ⟨_, rfl, -, rfl⟩
        rfl
    · simp [tight]

/-- Only the line on which a body closes and the space after it enter the verdict. -/
lemma subroutineSpacingAt_congr {index : Nat} {ls ms : List Text} {f : List Text → List Text}
    (space : ∀ after, crowded (f after) = crowded after)
    (body : bodyAt index ms = (bodyAt index ls).map fun found =>
      found.map fun close => ⟨close.position, f close.after⟩) :
    subroutineSpacingAt index ms = subroutineSpacingAt index ls := by
  rw [subroutineSpacingAt, body, subroutineSpacingAt]
  rcases bodyAt index ls with _ | _ | close
  · rfl
  · rfl
  · simp only [Option.map_some, space]

theorem subroutineSpacingAt_drop_eq_some_iff {lines : List Text} {i : Nat} {v : Violation} :
    subroutineSpacingAt i (lines.drop i) = some v ↔
      ∃ e, Crowds lines i e ∧ v = spacingViolation e := by
  rw [subroutineSpacingAt_eq_some]
  constructor
  · rintro ⟨close, body, tight, rfl⟩
    obtain ⟨heads, e, closes, rfl⟩ := bodyAt_drop_eq_some_iff.mp body
    exact ⟨e, ⟨heads, Braces.bodyEnd_eq_some_iff.mpr closes, tight⟩, rfl⟩
  · rintro ⟨e, ⟨heads, closes, tight⟩, rfl⟩
    have body := bodyAt_drop_eq_some_iff.mpr
      ⟨heads, e, Braces.bodyEnd_eq_some_iff.mp closes, rfl⟩
    exact ⟨_, body, tight, rfl⟩

/-- Any relation between the violations of the rule, in the order in which they are reported, is a
relation between the ends of the bodies, in the order of their signatures. -/
theorem pairwise_checkSubroutineSpacing {R : Violation → Violation → Prop} (d : Document) :
    (checkSubroutineSpacing d).Pairwise R ↔ ∀ i j e f, i < j → Crowds d.rawLines i e →
      Crowds d.rawLines j f → R (spacingViolation e) (spacingViolation f) := by
  rw [checkSubroutineSpacing_eq, List.pairwise_filterMap]
  constructor
  · intro h i j e f hij hi hj
    have hlen : j < d.rawLines.length := by
      obtain ⟨l, hl, -⟩ := hj.heads
      exact (List.getElem?_eq_some_iff.mp hl).1
    have lt : i < j ∧ j < (List.range d.rawLines.length).length := ⟨hij, by simpa using hlen⟩
    have pair := List.pairwise_iff_getElem.mp h i j (by omega) lt.2 hij
    simp only [List.getElem_range] at pair
    exact pair _ (subroutineSpacingAt_drop_eq_some_iff.mpr ⟨e, hi, rfl⟩) _
      (subroutineSpacingAt_drop_eq_some_iff.mpr ⟨f, hj, rfl⟩)
  · intro h
    refine List.pairwise_lt_range.imp ?_
    intro i j hij v hv w hw
    obtain ⟨e, hi, rfl⟩ := subroutineSpacingAt_drop_eq_some_iff.mp hv
    obtain ⟨f, hj, rfl⟩ := subroutineSpacingAt_drop_eq_some_iff.mp hw
    exact h i j e f hij hi hj

lemma exists_of_mem_checkSubroutineSpacing {d : Document} {v : Violation}
    (hv : v ∈ checkSubroutineSpacing d) :
    ∃ i e, Crowds d.rawLines i e ∧ v = spacingViolation e := by
  rw [checkSubroutineSpacing_eq, List.mem_filterMap] at hv
  obtain ⟨i, -, hi⟩ := hv
  obtain ⟨e, crowds, rfl⟩ := subroutineSpacingAt_drop_eq_some_iff.mp hi
  exact ⟨i, e, crowds, rfl⟩

end StyleGate.Rule
