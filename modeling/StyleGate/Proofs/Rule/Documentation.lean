import Mathlib.Data.List.Basic
import StyleGate.Proofs.Analysis.Catalogue
import StyleGate.Proofs.Text.Runs

/-!
# What the documentation rule reports

The rule goes through the lines from the top and carries the line above. It names the declarations
below a line that is no documentation, and a declaration on the first line.
-/

namespace StyleGate

open Text

namespace Declaration

/-- A line declares a class if one of its words is `class`. -/
lemma isClass_iff {s : Text} :
    isClass s = true ↔ "class".toList ∈ (runs s).map Prod.fst := by
  rw [isClass, isSome_findRun?, List.any_eq_true, List.mem_map]
  simp only [beq_iff_eq]

lemma isClass_across {c : Char} (hc : isWord c = false) (a b : Text) :
    isClass (a ++ c :: b) = (isClass a || isClass b) := by
  rw [Bool.eq_iff_iff, Bool.or_eq_true, isClass_iff, isClass_iff, isClass_iff, runs_across hc,
    List.map_append, List.mem_append, List.map_map]
  rfl

lemma isClass_trim (s : Text) : isClass (trim s) = isClass s := by
  have nil : isClass [] = false := by decide
  refine apply_trim (fun c s hc => ?_) (fun c s hc => ?_) s
  · simpa [nil] using isClass_across (isWord_of_isBlank hc) [] s
  · simpa [nil] using isClass_across (isWord_of_isBlank hc) s []

end Declaration

namespace Rule

/-- A declaration is visible and more than a brace. -/
lemma visible_of_declares {s : Text} (declared : declares s = true) : s ≠ [] ∧ s ≠ ['}'] := by
  constructor
  · rintro rfl
    exact absurd declared (by decide)
  · rintro rfl
    exact absurd declared (by decide)

/-- The line declares a class or a method, and the line above it, if there is one, documents
nothing. -/
def bare (above : Option Text) (l : Text) : Bool :=
  declares (trim l) && !above.any fun a => Comment.documents (trim a)

/-- Which of the lines, counted from `index` on, are bare. -/
def bareFrom (above : Option Text) (index : Nat) : List Text → List Nat
  | [] => []
  | l :: ls => (if bare above l then [index] else []) ++ bareFrom (some l) (index + 1) ls

/-- The violation that names line `i`, counted from zero, as undocumented. -/
def documentationViolation (i : Nat) : Violation :=
  ⟨documentation.number,
    "Rule 9 Violation: Undocumented Class or Method found on line " ++ toString (i + 1) ++ ".",
    some ((i + 1 : Nat) : Int)⟩

lemma documentationAt_eq (above : Option Line) (i : Nat) (l : Text) :
    documentationAt above ⟨i + 1, l⟩ =
      if bare (above.map Line.raw) l then some (documentationViolation i) else none := by
  have same : undocumented above ⟨i + 1, l⟩ = bare (above.map Line.raw) l := by
    rw [undocumented, bare, Option.any_map]
    rfl
  rw [documentationAt, same]
  rfl

/-- The rule on lines numbered from `index` on, below the line `above`. -/
lemma filterMap_documentationAt (above : Option Line) (index : Nat) (ls : List Text) :
    ((above :: (ls.mapIdx fun i l => (⟨index + i + 1, l⟩ : Line)).map some).zip
      (ls.mapIdx fun i l => (⟨index + i + 1, l⟩ : Line))).filterMap
        (fun p => documentationAt p.1 p.2) =
      (bareFrom (above.map Line.raw) index ls).map documentationViolation := by
  induction ls generalizing above index with
  | nil => rfl
  | cons l ls ih =>
    have later : (ls.mapIdx fun i l => (⟨index + (i + 1) + 1, l⟩ : Line)) =
        ls.mapIdx fun i l => ⟨index + 1 + i + 1, l⟩ := by
      refine congrArg (List.mapIdx · ls) (funext₂ fun i l => ?_)
      rw [Nat.add_right_comm index 1 i, Nat.add_assoc index i 1]
    rw [List.mapIdx_cons, later, List.map_cons, List.zip_cons_cons, List.filterMap_cons,
      documentationAt_eq, ih, bareFrom, List.map_append]
    by_cases undocumented : bare (above.map Line.raw) l = true
    · simp [undocumented]
    · simp [undocumented]

theorem checkDocumentation_of_holds {d : Document} {ls : List Text} (holds : d.Holds ls) :
    checkDocumentation d = (bareFrom none 0 ls).map documentationViolation := by
  have lines : d.lines = ls.mapIdx fun i l => (⟨0 + i + 1, l⟩ : Line) := by
    simp only [Nat.zero_add]
    exact holds
  rw [checkDocumentation, withAbove, lines]
  exact filterMap_documentationAt none 0 ls

theorem checkDocumentation_ofText (t : Text) :
    checkDocumentation (Document.ofText t) =
      (bareFrom none 0 (splitLines t)).map documentationViolation :=
  checkDocumentation_of_holds (Document.holds_ofText t)

/-- The line above line `k` of the lines below `above`. -/
def lineAbove (above : Option Text) (ls : List Text) : Nat → Option Text
  | 0 => above
  | k + 1 => ls[k]?

lemma lineAbove_cons (above : Option Text) (l : Text) (ls : List Text) (k : Nat) :
    lineAbove above (l :: ls) (k + 1) = lineAbove (some l) ls k := by
  cases k with
  | zero => rfl
  | succ k => rfl

theorem mem_bareFrom_iff {above : Option Text} {index i : Nat} {ls : List Text} :
    i ∈ bareFrom above index ls ↔
      ∃ k l, i = index + k ∧ ls[k]? = some l ∧ bare (lineAbove above ls k) l = true := by
  induction ls generalizing above index with
  | nil => simp [bareFrom]
  | cons m ls ih =>
    have here : i ∈ (if bare above m then [index] else []) ↔ i = index ∧ bare above m = true := by
      by_cases undocumented : bare above m = true
      · simp [undocumented]
      · simp [undocumented]
    rw [bareFrom, List.mem_append, here, ih]
    constructor
    · rintro (⟨rfl, undocumented⟩ | ⟨k, l, rfl, line, undocumented⟩)
      · exact ⟨0, m, rfl, rfl, undocumented⟩
      · refine ⟨k + 1, l, by omega, line, ?_⟩
        rwa [lineAbove_cons]
    · rintro ⟨_ | k, l, rfl, line, undocumented⟩
      · obtain rfl : m = l := Option.some.inj line
        exact Or.inl ⟨rfl, undocumented⟩
      · rw [lineAbove_cons] at undocumented
        exact Or.inr ⟨k, l, by omega, line, undocumented⟩

/-- A line that is reported declares something. -/
lemma exists_declares_of_mem_bareFrom {above : Option Text} {index i : Nat} {ls : List Text}
    (mem : i ∈ bareFrom above index ls) :
    ∃ k l, i = index + k ∧ ls[k]? = some l ∧ declares (trim l) = true := by
  obtain ⟨k, l, place, line, undocumented⟩ := mem_bareFrom_iff.mp mem
  exact ⟨k, l, place, line, (Bool.and_eq_true _ _ ▸ undocumented).1⟩

end Rule

end StyleGate
