import Mathlib
import StyleGate.Proofs.Braces.BodyEnd

/-!
# Bodies by running index

A scan goes through running indexes up to the last line. One below zero counts back from the end, so
from such a start the last lines are read twice. The scan stops at the least index up to which the
lines have opened a brace and hold as many opening braces as closing ones. Only a start before the
first line is out of range.
-/

namespace StyleGate.Braces

/-- The line at a running index, if there is one. -/
def lineAt? (lines : List Text) (k : Int) : Option Text :=
  if 0 ≤ k then lines[k.toNat]?
  else if 0 ≤ lines.length + k then lines[(lines.length + k).toNat]? else none

def lineAt (lines : List Text) (k : Int) : Text := (lineAt? lines k).getD []

/-- The lines from running index `start` up to `k` open a brace and hold, together, as many opening
braces as closing ones. -/
structure LevelUpTo (lines : List Text) (start k : Int) : Prop where
  le : start ≤ k
  lt : k < lines.length
  opened : ∃ j, start ≤ j ∧ j ≤ k ∧ '{' ∈ lineAt lines j
  level : ∑ j ∈ Finset.Icc start k, opening (lineAt lines j) =
    ∑ j ∈ Finset.Icc start k, closing (lineAt lines j)

variable {lines : List Text} {start : Int}

/-! ## Reading lines -/

lemma lineAt?_natCast (lines : List Text) (i : Nat) : lineAt? lines i = lines[i]? := by
  rw [lineAt?, if_pos (Int.natCast_nonneg i), Int.toNat_natCast]

lemma lineAt?_of_neg {k : Int} (negative : k < 0) (back : -(lines.length : Int) ≤ k) :
    lineAt? lines k = lines[(lines.length + k).toNat]? := by
  rw [lineAt?, if_neg (by omega), if_pos (by omega)]

/-- A line that a scan comes to is missing only before the first line. -/
lemma lineAt?_eq_none_iff {k : Int} (inside : k < lines.length) :
    lineAt? lines k = none ↔ k < -(lines.length : Int) := by
  by_cases negative : k < 0
  · by_cases back : -(lines.length : Int) ≤ k
    · rw [lineAt?_of_neg negative back, List.getElem?_eq_none_iff]
      omega
    · rw [lineAt?, if_neg (by omega), if_neg (by omega)]
      exact iff_of_true rfl (by omega)
  · rw [lineAt?, if_pos (by omega), List.getElem?_eq_none_iff]
    omega

lemma length_linesFrom (back : -(lines.length : Int) ≤ start) :
    (linesFrom lines start).length = (lines.length - start).toNat := by
  unfold linesFrom
  split
  · rw [List.length_drop]
    omega
  · rw [List.length_append, List.length_drop]
    omega

/-- The scan reads the lines at the running indexes from its start on. -/
lemma getElem?_linesFrom (back : -(lines.length : Int) ≤ start) (j : Nat) :
    (linesFrom lines start)[j]? = lineAt? lines (start + j) := by
  unfold linesFrom
  split
  next forward =>
    obtain ⟨i, rfl⟩ := Int.eq_ofNat_of_zero_le forward
    rw [Int.toNat_natCast, List.getElem?_drop, ← Int.natCast_add, lineAt?_natCast]
  next negative =>
    have rest : (lines.drop (lines.length + start).toNat).length = (-start).toNat := by
      rw [List.length_drop]
      omega
    by_cases first : j < (-start).toNat
    · rw [List.getElem?_append_left (by rw [rest]; exact first), List.getElem?_drop,
        lineAt?_of_neg (by omega) (by omega)]
      congr 1
      omega
    · obtain ⟨i, again⟩ := Int.eq_ofNat_of_zero_le (show 0 ≤ start + j by omega)
      rw [List.getElem?_append_right (by rw [rest]; omega), rest, again, lineAt?_natCast]
      congr 1
      omega

/-- The first lines that the scan reads. -/
lemma take_linesFrom (back : -(lines.length : Int) ≤ start) {m : Nat}
    (short : start + m ≤ lines.length) :
    (linesFrom lines start).take m =
      (List.range m).map fun j : Nat => lineAt lines (start + j) := by
  refine List.ext_getElem? fun j => ?_
  rw [List.getElem?_take, List.getElem?_map]
  split
  next inside =>
    have there : lineAt? lines (start + j) ≠ none := by
      rw [Ne, lineAt?_eq_none_iff (by omega)]
      omega
    obtain ⟨l, found⟩ := Option.ne_none_iff_exists'.mp there
    rw [getElem?_linesFrom back, List.getElem?_range inside, Option.map_some, lineAt, found]
    rfl
  next outside =>
    rw [List.getElem?_eq_none (by rw [List.length_range]; omega)]
    rfl

/-! ## Counting braces -/

lemma net_map_range (f : Nat → Text) (m : Nat) : net ((List.range m).map f) =
    ∑ j ∈ Finset.range m, ((opening (f j) : Int) - closing (f j)) := by
  induction m with
  | zero => rfl
  | succ m ih =>
    rw [List.range_succ, List.map_append, net_append, ih, Finset.sum_range_succ, List.map_singleton,
      net_cons, net_nil, Int.add_zero]

lemma sum_Icc_eq_sum_range (f : Int → Nat) (start : Int) (m : Nat) :
    ∑ j ∈ Finset.Icc start (start + m), f j = ∑ j ∈ Finset.range (m + 1), f (start + j) := by
  have count : (start + m + 1 - start).toNat = m + 1 := by omega
  rw [Int.Icc_eq_finset_map, Finset.sum_map, count]
  rfl

lemma LevelUpTo.exists_offset {k : Int} (level : LevelUpTo lines start k) :
    ∃ m : Nat, k = start + m :=
  ⟨(k - start).toNat, by have := level.le; omega⟩

/-- What the scan has read at a running index is balanced exactly if the index is level. -/
lemma levelUpTo_iff (back : -(lines.length : Int) ≤ start) (m : Nat) :
    LevelUpTo lines start (start + m) ↔ m < (linesFrom lines start).length ∧
      Balanced ((linesFrom lines start).take (m + 1)) := by
  rw [length_linesFrom back]
  by_cases inside : start + m < lines.length
  · have level : net ((linesFrom lines start).take (m + 1)) = 0 ↔
        ∑ j ∈ Finset.Icc start (start + m), opening (lineAt lines j) =
          ∑ j ∈ Finset.Icc start (start + m), closing (lineAt lines j) := by
      rw [take_linesFrom back (by omega), net_map_range, Finset.sum_sub_distrib,
        Int.sub_eq_zero, ← Nat.cast_sum, ← Nat.cast_sum, Int.natCast_inj, sum_Icc_eq_sum_range,
        sum_Icc_eq_sum_range]
    have opened : Opens ((linesFrom lines start).take (m + 1)) ↔
        ∃ j, start ≤ j ∧ j ≤ start + m ∧ '{' ∈ lineAt lines j := by
      rw [take_linesFrom back (by omega)]
      simp only [Opens, opening, List.count_pos_iff, List.mem_map, List.mem_range]
      constructor
      · rintro ⟨_, ⟨j, hj, rfl⟩, opens⟩
        exact ⟨start + j, by omega, by omega, opens⟩
      · rintro ⟨j, from_start, to_end, opens⟩
        refine ⟨_, ⟨(j - start).toNat, by omega, rfl⟩, ?_⟩
        rwa [Int.toNat_of_nonneg (by omega), add_sub_cancel]
    rw [Balanced, level, opened]
    constructor
    · rintro ⟨-, -, opens, counts⟩
      exact ⟨by omega, opens, counts⟩
    · rintro ⟨-, opens, counts⟩
      exact ⟨by omega, inside, opens, counts⟩
  · refine iff_of_false (fun h => inside h.lt) ?_
    rintro ⟨few, -⟩
    omega

/-! ## Every start -/

/-- A start that is in range. -/
lemma bodyEnd_of_back (back : -(lines.length : Int) ≤ start) : bodyEnd lines start =
    .ok ((closeFrom start 0 false (linesFrom lines start)).map Close.position) := by
  rw [bodyEnd, if_neg (by omega)]

lemma bodyEnd_eq_error_iff :
    bodyEnd lines start = .error .startOutOfRange ↔ start < -(lines.length : Int) := by
  by_cases back : -(lines.length : Int) ≤ start
  · rw [bodyEnd_of_back back]
    exact iff_of_false nofun (by omega)
  · rw [bodyEnd, if_pos (by omega)]
    exact iff_of_true rfl (by omega)

theorem bodyEnd_eq_some_iff_isLeast (back : -(lines.length : Int) ≤ start) (k : Int) :
    bodyEnd lines start = .ok (some k) ↔ IsLeast {k | LevelUpTo lines start k} k := by
  rw [bodyEnd_of_back back]
  simp only [Except.ok.injEq, Option.map_eq_some_iff, closeFrom_eq_some_iff, balancedFrom_zero]
  constructor
  · rintro ⟨_, ⟨m, inside, balanced, first, rfl⟩, rfl⟩
    refine ⟨(levelUpTo_iff back m).mpr ⟨inside, balanced⟩, ?_⟩
    intro j level
    -- An index before `m` would have stopped the scan.
    by_contra above
    have before : j < start + m := not_le.mp above
    obtain ⟨i, rfl⟩ := level.exists_offset
    exact first i (by omega) ((levelUpTo_iff back i).mp level).2
  · rintro ⟨level, least⟩
    obtain ⟨m, rfl⟩ := level.exists_offset
    obtain ⟨inside, balanced⟩ := (levelUpTo_iff back m).mp level
    refine ⟨_, ⟨m, inside, balanced, ?_, rfl⟩, rfl⟩
    intro i before earlier
    have bound := least ((levelUpTo_iff back i).mpr ⟨by omega, earlier⟩)
    omega

/-- Without a least index there is none at all, since every index lies above the start. -/
lemma exists_isLeast {k : Int} (level : LevelUpTo lines start k) :
    ∃ least, IsLeast {k | LevelUpTo lines start k} least := by
  obtain ⟨least, mem, below⟩ :=
    Int.exists_least_of_bdd ⟨start, fun _ h => LevelUpTo.le h⟩ ⟨k, level⟩
  exact ⟨least, mem, below⟩

theorem bodyEnd_eq_none_iff (back : -(lines.length : Int) ≤ start) :
    bodyEnd lines start = .ok none ↔ ¬ ∃ k, LevelUpTo lines start k := by
  constructor
  · rintro unclosed ⟨k, level⟩
    obtain ⟨least, isLeast⟩ := exists_isLeast level
    have closed := (bodyEnd_eq_some_iff_isLeast back least).mpr isLeast
    rw [unclosed] at closed
    cases closed
  · intro never
    rw [bodyEnd_of_back back]
    cases stops : closeFrom start 0 false (linesFrom lines start) with
    | none => rfl
    | some close =>
      have closed : bodyEnd lines start = .ok (some close.position) := by
        rw [bodyEnd_of_back back, stops]
        rfl
      exact absurd ⟨_, ((bodyEnd_eq_some_iff_isLeast back _).mp closed).1⟩ never

/-- A scan does not depend on the number that its first line has. -/
lemma closeFrom_shift (position depth offset : Int) (inside : Bool) (ls : List Text) :
    (closeFrom (offset + position) depth inside ls).map Close.position =
      (closeFrom position depth inside ls).map fun close => offset + close.position := by
  induction ls generalizing position depth inside with
  | nil => rfl
  | cons l ls ih =>
    by_cases stop : BalancedFrom depth inside [l]
    · rw [closeFrom_cons_of_balanced _ stop, closeFrom_cons_of_balanced _ stop]
      rfl
    · rw [closeFrom_cons_of_not_balanced _ stop, closeFrom_cons_of_not_balanced _ stop,
        Int.add_assoc]
      exact ih (position + 1) _ _

lemma bodyEnd_drop (lines : List Text) (i : Nat) :
    bodyEnd lines i = (bodyEnd (lines.drop i) 0).map (Option.map ((i : Int) + ·)) := by
  have shifted := closeFrom_shift 0 0 i false (lines.drop i)
  rw [Int.add_zero] at shifted
  have front : bodyEnd (lines.drop i) 0 =
      .ok ((closeFrom 0 0 false (lines.drop i)).map Close.position) :=
    bodyEnd_natCast (lines.drop i) 0
  rw [bodyEnd_natCast, shifted, front, Except.map, Option.map_map]
  rfl

/-- The scan is out of range exactly from a start before the first line, which is to say that a line
it comes to is missing. From any other start it stops at the least running index up to which the
lines open a brace and hold as many opening braces as closing ones, or nowhere if there is none.
From a line on, it stops where it would in the text that begins with this line. -/
theorem bodyEnd_is_first_level_index (lines : List Text) (start : Int) :
    (bodyEnd lines start = .error .startOutOfRange ↔ start < -(lines.length : Int)) ∧
    (start < -(lines.length : Int) ↔
      ∃ k, start ≤ k ∧ k < lines.length ∧ lineAt? lines k = none) ∧
    (-(lines.length : Int) ≤ start →
      (∀ k, bodyEnd lines start = .ok (some k) ↔ IsLeast {k | LevelUpTo lines start k} k) ∧
      (bodyEnd lines start = .ok none ↔ ¬ ∃ k, LevelUpTo lines start k)) ∧
    (0 ≤ start → start ≤ lines.length →
      bodyEnd lines start = (bodyEnd (lines.drop start.toNat) 0).map (Option.map (start + ·))) := by
  refine ⟨bodyEnd_eq_error_iff, ⟨?_, ?_⟩, ?_, ?_⟩
  · intro before
    have inside : start < lines.length := by omega
    exact ⟨start, Int.le_refl start, inside, (lineAt?_eq_none_iff inside).mpr before⟩
  · rintro ⟨k, le, inside, missing⟩
    have before := (lineAt?_eq_none_iff inside).mp missing
    omega
  · intro back
    exact ⟨bodyEnd_eq_some_iff_isLeast back, bodyEnd_eq_none_iff back⟩
  · intro forward _
    obtain ⟨i, rfl⟩ := Int.eq_ofNat_of_zero_le forward
    exact bodyEnd_drop lines i

/-- One line opens two braces and the next one closes one of them. -/
def halfClosed : List Text := ["\x7b \x7b".toList, "\x7d".toList]

/-- From the last line on, that line is read before and after the first one, and closes both. -/
theorem bodyEnd_of_line_read_twice :
    -(halfClosed.length : Int) ≤ -1 ∧ bodyEnd halfClosed (-1) = .ok (some 1) ∧
      IsLeast {k | LevelUpTo halfClosed (-1) k} 1 := by
  obtain ⟨-, -, inRange, -⟩ := bodyEnd_is_first_level_index halfClosed (-1)
  have back : -(halfClosed.length : Int) ≤ -1 := by decide
  have closed : bodyEnd halfClosed (-1) = .ok (some 1) := by decide
  exact ⟨back, closed, ((inRange back).1 1).mp closed⟩

end StyleGate.Braces
