import Mathlib.Tactic.Common
import StyleGate.Braces

/-!
# Where a body closes

Lines are balanced if a brace opens on one of them and they hold, together, as many closing braces
as opening ones. The scan from a line stops at the first line that makes the lines read so far
balanced. Two scans stop at the same line exactly when no brace stands between their starts.
-/

namespace StyleGate.Braces

/-- Opening braces minus closing ones. -/
def net : List Text → Int
  | [] => 0
  | l :: ls => (opening l - closing l) + net ls

/-- A brace opens on one of the lines. -/
def Opens (ls : List Text) : Prop := ∃ l ∈ ls, 0 < opening l

/-- The lines bring the scan back to depth zero, if it starts at `depth` and has already seen a
brace open when `inside` is set. -/
def BalancedFrom (depth : Int) (inside : Bool) (ls : List Text) : Prop :=
  (inside = true ∨ Opens ls) ∧ depth + net ls = 0

def Balanced (ls : List Text) : Prop := Opens ls ∧ net ls = 0

@[simp] lemma net_nil : net [] = 0 := rfl

@[simp] lemma net_cons (l : Text) (ls : List Text) :
    net (l :: ls) = (opening l - closing l) + net ls := rfl

@[simp] lemma net_append (ls ms : List Text) : net (ls ++ ms) = net ls + net ms := by
  induction ls with
  | nil => simp
  | cons l ls ih => rw [List.cons_append, net_cons, net_cons, ih, Int.add_assoc]

@[simp] lemma opens_cons (l : Text) (ls : List Text) :
    Opens (l :: ls) ↔ 0 < opening l ∨ Opens ls := by
  simp [Opens]

@[simp] lemma opens_append (ls ms : List Text) : Opens (ls ++ ms) ↔ Opens ls ∨ Opens ms := by
  simp only [Opens, List.mem_append, or_and_right, exists_or]

lemma not_opens_nil : ¬ Opens [] := by simp [Opens]

lemma balancedFrom_zero {ls : List Text} : BalancedFrom 0 false ls ↔ Balanced ls := by
  simp [BalancedFrom, Balanced]

/-- Reading one line is one step of the scan. -/
lemma balancedFrom_cons {depth : Int} {inside : Bool} {l : Text} {ls : List Text} :
    BalancedFrom depth inside (l :: ls) ↔
      BalancedFrom (depth + (opening l - closing l)) (inside || 0 < opening l) ls := by
  simp only [BalancedFrom, opens_cons, net_cons, Bool.or_eq_true, decide_eq_true_eq, or_assoc,
    Int.add_assoc]

/-! ## The scan -/

lemma closeFrom_cons_of_balanced (position : Int) {depth : Int} {inside : Bool} {l : Text}
    (h : BalancedFrom depth inside [l]) (ls : List Text) :
    closeFrom position depth inside (l :: ls) = some ⟨position, ls⟩ := by
  obtain ⟨opened, level⟩ := balancedFrom_cons.mp h
  have inside' : (inside || 0 < opening l) = true := opened.resolve_right not_opens_nil
  rw [net_nil, Int.add_zero] at level
  simp [closeFrom, inside', level]

lemma closeFrom_cons_of_not_balanced (position : Int) {depth : Int} {inside : Bool} {l : Text}
    (h : ¬ BalancedFrom depth inside [l]) (ls : List Text) :
    closeFrom position depth inside (l :: ls) =
      closeFrom (position + 1) (depth + (opening l - closing l)) (inside || 0 < opening l) ls := by
  rw [closeFrom]
  refine if_neg fun stop => h (balancedFrom_cons.mpr ?_)
  simpa [BalancedFrom, not_opens_nil] using stop

theorem closeFrom_eq_some_iff {position depth : Int} {inside : Bool} {ls : List Text}
    {close : Close} : closeFrom position depth inside ls = some close ↔
      ∃ k, k < ls.length ∧ BalancedFrom depth inside (ls.take (k + 1)) ∧
        (∀ j, j < k → ¬ BalancedFrom depth inside (ls.take (j + 1))) ∧
        close = ⟨position + k, ls.drop (k + 1)⟩ := by
  induction ls generalizing position depth inside with
  | nil => simp [closeFrom]
  | cons l ls ih =>
    by_cases stop : BalancedFrom depth inside [l]
    · rw [closeFrom_cons_of_balanced position stop]
      constructor
      · intro h
        refine ⟨0, by simp, by simpa using stop, by omega, ?_⟩
        simpa using h.symm
      · rintro ⟨k, -, -, first, rfl⟩
        cases k with
        | zero => simp
        | succ k => exact False.elim (first 0 (by omega) (by simpa using stop))
    · rw [closeFrom_cons_of_not_balanced position stop, ih]
      -- The scan of the rest finds its line one place further on.
      constructor
      · rintro ⟨k, hk, balanced, first, rfl⟩
        refine ⟨k + 1, by simpa using hk, balancedFrom_cons.mpr balanced, ?_, ?_⟩
        · intro j hj
          cases j with
          | zero => simpa using stop
          | succ j => exact fun h => first j (by omega) (balancedFrom_cons.mp h)
        · rw [List.drop_succ_cons]
          congr 1
          omega
      · rintro ⟨k, hk, balanced, first, rfl⟩
        cases k with
        | zero => exact False.elim (stop (by simpa using balanced))
        | succ k =>
          refine ⟨k, by simpa using hk, balancedFrom_cons.mp balanced, ?_, ?_⟩
          · intro j hj h
            exact first (j + 1) (by omega) (balancedFrom_cons.mpr h)
          · rw [List.drop_succ_cons]
            congr 1
            omega

/-! ## Bodies by the numbers of their lines -/

/-- The lines from `i` up to, not including, `j`. -/
def between (lines : List Text) (i j : Nat) : List Text := (lines.drop i).take (j - i)

lemma between_append (lines : List Text) {i j k : Nat} (hij : i ≤ j) (hjk : j ≤ k) :
    between lines i k = between lines i j ++ between lines j k := by
  have hk : k - i = (j - i) + (k - j) := by omega
  have hj : i + (j - i) = j := by omega
  rw [between, hk, List.take_add, List.drop_drop, hj, between, between]

/-- The body that opens at or after line `i` closes on line `e`, both counted from zero. -/
structure ClosesAt (lines : List Text) (i e : Nat) : Prop where
  le : i ≤ e
  lt : e < lines.length
  balanced : Balanced (between lines i (e + 1))
  first : ∀ f, i ≤ f → f < e → ¬ Balanced (between lines i (f + 1))

theorem closeFrom_drop_eq_some_iff {lines : List Text} {i : Nat} {close : Close} :
    closeFrom i 0 false (lines.drop i) = some close ↔
      ∃ e : Nat, ClosesAt lines i e ∧ close = ⟨e, lines.drop (e + 1)⟩ := by
  have cut (k : Nat) : (lines.drop i).take (k + 1) = between lines i (i + k + 1) := by
    rw [between]
    congr 1
    omega
  rw [closeFrom_eq_some_iff]
  simp only [balancedFrom_zero, cut, List.length_drop, List.drop_drop]
  constructor
  · rintro ⟨k, hk, balanced, first, rfl⟩
    refine ⟨i + k, ⟨by omega, by omega, balanced, ?_⟩, ?_⟩
    · intro f hf hfk
      have hf' : i + (f - i) = f := by omega
      have := first (f - i) (by omega)
      rwa [hf'] at this
    · congr 1
  · rintro ⟨e, ⟨le, lt, balanced, first⟩, rfl⟩
    have he : i + (e - i) = e := by omega
    refine ⟨e - i, by omega, by rwa [he], ?_, ?_⟩
    · intro j hj
      exact first (i + j) (by omega) (by omega)
    · congr 1
      · omega
      · congr 1
        omega

lemma bodyEnd_natCast (lines : List Text) (i : Nat) :
    bodyEnd lines i = .ok ((closeFrom i 0 false (lines.drop i)).map Close.position) := by
  have start : ¬ (i : Int) < -(lines.length : Int) := by omega
  have from_i : linesFrom lines i = lines.drop i := by simp [linesFrom]
  rw [bodyEnd, if_neg start, from_i]

theorem bodyEnd_eq_some_iff {lines : List Text} {i e : Nat} :
    bodyEnd lines i = .ok (some (e : Int)) ↔ ClosesAt lines i e := by
  rw [bodyEnd_natCast]
  simp only [Except.ok.injEq, Option.map_eq_some_iff, closeFrom_drop_eq_some_iff]
  constructor
  · rintro ⟨close, ⟨f, closes, rfl⟩, he⟩
    obtain rfl : f = e := Int.ofNat_inj.mp he
    exact closes
  · intro closes
    exact ⟨_, ⟨e, closes, rfl⟩, rfl⟩

/-! ## Bodies that close together -/

/-- The lines hold no brace. -/
def Braceless (ls : List Text) : Prop := ∀ l ∈ ls, opening l = 0 ∧ closing l = 0

lemma Braceless.not_opens {ls : List Text} (h : Braceless ls) : ¬ Opens ls := by
  rintro ⟨l, hl, opens⟩
  have := (h l hl).1
  omega

lemma Braceless.net_eq_zero {ls : List Text} (h : Braceless ls) : net ls = 0 := by
  induction ls with
  | nil => rfl
  | cons l ls ih =>
    obtain ⟨ho, hc⟩ := h l List.mem_cons_self
    have rest := ih fun m hm => h m (List.mem_cons_of_mem l hm)
    rw [net_cons, ho, hc, rest]
    rfl

lemma net_nonpos {ls : List Text} (h : ¬ Opens ls) : net ls ≤ 0 := by
  induction ls with
  | nil => simp
  | cons l ls ih =>
    rw [opens_cons, not_or] at h
    have rest := ih h.2
    rw [net_cons]
    omega

/-- Lines on which no brace opens are level only if none closes either. -/
lemma braceless_of_net_eq_zero {ls : List Text} (h : ¬ Opens ls) (level : net ls = 0) :
    Braceless ls := by
  induction ls with
  | nil => simp [Braceless]
  | cons l ls ih =>
    rw [opens_cons, not_or] at h
    have rest := net_nonpos h.2
    rw [net_cons] at level
    intro m hm
    rcases List.mem_cons.mp hm with rfl | hm
    · omega
    · exact ih h.2 (by omega) m hm

theorem closesAt_iff_braceless {lines : List Text} {i j e : Nat} (hij : i < j)
    (later : ClosesAt lines j e) :
    ClosesAt lines i e ↔ Braceless (between lines i j) := by
  have hje := later.le
  constructor
  · intro earlier
    have level : net (between lines i j) = 0 := by
      have whole := earlier.balanced.2
      have tail := later.balanced.2
      rw [between_append lines (show i ≤ j by omega) (show j ≤ e + 1 by omega),
        net_append] at whole
      omega
    refine braceless_of_net_eq_zero (fun opens => ?_) level
    -- The earlier scan would have stopped right before line `j`.
    have hj : j - 1 + 1 = j := by omega
    refine earlier.first (j - 1) (by omega) (by omega) ?_
    rw [hj]
    exact ⟨opens, level⟩
  · intro quiet
    have split {k : Nat} (hk : j ≤ k) :
        between lines i k = between lines i j ++ between lines j k :=
      between_append lines (by omega) hk
    refine ⟨by omega, later.lt, ?_, ?_⟩
    · rw [split (by omega)]
      refine ⟨(opens_append _ _).mpr (Or.inr later.balanced.1), ?_⟩
      rw [net_append, quiet.net_eq_zero, later.balanced.2]
      rfl
    · intro f hif hfe balanced
      by_cases hfj : j ≤ f
      · rw [split (by omega)] at balanced
        refine later.first f hfj hfe ⟨?_, ?_⟩
        · exact ((opens_append _ _).mp balanced.1).resolve_left quiet.not_opens
        · have level := balanced.2
          rw [net_append, quiet.net_eq_zero] at level
          omega
      · have hsplit := between_append lines (show i ≤ f + 1 by omega) (show f + 1 ≤ j by omega)
        refine quiet.not_opens ?_
        rw [hsplit]
        exact (opens_append _ _).mpr (Or.inl balanced.1)

end StyleGate.Braces
