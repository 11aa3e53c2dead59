import Mathlib.Tactic.Common
import Mathlib.Data.List.Forall2
import StyleGate.Config.Validation

/-!
# Values that no message can spell

A value cannot be spelled exactly when its members stand inside one another too deeply or a scalar
in it cannot be spelled where it stands: a whole number of too many digits, or any scalar that comes
too far down. A value may stand inside itself, and spelling goes into a collection once on the way
down, so a `Way` enters no cell twice.
-/

namespace StyleGate.Config

/-- There is no spelling, for whatever reason. -/
def Fails {α : Type} (x : Except SpellingError α) : Prop := ∃ e, x = .error e

/-! ## Numbers and scalars -/

/-- A number with more digits than a message shows. -/
def Huge (n : Int) : Prop := Nat.pow 10 mostDigits ≤ n.natAbs

lemma spellInt_fails_iff (n : Int) : Fails (spellInt n) ↔ Huge n := by
  have digits : mostDigits < (toString n.natAbs).length ↔ Huge n := by
    rw [Huge, Nat.pow_eq, ← Nat.not_lt, ← Nat.not_le, Nat.toString_eq_repr,
      Nat.length_repr_le_iff (by decide)]
  rw [← digits]
  unfold spellInt
  extract_lets shown
  by_cases long : mostDigits < shown.length
  · rw [if_pos long]
    exact iff_of_true ⟨_, rfl⟩ long
  · rw [if_neg long]
    exact iff_of_false nofun long

/-- The scalar takes more levels than are left, or it is a number too long to be spelled. -/
def Scalar.Unspellable (depth : Nat) (s : Scalar) : Prop :=
  depth < s.levels ∨ ∃ n, s = .int n ∧ Huge n

lemma Scalar.spellingWithin_fails_iff (depth : Nat) (s : Scalar) :
    Fails (s.spellingWithin depth) ↔ s.Unspellable depth := by
  unfold spellingWithin Unspellable
  by_cases deep : depth < s.levels
  · rw [if_pos deep]
    exact iff_of_true ⟨_, rfl⟩ (Or.inl deep)
  · rw [if_neg deep, or_iff_right deep]
    cases s with
    | int n => simp [spelling, spellInt_fails_iff]
    | null | bool _ | float _ | nan _ | text _ | bytes _ | date _ | moment _ =>
      simp [spelling, Fails]

section

variable {α β : Type}

lemma mapM_fails_iff {f : α → Except SpellingError β} (l : List α) :
    Fails (l.mapM f) ↔ ∃ a ∈ l, Fails (f a) := by
  induction l with
  | nil => simp [Fails, pure, Except.pure]
  | cons a l ih =>
    rw [List.mapM_cons, List.exists_mem_cons_iff, ← ih]
    rcases f a with e | b
    · simp [Fails, bind, Except.bind]
    · rcases l.mapM f with e | bs
      · simp [Fails, bind, Except.bind]
      · simp [Fails, bind, Except.bind, pure, Except.pure]

/-- Members that can all be spelled are spelled one by one. -/
lemma mapM_eq_ok_iff {f : α → Except SpellingError β} {l : List α} {bs : List β} :
    l.mapM f = .ok bs ↔ List.Forall₂ (fun a b => f a = .ok b) l bs := by
  induction l generalizing bs with
  | nil => simp [pure, Except.pure, eq_comm]
  | cons a l ih =>
    rw [List.mapM_cons, List.forall₂_cons_left_iff]
    simp only [← ih]
    rcases f a with _ | b
    · simp [bind, Except.bind]
    · rcases l.mapM f with _ | rest
      · simp [bind, Except.bind]
      · simp [bind, Except.bind, pure, Except.pure, eq_comm]

/-! ## Layers -/

/-- The scalars that a layer shows by itself, each with the number of levels that it stands further
down. -/
def Layer.scalars : Layer α → List (Nat × Scalar)
  | .scalar s => [(0, s)]
  | .map entries => entries.map fun (k, _) => (1, k)
  | .set members => (setOrder members).map fun s => (2, s)
  | .list _ => []
  | .pair _ _ => []

/-- The members of a layer. -/
def Layer.members : Layer α → List α
  | .list items => items
  | .map entries => entries.map Prod.snd
  | .pair a b => [a, b]
  | .scalar _ => []
  | .set _ => []

lemma told_fails_iff {x : Except SpellingError α} (tell : α → β) :
    Fails (do return tell (← x)) ↔ Fails x := by
  rcases x with e | a
  · simp [Fails, bind, Except.bind]
  · simp [Fails, bind, Except.bind, pure, Except.pure]

lemma both_fail_iff {x : Except SpellingError α} {y : Except SpellingError β} {γ : Type}
    (join : α → β → γ) : Fails (do return join (← x) (← y)) ↔ Fails x ∨ Fails y := by
  rcases x with e | a
  · simp [Fails, bind, Except.bind]
  · rcases y with e | b
    · simp [Fails, bind, Except.bind]
    · simp [Fails, bind, Except.bind, pure, Except.pure]

lemma Layer.spellMembers_fails_iff (depth : Nat) (spell : α → Except SpellingError String)
    (layer : Layer α) :
    Fails (layer.spellMembers depth spell) ↔
      (∃ p ∈ layer.scalars, p.2.Unspellable (depth + 1 - p.1)) ∨
        ∃ m ∈ layer.members, Fails (spell m) := by
  cases layer with
  | scalar s =>
    rw [spellMembers, told_fails_iff fun text => [text]]
    simp [scalars, members, Scalar.spellingWithin_fails_iff]
  | list items => simp [spellMembers, scalars, members, mapM_fails_iff]
  | map entries =>
    rw [spellMembers, mapM_fails_iff]
    simp only [both_fail_iff fun k v => k ++ ": " ++ v, Scalar.spellingWithin_fails_iff, scalars,
      members, List.mem_map, exists_exists_and_eq_and, and_or_left, exists_or,
      Nat.add_sub_cancel]
  | set shown =>
    simp [spellMembers, scalars, members, mapM_fails_iff, Scalar.spellingWithin_fails_iff]
  | pair a b =>
    rw [spellMembers, both_fail_iff fun x y => [x, y]]
    simp [scalars, members]

end

/-! ## Values -/

/-- The layer of a cell. -/
def layerAt (cells : Cells) (cell : Nat) : Layer Nat := (cells[cell]?).getD (.scalar .null)

/-- A way of `n` steps from a cell inside others to a cell inside others: every step goes to a
member, and no cell is gone into twice. -/
inductive Way (cells : Cells) : Nat → List Nat → Nat → List Nat → Nat → Prop
  | here {around : List Nat} {cell : Nat} : Way cells 0 around cell around cell
  | step {n : Nat} {around around' : List Nat} {cell member last : Nat} (outside : cell ∉ around)
      (mem : member ∈ (layerAt cells cell).members)
      (rest : Way cells n (cell :: around) member around' last) :
      Way cells (n + 1) around cell around' last

/-- Down from the cell there is a way as long as there are levels left, or one to a scalar that
cannot be spelled with the levels that are left there. -/
inductive Defies (cells : Cells) (depth : Nat) (around : List Nat) (cell : Nat) : Prop
  | deep {around' : List Nat} {last : Nat} (way : Way cells depth around cell around' last)
  | scalar {n : Nat} {around' : List Nat} {last : Nat} {p : Nat × Scalar}
      (way : Way cells n around cell around' last) (level : n < depth) (outside : last ∉ around')
      (mem : p ∈ (layerAt cells last).scalars) (unspellable : p.2.Unspellable (depth - n - p.1))

variable {cells : Cells} {depth cell : Nat} {around : List Nat}

lemma not_defies_inside (inside : cell ∈ around) : ¬ Defies cells (depth + 1) around cell := by
  rintro (⟨way⟩ | ⟨way, -, apart, -, -⟩)
  · cases way with
    | step outside _ _ => exact outside inside
  · cases way with
    | here => exact apart inside
    | step outside _ _ => exact outside inside

/-- What is wrong with a cell is wrong with a scalar of its own or with one of its members. -/
lemma defies_succ_iff (outside : cell ∉ around) : Defies cells (depth + 1) around cell ↔
    (∃ p ∈ (layerAt cells cell).scalars, p.2.Unspellable (depth + 1 - p.1)) ∨
      ∃ m ∈ (layerAt cells cell).members, Defies cells depth (cell :: around) m := by
  constructor
  · rintro (⟨way⟩ | ⟨way, level, apart, shown, unspellable⟩)
    · cases way with
      | step _ mem rest => exact Or.inr ⟨_, mem, .deep rest⟩
    · cases way with
      | here => exact Or.inl ⟨_, shown, unspellable⟩
      | step _ mem rest =>
        rw [Nat.add_sub_add_right] at unspellable
        exact Or.inr ⟨_, mem, .scalar rest (Nat.lt_of_succ_lt_succ level) apart shown unspellable⟩
  · rintro (⟨p, shown, unspellable⟩ | ⟨m, mem, ⟨rest⟩ | ⟨rest, level, apart, shown, unspellable⟩⟩)
    · exact .scalar .here (Nat.succ_pos depth) outside shown unspellable
    · exact .deep (.step outside mem rest)
    · refine .scalar (.step outside mem rest) (Nat.succ_lt_succ level) apart shown ?_
      rwa [Nat.add_sub_add_right]

theorem spellCell_fails_iff :
    Fails (spellCell cells depth around cell) ↔ Defies cells depth around cell := by
  induction depth generalizing around cell with
  | zero => exact iff_of_true ⟨_, rfl⟩ (.deep .here)
  | succ depth ih =>
    unfold spellCell
    by_cases inside : cell ∈ around
    · rw [if_pos (List.contains_iff_mem.mpr inside)]
      exact iff_of_false nofun (not_defies_inside inside)
    · rw [if_neg (mt List.contains_iff_mem.mp inside), defies_succ_iff inside]
      simp only [← ih]
      rw [← Layer.spellMembers_fails_iff]
      exact told_fails_iff _

/-- The value cannot be spelled with so many levels. -/
def Value.Unspellable (depth : Nat) (v : Value) : Prop := Defies v.cells depth [] v.cell

theorem Value.spelling_fails_iff (depth : Nat) (v : Value) :
    Fails (v.spelling depth) ↔ v.Unspellable depth := spellCell_fails_iff

example : (⟨#[.list [1], .list [2], .list []], 0⟩ : Value).spelling 3 = .ok "[[[]]]" := by
  decide +kernel

example : (⟨#[.list [1], .list [2], .list []], 0⟩ : Value).spelling 2 = .error .tooDeep := rfl

/-! ## Complaints -/

/-- The complaint shows something that cannot be spelled. -/
def Complaint.Unspellable (depth : Nat) : Complaint → Prop
  | .colourNotBool got => got.Unspellable depth
  | .notRuleNumber _ got => got.Unspellable depth
  | .noSuchRule _ number => (Scalar.int number).Unspellable depth
  | .missingVersion => False
  | .unknownLevel => False
  | .rulesNotMapping => False
  | .disabledNotList => False

theorem Complaint.message_fails_iff (depth : Nat) (c : Complaint) :
    Fails (c.message depth) ↔ c.Unspellable depth := by
  cases c with
  | colourNotBool got =>
    rw [message, told_fails_iff fun shown => "'color' must be true or false, got " ++ shown]
    exact got.spelling_fails_iff depth
  | notRuleNumber index got =>
    rw [message, told_fails_iff fun shown =>
      "rules.disabled[" ++ toString index ++ "]: " ++ shown ++ " is not a rule number"]
    exact got.spelling_fails_iff depth
  | noSuchRule index number =>
    rw [message, told_fails_iff fun shown =>
      "rules.disabled[" ++ toString index ++ "]: rule " ++ shown ++ " out of range 1.." ++
        toString Rule.count]
    exact Scalar.spellingWithin_fails_iff depth _
  | missingVersion | unknownLevel | rulesNotMapping | disabledNotList =>
    simp [message, Unspellable, Fails]

/-- Messages can be given for all complaints unless one of them is unspellable. -/
theorem exists_messages_iff (depth : Nat) (l : List Complaint) :
    (∃ texts, l.mapM (Complaint.message depth) = .ok texts) ↔ ∀ c ∈ l, ¬ c.Unspellable depth := by
  have failed : Fails (l.mapM (Complaint.message depth)) ↔ ∃ c ∈ l, c.Unspellable depth := by
    simp only [mapM_fails_iff, Complaint.message_fails_iff]
  rcases outcome : l.mapM (Complaint.message depth) with e | texts
  · obtain ⟨c, mem, unspellable⟩ := failed.mp ⟨e, outcome⟩
    refine iff_of_false ?_ fun none => none c mem unspellable
    rintro ⟨texts, given⟩
    cases given
  · refine iff_of_true ⟨texts, rfl⟩ ?_
    intro c mem unspellable
    obtain ⟨e, none⟩ := failed.mpr ⟨c, mem, unspellable⟩
    rw [outcome] at none
    cases none

lemma eq_nil_of_mapM {depth : Nat} {l : List Complaint}
    (spelled : l.mapM (Complaint.message depth) = .ok []) : l = [] :=
  List.forall₂_nil_right_iff.mp (mapM_eq_ok_iff.mp spelled)

end StyleGate.Config
