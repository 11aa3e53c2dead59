import StyleGate.Proofs.Braces.BodyEnd

/-!
# Lines put in between

Lines without braces can be put in above and below the lines of a text, and every scan still closes
on the line on which it closed. What follows that line is what was put in below it and then the
rest, with lines put in there as well.
-/

namespace StyleGate.Braces

/-- The lines from line `index` on, with `above i` put in above line `i` and `below i` below it. -/
def padded (above below : Nat → List Text) (index : Nat) : List Text → List Text
  | [] => []
  | l :: ls => above index ++ l :: (below index ++ padded above below (index + 1) ls)

lemma padded_nothing (index : Nat) (ls : List Text) :
    padded (fun _ => []) (fun _ => []) index ls = ls := by
  induction ls generalizing index with
  | nil => rfl
  | cons l ls ih => rw [padded, ih, List.nil_append, List.nil_append]

lemma mem_padded {above below : Nat → List Text} {index : Nat} {l : Text} {ls : List Text}
    (mem : l ∈ padded above below index ls) : l ∈ ls ∨ ∃ i, l ∈ above i ∨ l ∈ below i := by
  induction ls generalizing index with
  | nil => cases mem
  | cons m ls ih =>
    rcases List.mem_append.mp mem with front | mem
    · exact Or.inr ⟨index, Or.inl front⟩
    · rcases List.mem_cons.mp mem with rfl | mem
      · exact Or.inl List.mem_cons_self
      · rcases List.mem_append.mp mem with behind | later
        · exact Or.inr ⟨index, Or.inr behind⟩
        · exact (ih later).imp_left (List.mem_cons_of_mem m)

/-- The scan goes on: no brace has opened yet, or the depth is not zero. -/
def Busy (depth : Int) (inside : Bool) : Prop := ¬ BalancedFrom depth inside []

lemma Busy.step {depth : Int} {inside : Bool} {l : Text}
    (goesOn : ¬ BalancedFrom depth inside [l]) :
    Busy (depth + (opening l - closing l)) (inside || 0 < opening l) :=
  fun level => goesOn (balancedFrom_cons.mpr level)

lemma closeFrom_braceless_append {depth : Int} {inside : Bool} (busy : Busy depth inside)
    {quiet : List Text} (braceless : Braceless quiet) (position : Int) (ls : List Text) :
    closeFrom position depth inside (quiet ++ ls) =
      closeFrom (position + quiet.length) depth inside ls := by
  induction quiet generalizing position with
  | nil => rw [List.nil_append, List.length_nil, Int.natCast_zero, Int.add_zero]
  | cons l quiet ih =>
    obtain ⟨noOpen, noClose⟩ := braceless l List.mem_cons_self
    have depth_eq : depth + ((opening l : Int) - closing l) = depth := by omega
    have inside_eq : (inside || 0 < opening l) = inside := by simp [noOpen]
    have goesOn : ¬ BalancedFrom depth inside [l] := by
      rw [balancedFrom_cons, depth_eq, inside_eq]
      exact busy
    have rest := ih (fun m hm => braceless m (List.mem_cons_of_mem l hm)) (position + 1)
    rw [List.cons_append, closeFrom_cons_of_not_balanced position goesOn, depth_eq, inside_eq, rest]
    congr 1
    rw [List.length_cons]
    omega

lemma busy_start : Busy 0 false := fun level => not_opens_nil (balancedFrom_zero.mp level).1

/-- Below the last line, lines without braces end no body. -/
theorem closeFrom_append_braceless {depth : Int} {inside : Bool} (busy : Busy depth inside)
    {quiet : List Text} (braceless : Braceless quiet) (position : Int) (ls : List Text) :
    closeFrom position depth inside (ls ++ quiet) =
      (closeFrom position depth inside ls).map fun close =>
        ⟨close.position, close.after ++ quiet⟩ := by
  induction ls generalizing position depth inside with
  | nil =>
    have last := closeFrom_braceless_append busy braceless position []
    rw [List.append_nil] at last
    exact last
  | cons l ls ih =>
    by_cases stop : BalancedFrom depth inside [l]
    · rw [List.cons_append, closeFrom_cons_of_balanced _ stop, closeFrom_cons_of_balanced _ stop]
      rfl
    · rw [List.cons_append, closeFrom_cons_of_not_balanced _ stop,
        closeFrom_cons_of_not_balanced _ stop]
      exact ih (Busy.step stop) (position + 1)

lemma Braceless.append {ls ms : List Text} (hl : Braceless ls) (hm : Braceless ms) :
    Braceless (ls ++ ms) := by
  intro l mem
  rcases List.mem_append.mp mem with h | h
  · exact hl l h
  · exact hm l h

variable {above below : Nat → List Text} (above_quiet : ∀ i, Braceless (above i))
  (below_quiet : ∀ i, Braceless (below i))
include above_quiet below_quiet

/-- The scan from a line on closes behind the same line, whatever is put in after the first line. -/
theorem closeFrom_padded {depth : Int} {inside : Bool} (position : Int) (index : Nat) (l : Text)
    (ls : List Text) :
    (closeFrom position depth inside
      (l :: (below index ++ padded above below (index + 1) ls))).map Close.after =
    (closeFrom index depth inside (l :: ls)).map fun close =>
      below close.position.toNat ++
        padded above below (close.position.toNat + 1) close.after := by
  induction ls generalizing position index depth inside l with
  | nil =>
    by_cases stop : BalancedFrom depth inside [l]
    · rw [closeFrom_cons_of_balanced _ stop, closeFrom_cons_of_balanced _ stop]
      simp
    · rw [closeFrom_cons_of_not_balanced _ stop, closeFrom_cons_of_not_balanced _ stop,
        closeFrom_braceless_append (Busy.step stop) (below_quiet index)]
      rfl
  | cons m ls ih =>
    by_cases stop : BalancedFrom depth inside [l]
    · rw [closeFrom_cons_of_balanced _ stop, closeFrom_cons_of_balanced _ stop]
      simp
    · have quiet : Braceless (below index ++ above (index + 1)) :=
        (below_quiet index).append (above_quiet (index + 1))
      rw [closeFrom_cons_of_not_balanced _ stop, closeFrom_cons_of_not_balanced _ stop, padded,
        ← List.append_assoc, closeFrom_braceless_append (Busy.step stop) quiet, ih]
      rfl

end StyleGate.Braces
