import Mathlib.Data.List.Chain
import Mathlib.Data.List.TakeWhile
import StyleGate.Text.Digit
import StyleGate.Text.Word

/-!
# Classes of characters by their stretches

The edges of a class, taken two by two, are the stretches of code points that it holds. One class
lies inside another if each of its stretches lies inside one of the other's, and the stretches can
be compared in one pass over both lists. So the decimal digits of every script are word characters.
-/

namespace StyleGate.Text

/-- Where each stretch of a class begins, and where it has ended. -/
def stretches : List Nat → List (Nat × Nat)
  | first :: last :: edges => (first, last) :: stretches edges
  | _ => []

lemma within_cons₂ (first last : Nat) (edges : List Nat) (n : Nat) :
    within (first :: last :: edges) n = true ↔
      first ≤ n ∧ (n < last ∨ within edges n = true) := by
  by_cases start : n < first
  · simp [within, crossed, start, Nat.not_le.mpr start]
  · by_cases stop : n < last
    · simp [within, crossed, start, stop, Nat.not_lt.mp start]
    · simp [within, crossed, start, stop, Nat.not_lt.mp start]

lemma exists_stretch_of_within {edges : List Nat} (even : edges.length % 2 = 0) {n : Nat}
    (inside : within edges n = true) : ∃ p ∈ stretches edges, p.1 ≤ n ∧ n < p.2 := by
  fun_induction stretches edges with
  | case1 first last edges ih =>
    obtain ⟨start, here | later⟩ := (within_cons₂ first last edges n).mp inside
    · exact ⟨(first, last), List.mem_cons_self, start, here⟩
    · simp only [List.length_cons] at even
      obtain ⟨p, mem, between⟩ := ih (by omega) later
      exact ⟨p, List.mem_cons_of_mem _ mem, between⟩
  | case2 edges short =>
    rcases edges with _ | ⟨first, _ | ⟨last, edges⟩⟩
    · cases inside
    · cases even
    · exact False.elim (short first last edges rfl)

lemma fst_mem_of_mem_stretches {edges : List Nat} {p : Nat × Nat} (mem : p ∈ stretches edges) :
    p.1 ∈ edges := by
  fun_induction stretches edges with
  | case1 first last edges ih =>
    rcases List.mem_cons.mp mem with rfl | later
    · exact List.mem_cons_self
    · exact List.mem_cons_of_mem _ (List.mem_cons_of_mem _ (ih later))
  | case2 edges short => cases mem

lemma within_of_mem_stretches {edges : List Nat} (ascending : edges.Pairwise (· ≤ ·))
    {p : Nat × Nat} (mem : p ∈ stretches edges) {n : Nat} (start : p.1 ≤ n) (stop : n < p.2) :
    within edges n = true := by
  fun_induction stretches edges with
  | case1 first last edges ih =>
    obtain ⟨above, rest⟩ := List.pairwise_cons.mp ascending
    rw [within_cons₂]
    rcases List.mem_cons.mp mem with rfl | later
    · exact ⟨start, Or.inl stop⟩
    · have later' := above p.1 (List.mem_cons_of_mem _ (fst_mem_of_mem_stretches later))
      exact ⟨by omega, Or.inr (ih (List.pairwise_cons.mp rest).2 later)⟩
  | case2 edges short => cases mem

/-- The stretches that are left once those inside each of the others are passed over in turn. -/
def uncovered : List (Nat × Nat) → List (Nat × Nat) → List (Nat × Nat)
  | [], inner => inner
  | q :: outer, inner => uncovered outer (inner.dropWhile fun p => q.1 ≤ p.1 && p.2 ≤ q.2)

lemma exists_cover {outer inner : List (Nat × Nat)} (covered : uncovered outer inner = [])
    {p : Nat × Nat} (mem : p ∈ inner) : ∃ q ∈ outer, q.1 ≤ p.1 ∧ p.2 ≤ q.2 := by
  induction outer generalizing inner with
  | nil =>
    rw [uncovered] at covered
    rw [covered] at mem
    cases mem
  | cons q outer ih =>
    rw [← List.takeWhile_append_dropWhile (p := fun p => q.1 ≤ p.1 && p.2 ≤ q.2) (l := inner),
      List.mem_append] at mem
    rcases mem with here | later
    · exact ⟨q, List.mem_cons_self, by simpa using List.mem_takeWhile_imp here⟩
    · obtain ⟨q', mem', inside⟩ := ih covered later
      exact ⟨q', List.mem_cons_of_mem q mem', inside⟩

/-- A class whose stretches are all passed over lies inside the other one. -/
theorem within_of_uncovered {outer inner : List Nat} (ascending : outer.Pairwise (· ≤ ·))
    (even : inner.length % 2 = 0) (covered : uncovered (stretches outer) (stretches inner) = [])
    {n : Nat} (inside : within inner n = true) : within outer n = true := by
  obtain ⟨p, mem, start, stop⟩ := exists_stretch_of_within even inside
  obtain ⟨q, mem', start', stop'⟩ := exists_cover covered mem
  exact within_of_mem_stretches ascending mem' (by omega) (by omega)

lemma wordEdges_ascending : wordEdges.Pairwise (· ≤ ·) := by
  have chain : wordEdges.IsChain (· ≤ ·) := by decide +kernel
  exact List.isChain_iff_pairwise.mp chain

theorem isWord_of_isDigit {c : Char} (h : isDigit c = true) : isWord c = true := by
  rw [isDigit] at h
  rw [isWord]
  split at h
  · rename_i ascii
    rw [if_pos ascii, Char.isAlphanum, h, Bool.or_true, Bool.true_or]
  · rename_i beyond
    rw [if_neg beyond]
    exact within_of_uncovered wordEdges_ascending (by decide +kernel) (by decide +kernel) h

end StyleGate.Text
