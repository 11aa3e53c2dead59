import StyleGate.Document
import StyleGate.Proofs.Text.Trimming

/-!
# Text laid out in lines

`LaidOut` says which texts set out a list of lines: every line is followed by a line feed, a
carriage return or the two together, and the last line, if it is not empty, may do without. A
carriage return never stands right before a line feed that ends the next line, since the two would
be one break. Splitting a text is the exact inverse.
-/

namespace StyleGate.Text

/-- The ends of lines. -/
def breaks : List Text := ["\n".toList, "\r\n".toList, "\r".toList]

/-- The text stays on one line. -/
def BreakFree (l : Text) : Prop := '\n' ∉ l ∧ '\r' ∉ l

instance (l : Text) : Decidable (BreakFree l) := inferInstanceAs (Decidable ('\n' ∉ l ∧ '\r' ∉ l))

inductive LaidOut : List Text → Text → Prop
  | nil : LaidOut [] []
  | last {l : Text} (free : BreakFree l) (visible : l ≠ []) : LaidOut [l] l
  | line {l b s : Text} {ls : List Text} (free : BreakFree l) (ends : b ∈ breaks)
      (apart : b = "\r".toList → s.head? ≠ some '\n') (rest : LaidOut ls s) :
      LaidOut (l :: ls) (l ++ (b ++ s))

lemma blanks_of_mem_breaks {b : Text} (hb : b ∈ breaks) : Blanks b := by
  have all : ∀ b ∈ breaks, b.all isBlank = true := by decide
  exact List.all_eq_true.mp (all b hb)

lemma ne_nil_of_mem_breaks {b : Text} (hb : b ∈ breaks) : b ≠ [] := by
  have all : ∀ b ∈ breaks, b ≠ [] := by decide
  exact all b hb

lemma lineFeed_mem_breaks : ['\n'] ∈ breaks := by decide

lemma breakFree_cons {c : Char} {l : Text} :
    BreakFree (c :: l) ↔ (c ≠ '\n' ∧ c ≠ '\r') ∧ BreakFree l := by
  simp only [BreakFree, List.mem_cons, not_or]
  tauto

lemma breakFree_append {a b : Text} : BreakFree (a ++ b) ↔ BreakFree a ∧ BreakFree b := by
  simp only [BreakFree, List.mem_append, not_or]
  tauto

lemma BreakFree.reverse {l : Text} (h : BreakFree l) : BreakFree l.reverse := by
  simpa [BreakFree] using h

/-! ## Splitting reads a layout back -/

lemma splitLinesFrom_cons (line : Text) (done : List Text) {c : Char} (s : Text)
    (hn : c ≠ '\n') (hr : c ≠ '\r') :
    splitLinesFrom line done (c :: s) = splitLinesFrom (c :: line) done s := by
  rw [splitLinesFrom.eq_3 _ _ _ _ (fun _ h _ => hr h)]
  simp [hn, hr]

lemma splitLinesFrom_free_append {l : Text} (free : BreakFree l) (line : Text)
    (done : List Text) (s : Text) :
    splitLinesFrom line done (l ++ s) = splitLinesFrom (l.reverse ++ line) done s := by
  induction l generalizing line with
  | nil => rfl
  | cons c l ih =>
    obtain ⟨⟨hn, hr⟩, hl⟩ := breakFree_cons.mp free
    rw [List.cons_append, splitLinesFrom_cons line done (l ++ s) hn hr, ih hl]
    simp

lemma splitLinesFrom_break {b s : Text} (ends : b ∈ breaks)
    (apart : b = "\r".toList → s.head? ≠ some '\n') (line : Text) (done : List Text) :
    splitLinesFrom line done (b ++ s) = splitLinesFrom [] (line.reverse :: done) s := by
  have cases_b : b = "\n".toList ∨ b = "\r\n".toList ∨ b = "\r".toList := by
    simpa [breaks] using ends
  rcases cases_b with rfl | rfl | rfl
  · rfl
  · rfl
  · have later : ∀ t, '\r' = '\r' → s = '\n' :: t → False := by
      intro t _ ht
      exact apart rfl (by rw [ht]; rfl)
    exact splitLinesFrom.eq_3 line done '\r' s later

lemma splitLinesFrom_done (done : List Text) {ls : List Text} {s : Text}
    (h : LaidOut ls s) : splitLinesFrom [] done s = done.reverse ++ ls := by
  induction h generalizing done with
  | nil => simp [splitLinesFrom]
  | @last l free visible =>
    have read := splitLinesFrom_free_append free [] done []
    rw [List.append_nil, List.append_nil] at read
    rw [read]
    simp [splitLinesFrom, visible]
  | @line l b s ls free ends apart rest ih =>
    rw [splitLinesFrom_free_append free, splitLinesFrom_break ends apart, ih]
    simp

lemma LaidOut.splitLines_eq {ls : List Text} {s : Text} (h : LaidOut ls s) :
    splitLines s = ls :=
  splitLinesFrom_done [] h

/-! ## Every text is a layout of its lines -/

lemma exists_laidOut (line : Text) (done : List Text) (s : Text) (free : BreakFree line) :
    ∃ ls, splitLinesFrom line done s = done.reverse ++ ls ∧ LaidOut ls (line.reverse ++ s) := by
  fun_induction splitLinesFrom line done s with
  | case1 line done =>
    by_cases hl : line = []
    · exact ⟨[], by simp [hl], by simpa [hl] using LaidOut.nil⟩
    · refine ⟨[line.reverse], by simp [hl], ?_⟩
      rw [List.append_nil]
      exact LaidOut.last free.reverse (by simpa using hl)
  | case2 line done s ih =>
    obtain ⟨ls, hls, laid⟩ := ih ⟨by simp, by simp⟩
    refine ⟨line.reverse :: ls, by simp [hls], ?_⟩
    exact LaidOut.line (b := "\r\n".toList) free.reverse (by decide)
      (fun h => absurd h (by decide)) laid
  | case3 line done c s pair brk ih =>
    obtain ⟨ls, hls, laid⟩ := ih ⟨by simp, by simp⟩
    refine ⟨line.reverse :: ls, by simp [hls], ?_⟩
    have ends : [c] ∈ breaks := by
      have hc : c = '\n' ∨ c = '\r' := by simpa using brk
      rcases hc with rfl | rfl
      · decide
      · decide
    refine LaidOut.line (b := [c]) free.reverse ends ?_ laid
    intro hb hhead
    have hc : c = '\r' := by simpa using hb
    obtain ⟨t, ht⟩ := List.head?_eq_some_iff.mp hhead
    exact pair t hc ht
  | case4 line done c s pair brk ih =>
    have hc : c ≠ '\n' ∧ c ≠ '\r' := by simpa using brk
    obtain ⟨ls, hls, laid⟩ := ih (breakFree_cons.mpr ⟨hc, free⟩)
    refine ⟨ls, hls, ?_⟩
    simpa using laid

theorem laidOut_splitLines (s : Text) : LaidOut (splitLines s) s := by
  obtain ⟨ls, hls, laid⟩ := exists_laidOut [] [] s ⟨by simp, by simp⟩
  have hs : splitLines s = ls := hls
  rw [hs]
  exact laid

lemma LaidOut.breakFree {ls : List Text} {s : Text} (h : LaidOut ls s) :
    ∀ l ∈ ls, BreakFree l := by
  induction h with
  | nil => simp
  | last free visible => simpa using free
  | line free ends apart rest ih => simpa using ⟨free, ih⟩

/-- The plainest layout: every line is followed by a line feed. -/
def unlines (ls : List Text) : Text := ls.flatMap (· ++ ['\n'])

lemma unlines_cons (l : Text) (ls : List Text) :
    unlines (l :: ls) = l ++ (['\n'] ++ unlines ls) := by
  simp [unlines]

lemma laidOut_unlines {ls : List Text} (free : ∀ l ∈ ls, BreakFree l) :
    LaidOut ls (unlines ls) := by
  induction ls with
  | nil => exact LaidOut.nil
  | cons l ls ih =>
    have rest := ih fun m hm => free m (List.mem_cons_of_mem l hm)
    rw [unlines_cons]
    exact LaidOut.line (free l List.mem_cons_self) lineFeed_mem_breaks
      (fun h => absurd h (by decide)) rest

end StyleGate.Text
