import StyleGate.Proofs.Text.Lines

/-!
# Line breaks made the same

Reading a file replaces every line break by a line feed. `Unified` says which text that is: a
carriage return goes together with a line feed right after it and is a line feed otherwise. The
lines of the text stay as they are.
-/

namespace StyleGate.Text

/-- The second text is the first with every line break as one line feed. -/
inductive Unified : Text → Text → Prop
  | nil : Unified [] []
  | char {c : Char} {s u : Text} (plain : c ≠ '\r') (rest : Unified s u) :
      Unified (c :: s) (c :: u)
  | pair {s u : Text} (rest : Unified s u) : Unified ('\r' :: '\n' :: s) ('\n' :: u)
  | lone {s u : Text} (apart : s.head? ≠ some '\n') (rest : Unified s u) :
      Unified ('\r' :: s) ('\n' :: u)

lemma exists_unified (done s : Text) :
    ∃ u, unifyBreaksFrom done s = done.reverse ++ u ∧ Unified s u := by
  fun_induction unifyBreaksFrom done s with
  | case1 done => exact ⟨[], by simp, .nil⟩
  | case2 done s ih =>
    obtain ⟨u, read, unified⟩ := ih
    exact ⟨'\n' :: u, by simp [read], .pair unified⟩
  | case3 done c s pair ih =>
    obtain ⟨u, read, unified⟩ := ih
    refine ⟨(if c == '\r' then '\n' else c) :: u, by rw [read]; simp, ?_⟩
    by_cases return_ : c = '\r'
    · subst return_
      refine .lone ?_ unified
      intro feed
      obtain ⟨t, ht⟩ := List.head?_eq_some_iff.mp feed
      exact pair t rfl ht
    · rw [if_neg (by simpa using return_)]
      exact .char return_ unified

lemma Unified.unique {s u v : Text} (hu : Unified s u) (hv : Unified s v) : u = v := by
  induction hu generalizing v with
  | nil =>
    cases hv
    rfl
  | char plain rest ih =>
    cases hv with
    | char _ rest' => rw [ih rest']
    | pair rest' => exact False.elim (plain rfl)
    | lone apart rest' => exact False.elim (plain rfl)
  | pair rest ih =>
    cases hv with
    | char plain rest' => exact False.elim (plain rfl)
    | pair rest' => rw [ih rest']
    | lone apart rest' => exact False.elim (apart rfl)
  | lone apart rest ih =>
    cases hv with
    | char plain rest' => exact False.elim (plain rfl)
    | pair rest' => exact False.elim (apart rfl)
    | lone _ rest' => rw [ih rest']

/-- There is one such text, and it is the one that is read. -/
theorem unified_iff (s u : Text) : Unified s u ↔ u = unifyBreaks s := by
  obtain ⟨v, read, unified⟩ := exists_unified [] s
  have same : unifyBreaks s = v := read
  rw [same]
  constructor
  · intro h
    exact h.unique unified
  · rintro rfl
    exact unified

/-! ## The lines stay -/

lemma Unified.cons_plain {c : Char} {s u : Text} (plain : c ≠ '\r') (h : Unified (c :: s) u) :
    ∃ u', u = c :: u' ∧ Unified s u' := by
  cases h with
  | char _ rest => exact ⟨_, rfl, rest⟩
  | pair rest => exact False.elim (plain rfl)
  | lone apart rest => exact False.elim (plain rfl)

lemma Unified.free_append {l s u : Text} (free : BreakFree l) (h : Unified (l ++ s) u) :
    ∃ u', u = l ++ u' ∧ Unified s u' := by
  induction l generalizing u with
  | nil => exact ⟨u, rfl, h⟩
  | cons c l ih =>
    obtain ⟨⟨-, plain⟩, free⟩ := breakFree_cons.mp free
    obtain ⟨v, rfl, after⟩ := Unified.cons_plain plain h
    obtain ⟨u', rfl, rest⟩ := ih free after
    exact ⟨u', rfl, rest⟩

lemma Unified.break_append {b s u : Text} (ends : b ∈ breaks)
    (apart : b = "\r".toList → s.head? ≠ some '\n') (h : Unified (b ++ s) u) :
    ∃ u', u = '\n' :: u' ∧ Unified s u' := by
  have cases_b : b = ['\n'] ∨ b = ['\r', '\n'] ∨ b = ['\r'] := by simpa [breaks] using ends
  rcases cases_b with rfl | rfl | rfl
  · cases h with
    | char plain rest => exact ⟨_, rfl, rest⟩
  · cases h with
    | char plain rest => exact False.elim (plain rfl)
    | pair rest => exact ⟨_, rfl, rest⟩
    | lone lonely rest => exact False.elim (lonely rfl)
  · cases h with
    | char plain rest => exact False.elim (plain rfl)
    | pair rest => exact False.elim (apart rfl rfl)
    | lone lonely rest => exact ⟨_, rfl, rest⟩

lemma LaidOut.unified {ls : List Text} {s u : Text} (laid : LaidOut ls s) (h : Unified s u) :
    LaidOut ls u := by
  induction laid generalizing u with
  | nil =>
    cases h
    exact .nil
  | @last l free visible =>
    rw [← List.append_nil l] at h
    obtain ⟨u', rfl, rest⟩ := h.free_append free
    cases rest
    rw [List.append_nil]
    exact .last free visible
  | @line l b s ls free ends apart rest ih =>
    obtain ⟨v, rfl, after⟩ := h.free_append free
    obtain ⟨u', rfl, unified⟩ := after.break_append ends apart
    exact .line (b := ['\n']) free lineFeed_mem_breaks (fun feed => absurd feed (by decide))
      (ih unified)

theorem splitLines_unifyBreaks (s : Text) : splitLines (unifyBreaks s) = splitLines s :=
  ((laidOut_splitLines s).unified ((unified_iff s _).mpr rfl)).splitLines_eq

end StyleGate.Text
