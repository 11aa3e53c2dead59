import Mathlib.Data.List.DropRight
import Mathlib.Tactic.Common
import StyleGate.Text.Search

/-!
# Trimmed text

Every text is its trimmed part between two stretches of blanks, and blanks put at either end are
trimmed away again. A part that holds no blank is found in a text exactly when it is found on one
side of any blank of that text.
-/

namespace StyleGate.Text

/-- Blanks and nothing else. -/
def Blanks (w : Text) : Prop := ∀ c ∈ w, isBlank c = true

lemma blanks_nil : Blanks [] := by simp [Blanks]

lemma Blanks.append {v w : Text} (hv : Blanks v) (hw : Blanks w) : Blanks (v ++ w) := by
  intro c hc
  rcases List.mem_append.mp hc with h | h
  · exact hv c h
  · exact hw c h

lemma Blanks.not_mem {w : Text} (hw : Blanks w) {c : Char} (hc : isBlank c = false) : c ∉ w := by
  intro h
  rw [hw c h] at hc
  cases hc

/-- The code points of the blank characters. -/
def blankCodes : List Nat :=
  [0x09, 0x0a, 0x0b, 0x0c, 0x0d, 0x1c, 0x1d, 0x1e, 0x1f, 0x20, 0x85, 0xa0, 0x1680, 0x2000, 0x2001,
   0x2002, 0x2003, 0x2004, 0x2005, 0x2006, 0x2007, 0x2008, 0x2009, 0x200a, 0x2028, 0x2029, 0x202f,
   0x205f, 0x3000]

lemma toNat_mem_blankCodes {c : Char} (h : isBlank c = true) : c.toNat ∈ blankCodes := by
  simp only [isBlank, Bool.or_eq_true, Bool.and_eq_true, decide_eq_true_eq, beq_iff_eq] at h
  simp only [blankCodes, List.mem_cons, List.not_mem_nil, or_false]
  omega

/-- There are few blanks, so what is false of each of them can be found out. -/
lemma eq_false_of_isBlank {p : Char → Bool}
    (separate : ∀ n ∈ blankCodes, p (Char.ofNat n) = false) {c : Char} (h : isBlank c = true) :
    p c = false := by
  have hc := separate c.toNat (toNat_mem_blankCodes h)
  rwa [Char.ofNat_toNat] at hc

lemma isBlank_eq_false {p : Char → Bool} (separate : ∀ c, isBlank c = true → p c = false)
    {c : Char} (h : p c = true) : isBlank c = false := by
  cases hc : isBlank c with
  | false => rfl
  | true =>
    have hp := separate c hc
    rw [h] at hp
    cases hp

/-- Blanks separate words in every script. -/
lemma isWord_of_isBlank {c : Char} (h : isBlank c = true) : isWord c = false :=
  eq_false_of_isBlank (by decide +kernel) h

lemma isBlank_of_isWord {c : Char} (h : isWord c = true) : isBlank c = false :=
  isBlank_eq_false (fun _ => isWord_of_isBlank) h

/-! ## Blanks at the two ends -/

lemma trimStart_blanks_append {w : Text} (hw : Blanks w) (s : Text) :
    trimStart (w ++ s) = trimStart s :=
  List.dropWhile_append_of_pos hw

lemma trimStart_cons {c : Char} (hc : isBlank c = false) (s : Text) :
    trimStart (c :: s) = c :: s := by
  simp [trimStart, hc]

lemma trimEnd_append_blanks {w : Text} (hw : Blanks w) (s : Text) :
    trimEnd (s ++ w) = trimEnd s := by
  have hr : ∀ c ∈ w.reverse, isBlank c = true := fun c hc => hw c (List.mem_reverse.mp hc)
  rw [trimEnd, List.reverse_append, List.dropWhile_append_of_pos hr, trimEnd]

lemma exists_blanks_append_trimStart (s : Text) : ∃ w, Blanks w ∧ s = w ++ trimStart s :=
  ⟨s.takeWhile isBlank, fun _ hc => List.mem_takeWhile_imp hc,
    List.takeWhile_append_dropWhile.symm⟩

lemma exists_trimEnd_append_blanks (s : Text) : ∃ w, Blanks w ∧ s = trimEnd s ++ w :=
  ⟨s.rtakeWhile isBlank, fun _ hc => List.mem_rtakeWhile_imp hc,
    List.rdropWhile_append_rtakeWhile.symm⟩

lemma exists_blanks_trim_blanks (s : Text) :
    ∃ v w, Blanks v ∧ Blanks w ∧ s = v ++ (trim s ++ w) := by
  obtain ⟨v, hv, hs⟩ := exists_blanks_append_trimStart s
  obtain ⟨w, hw, ht⟩ := exists_trimEnd_append_blanks (trimStart s)
  exact ⟨v, w, hv, hw, by rw [trim, ← ht]; exact hs⟩

lemma trimStart_eq_nil {w : Text} (hw : Blanks w) : trimStart w = [] :=
  List.dropWhile_eq_nil_iff.mpr hw

lemma trim_blanks_append {v : Text} (hv : Blanks v) (s : Text) : trim (v ++ s) = trim s := by
  rw [trim, trimStart_blanks_append hv, trim]

lemma trim_append_blanks {w : Text} (hw : Blanks w) (s : Text) : trim (s ++ w) = trim s := by
  by_cases hs : Blanks s
  · rw [trim, trimStart_eq_nil (hs.append hw), trim, trimStart_eq_nil hs]
  · have hne : ¬ (s.dropWhile isBlank).isEmpty = true := by
      simpa [Blanks] using hs
    have split : trimStart (s ++ w) = trimStart s ++ w := by
      rw [trimStart, List.dropWhile_append, if_neg hne, trimStart]
    rw [trim, split, trimEnd_append_blanks hw, trim]

/-- Blanks on both sides of a text do not show once it is trimmed. -/
lemma trim_between_blanks {v w : Text} (hv : Blanks v) (hw : Blanks w) (s : Text) :
    trim (v ++ (s ++ w)) = trim s := by
  rw [trim_blanks_append hv, trim_append_blanks hw]

@[simp] lemma trim_trim (s : Text) : trim (trim s) = trim s := by
  obtain ⟨v, w, hv, hw, hs⟩ := exists_blanks_trim_blanks s
  calc trim (trim s) = trim (v ++ (trim s ++ w)) := (trim_between_blanks hv hw (trim s)).symm
    _ = trim s := by rw [← hs]

lemma apply_blanks_append {β : Type} {f : Text → β}
    (front : ∀ c s, isBlank c = true → f (c :: s) = f s) {v : Text} (hv : Blanks v) (s : Text) :
    f (v ++ s) = f s := by
  induction v with
  | nil => rfl
  | cons c v ih =>
    have rest : Blanks v := fun d hd => hv d (List.mem_cons_of_mem c hd)
    exact (front c (v ++ s) (hv c List.mem_cons_self)).trans (ih rest)

lemma apply_append_blanks {β : Type} {f : Text → β}
    (back : ∀ c s, isBlank c = true → f (s ++ [c]) = f s) {w : Text} (hw : Blanks w) (s : Text) :
    f (s ++ w) = f s := by
  induction w generalizing s with
  | nil => rw [List.append_nil]
  | cons c w ih =>
    have rest : Blanks w := fun d hd => hw d (List.mem_cons_of_mem c hd)
    rw [← List.singleton_append, ← List.append_assoc, ih rest]
    exact back c s (hw c List.mem_cons_self)

/-- What one blank at either end does not change, trimming does not change. -/
lemma apply_trim {β : Type} {f : Text → β}
    (front : ∀ c s, isBlank c = true → f (c :: s) = f s)
    (back : ∀ c s, isBlank c = true → f (s ++ [c]) = f s) (s : Text) : f (trim s) = f s := by
  obtain ⟨v, w, hv, hw, hs⟩ := exists_blanks_trim_blanks s
  conv_rhs => rw [hs]
  rw [apply_blanks_append front hv, apply_append_blanks back hw]

/-- Trimming drops no visible character. -/
lemma count_trim {d : Char} (hd : isBlank d = false) (s : Text) :
    (trim s).count d = s.count d := by
  have other : ∀ c, isBlank c = true → (c == d) = false := by
    intro c hc
    refine beq_false_of_ne fun h => ?_
    rw [h, hd] at hc
    cases hc
  refine apply_trim (f := List.count d) (fun c s hc => ?_) (fun c s hc => ?_) s
  · rw [List.count_cons, other c hc]
    rfl
  · rw [List.count_append, List.count_singleton, other c hc]
    rfl

lemma all_isBlank_trim (s : Text) : (trim s).all isBlank = s.all isBlank :=
  apply_trim (f := fun s => s.all isBlank) (fun c s hc => by simp [hc])
    (fun c s hc => by simp [hc]) s

/-! ## The next visible character -/

lemma opensParen_blanks_append {v : Text} (hv : Blanks v) (s : Text) :
    opensParen (v ++ s) = opensParen s := by
  rw [opensParen, trimStart_blanks_append hv, opensParen]

lemma opensParen_cons {c : Char} (hc : isBlank c = false) (s : Text) :
    opensParen (c :: s) = (c == '(') := by
  rw [opensParen, trimStart_cons hc]
  simp

lemma opensParen_blanks {w : Text} (hw : Blanks w) : opensParen w = false := by
  rw [opensParen, trimStart_eq_nil hw]
  rfl

lemma opensParen_append (a b : Text) :
    opensParen (a ++ b) = (opensParen a || (a.all isBlank && opensParen b)) := by
  induction a with
  | nil => simp [opensParen_blanks blanks_nil]
  | cons c a ih =>
    cases hc : isBlank c with
    | false => simp [opensParen_cons hc, hc]
    | true =>
      have blank : Blanks [c] := by simpa [Blanks] using hc
      have step (s : Text) : opensParen (c :: s) = opensParen s :=
        opensParen_blanks_append blank s
      simp [step, ih, hc]

lemma opensParen_across {c : Char} (hc : isBlank c = true) (a b : Text) :
    opensParen (a ++ c :: b) = (opensParen a || (a.all isBlank && opensParen b)) := by
  have blank : Blanks [c] := by simpa [Blanks] using hc
  rw [opensParen_append, ← List.singleton_append, opensParen_blanks_append blank]

lemma opensParen_cons_blank (c : Char) (s : Text) (hc : isBlank c = true) :
    opensParen (c :: s) = opensParen s := by
  simpa [opensParen_blanks blanks_nil] using opensParen_across hc [] s

lemma opensParen_trim (s : Text) : opensParen (trim s) = opensParen s := by
  refine apply_trim opensParen_cons_blank (fun c s hc => ?_) s
  rw [opensParen_across hc, opensParen_blanks blanks_nil]
  simp

lemma mem_of_opensParen {s : Text} (h : opensParen s = true) : '(' ∈ s := by
  rw [opensParen, beq_iff_eq] at h
  exact (List.dropWhile_sublist isBlank).subset (List.mem_of_mem_head? h)

/-! ## Stretches of one class -/

/-- What follows a stretch of the class does not continue it. -/
def Stops (p : Char → Bool) (s : Text) : Prop := ∀ c ∈ s.head?, p c = false

lemma stops_cons {p : Char → Bool} {c : Char} (hc : p c = false) (s : Text) : Stops p (c :: s) := by
  intro d hd
  cases hd
  exact hc

lemma stops_append {p : Char → Bool} {w : Text} (visible : w ≠ [])
    (other : ∀ c ∈ w, p c = false) (s : Text) : Stops p (w ++ s) := by
  obtain ⟨c, w, rfl⟩ := List.exists_cons_of_ne_nil visible
  exact stops_cons (other c List.mem_cons_self) (w ++ s)

lemma stops_dropWhile (p : Char → Bool) (s : Text) : Stops p (s.dropWhile p) := by
  induction s with
  | nil => simp [Stops]
  | cons c s ih =>
    by_cases hc : p c = true
    · rw [List.dropWhile_cons_of_pos hc]
      exact ih
    · rw [List.dropWhile_cons_of_neg hc]
      exact stops_cons (Bool.eq_false_iff.mpr hc) s

lemma dropWhile_of_stops {p : Char → Bool} {s : Text} (stop : Stops p s) : s.dropWhile p = s := by
  cases s with
  | nil => rfl
  | cons c s => exact List.dropWhile_cons_of_neg (by simp [stop c rfl])

lemma dropWhile_stretch {p : Char → Bool} {w s : Text} (all : ∀ c ∈ w, p c = true)
    (stop : Stops p s) : (w ++ s).dropWhile p = s := by
  rw [List.dropWhile_append_of_pos all, dropWhile_of_stops stop]

lemma takeWhile_of_stops {p : Char → Bool} {s : Text} (stop : Stops p s) :
    s.takeWhile p = [] := by
  cases s with
  | nil => rfl
  | cons c s => exact List.takeWhile_cons_of_neg (by simp [stop c rfl])

lemma takeWhile_stretch {p : Char → Bool} {w s : Text} (all : ∀ c ∈ w, p c = true)
    (stop : Stops p s) : (w ++ s).takeWhile p = w := by
  rw [List.takeWhile_append_of_pos all, takeWhile_of_stops stop, List.append_nil]

lemma dropWhile_append_cons {p : Char → Bool} {c : Char} (hc : p c = false) (u s : Text) :
    (u ++ c :: s).dropWhile p = u.dropWhile p ++ c :: s := by
  rw [List.dropWhile_append, dropWhile_of_stops (stops_cons hc s)]
  split
  · rename_i h
    rw [List.isEmpty_iff.mp h, List.nil_append]
  · rfl

/-- A visible character holds everything before it. -/
lemma trimEnd_append_cons {c : Char} (hc : isBlank c = false) (u s : Text) :
    trimEnd (u ++ c :: s) = u ++ c :: trimEnd s := by
  have back : (u ++ c :: s).reverse = s.reverse ++ c :: u.reverse := by simp
  rw [trimEnd, back, dropWhile_append_cons hc, trimEnd]
  simp

/-! ## Parts without blanks -/

lemma hasPart_iff {part s : Text} : hasPart part s = true ↔ part <:+: s := by
  induction s with
  | nil => simp [hasPart]
  | cons c s ih => simp [hasPart, ih, List.infix_cons_iff]

lemma prefix_before {part a b : Text} {c : Char} (hc : c ∉ part) (h : part <+: a ++ c :: b) :
    part <+: a := by
  by_cases hlen : part.length ≤ a.length
  · exact List.prefix_of_prefix_length_le h (List.prefix_append a (c :: b)) hlen
  · have hac : a ++ [c] <+: a ++ c :: b := ⟨b, by simp⟩
    have hle : (a ++ [c]).length ≤ part.length := by
      rw [List.length_append, List.length_singleton]
      omega
    have hlong : a ++ [c] <+: part := List.prefix_of_prefix_length_le hac h hle
    exact False.elim (hc (hlong.subset (by simp)))

/-- A part that lacks the character `c` does not reach across it. -/
lemma infix_across_iff {part : Text} {c : Char} (hne : part ≠ []) (hc : c ∉ part) (a b : Text) :
    part <:+: a ++ c :: b ↔ part <:+: a ∨ part <:+: b := by
  induction a with
  | nil =>
    have hfront : ¬ part <+: c :: b := by
      intro h
      exact hne (List.prefix_nil.mp (prefix_before (a := []) hc h))
    simp [List.infix_cons_iff, hfront, hne]
  | cons d a ih =>
    have hfront : part <+: d :: (a ++ c :: b) ↔ part <+: d :: a := by
      constructor
      · intro h
        exact prefix_before (a := d :: a) hc h
      · intro h
        exact h.trans (List.prefix_append (d :: a) (c :: b))
    rw [List.cons_append, List.infix_cons_iff, List.infix_cons_iff, hfront, ih, or_assoc]

lemma hasPart_across {part : Text} (hne : part ≠ []) (solid : ∀ c ∈ part, isBlank c = false)
    {c : Char} (hc : isBlank c = true) (a b : Text) :
    hasPart part (a ++ c :: b) = (hasPart part a || hasPart part b) := by
  have hmem : c ∉ part := by
    intro hm
    rw [solid c hm] at hc
    cases hc
  rw [Bool.eq_iff_iff, Bool.or_eq_true, hasPart_iff, hasPart_iff, hasPart_iff]
  exact infix_across_iff hne hmem a b

end StyleGate.Text
