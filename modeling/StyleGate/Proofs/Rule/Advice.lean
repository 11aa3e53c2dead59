import Mathlib.Data.List.Infix
import StyleGate.Proofs.Analysis.TrimmedLines
import StyleGate.Proofs.Braces.Padding
import StyleGate.Proofs.Rule.Documentation
import StyleGate.Proofs.Rule.EndingLine

/-!
# Following the advice of the rules

The spacing rule asks for two empty lines after a body, and the documentation rule for a comment
above a declaration. Both are lines put in that hold no brace and declare nothing, so every body
still closes on its line, and only the lines right below that line decide whether it is reported.
Where space is put in, no body is reported any more; where comments are put in, no declaration is,
and as many bodies as before.
-/

namespace StyleGate

open Text Braces

namespace Rule

/-! ## Counting the bodies that are reported -/

/-- What follows the body of the signature at the front of the lines, if there is one and its body
closes. -/
def afterBody? : List Text → Option (List Text)
  | [] => none
  | l :: ls =>
    if Declaration.isSignature l then (closeFrom 0 0 false (l :: ls)).map Close.after else none

def crowdedBody (ls : List Text) : Bool := (afterBody? ls).any crowded

lemma map_after_closeFrom (p q depth : Int) (inside : Bool) (ls : List Text) :
    (closeFrom p depth inside ls).map Close.after =
      (closeFrom q depth inside ls).map Close.after := by
  induction ls generalizing p q depth inside with
  | nil => rfl
  | cons l ls ih =>
    by_cases stop : BalancedFrom depth inside [l]
    · rw [closeFrom_cons_of_balanced _ stop, closeFrom_cons_of_balanced _ stop]
      rfl
    · rw [closeFrom_cons_of_not_balanced _ stop, closeFrom_cons_of_not_balanced _ stop]
      exact ih _ _ _ _

lemma isSome_subroutineSpacingAt (index : Nat) (ls : List Text) :
    (subroutineSpacingAt index ls).isSome = crowdedBody ls := by
  cases ls with
  | nil => rfl
  | cons l ls =>
    rw [crowdedBody, afterBody?, subroutineSpacingAt, bodyAt]
    by_cases signature : Declaration.isSignature l = true
    · rw [if_pos signature, if_pos signature, map_after_closeFrom 0 index]
      cases closeFrom index 0 false (l :: ls) with
      | none => rfl
      | some close =>
        by_cases tight : crowded close.after = true
        · simp [tight]
        · simp [tight]
    · rw [if_neg signature, if_neg signature]
      rfl

lemma length_sweep (index : Nat) (found : List Violation) (ls : List Text) :
    (sweep subroutineSpacingAt index found ls).length =
      found.length + ls.tails.countP crowdedBody := by
  induction ls generalizing index found with
  | nil => simp [sweep, crowdedBody, afterBody?]
  | cons l ls ih =>
    have judged := isSome_subroutineSpacingAt index (l :: ls)
    rw [sweep, ih, List.tails_cons, List.countP_cons, ← judged]
    cases subroutineSpacingAt index (l :: ls) with
    | none => simp
    | some v =>
      simp only [List.length_cons, Option.isSome_some, if_true]
      omega

/-- The rule reports as many violations as there are signatures with a crowded body. -/
theorem length_checkSubroutineSpacing (d : Document) :
    (checkSubroutineSpacing d).length = d.rawLines.tails.countP crowdedBody := by
  rw [checkSubroutineSpacing, length_sweep, List.length_nil, Nat.zero_add]

/-! ## Bodies between lines put in -/

/-- Lines that may be put in anywhere: no brace and no signature. -/
def Inert (ls : List Text) : Prop :=
  Braceless ls ∧ ∀ l ∈ ls, Declaration.isSignature l = false

lemma inert_nil : Inert [] := by
  simp [Inert, Braceless]

lemma countP_tails_inert {quiet : List Text}
    (inert : ∀ l ∈ quiet, Declaration.isSignature l = false) (ls : List Text) :
    (quiet ++ ls).tails.countP crowdedBody = ls.tails.countP crowdedBody := by
  induction quiet with
  | nil => rfl
  | cons l quiet ih =>
    have plain : crowdedBody (l :: (quiet ++ ls)) = false := by
      simp [crowdedBody, afterBody?, inert l List.mem_cons_self]
    rw [List.cons_append, List.tails_cons, List.countP_cons, plain,
      ih fun m hm => inert m (List.mem_cons_of_mem l hm)]
    rfl

section Padded

variable {above below : Nat → List Text} (above_inert : ∀ i, Inert (above i))
  (below_inert : ∀ i, Inert (below i))
include above_inert below_inert

/-- A signature of the lines is reported, once lines are put in, if too little space follows its
body then. -/
theorem crowdedBody_padded_iff {lines : List Text} {i : Nat} {l : Text} {ls : List Text}
    (here : lines.drop i = l :: ls) :
    crowdedBody (l :: (below i ++ padded above below (i + 1) ls)) = true ↔
      HeadsBody lines i ∧ ∃ e, ClosesAt lines i e ∧
        crowded (below e ++ padded above below (e + 1) (lines.drop (e + 1))) = true := by
  have heads : HeadsBody lines i ↔ Declaration.isSignature l = true := by
    rw [HeadsBody, ← List.head?_drop, here]
    simp
  rw [heads, crowdedBody, afterBody?]
  by_cases signature : Declaration.isSignature l = true
  · rw [if_pos signature,
      closeFrom_padded (fun i => (above_inert i).1) (fun i => (below_inert i).1), ← here,
      Option.any_map, Option.any_eq_true, and_iff_right signature]
    simp only [closeFrom_drop_eq_some_iff]
    constructor
    · rintro ⟨close, ⟨e, closes, rfl⟩, tight⟩
      exact ⟨e, closes, tight⟩
    · rintro ⟨e, closes, tight⟩
      exact ⟨_, ⟨e, closes, rfl⟩, tight⟩
  · simp [signature]

/-- Reported signatures are counted line by line, whatever is put in between. -/
lemma countP_padded {q : List Text → Bool} (none : q [] = false) (index : Nat) (ls : List Text)
    (same : ∀ k l rest, ls.drop k = l :: rest →
      crowdedBody (l :: (below (index + k) ++ padded above below (index + k + 1) rest)) =
        q (l :: rest)) :
    (padded above below index ls).tails.countP crowdedBody = ls.tails.countP q := by
  induction ls generalizing index with
  | nil => simp [padded, crowdedBody, afterBody?, none]
  | cons l ls ih =>
    have first := same 0 l ls rfl
    have rest := ih (index + 1) fun k m ms here => by
      have later := same (k + 1) m ms here
      rwa [show index + (k + 1) = index + 1 + k by omega] at later
    rw [padded, countP_tails_inert (above_inert index).2, List.tails_cons, List.countP_cons,
      countP_tails_inert (below_inert index).2, rest, List.tails_cons, List.countP_cons]
    rw [Nat.add_zero] at first
    rw [first]

end Padded

/-! ## The space after a body -/

lemma line_of_drop {lines : List Text} {i : Nat} {a : Text} {rest : List Text}
    (here : lines.drop i = a :: rest) : lines[i]? = some a ∧ lines.drop (i + 1) = rest := by
  rw [← List.head?_drop, ← List.tail_drop, here]
  exact ⟨rfl, rfl⟩

lemma crowded_cons (a : Text) (ls : List Text) :
    crowded (a :: ls) =
      (trim a != ['}'] && (trim a != [] || ls.head?.any fun b => trim b != [])) := by
  cases ls with
  | nil => simp [crowded]
  | cons b ls => simp [crowded, bne, Bool.not_and]

lemma crowded_of_visible {a : Text} (visible : trim a ≠ [] ∧ trim a ≠ ['}']) (ls : List Text) :
    crowded (a :: ls) = true := by
  simp [crowded_cons, visible]

/-- A body ends on a line with a brace. -/
lemma trim_ne_nil_of_closesAt {lines : List Text} {i e : Nat} {l : Text}
    (closes : ClosesAt lines i e) (line : lines[e]? = some l) : trim l ≠ [] := by
  intro blank
  have noOpen : opening l = 0 := by rw [← opening_trim, blank]; rfl
  have noClose : closing l = 0 := by rw [← closing_trim, blank]; rfl
  obtain ⟨opens, level⟩ := closes.balanced
  rw [between_succ closes.le line] at opens level
  refine closes.not_balanced_before ⟨?_, ?_⟩
  · refine ((opens_append _ _).mp opens).resolve_right fun last => ?_
    rw [opens_cons, noOpen] at last
    exact last.elim (Nat.lt_irrefl 0) not_opens_nil
  · rw [net_append, net_cons, net_nil, noOpen, noClose] at level
    omega

/-! ## Lines that a report names -/

/-- Some violation names line `i`, counted from zero. -/
def namesLine (vs : List Violation) (i : Nat) : Bool :=
  vs.any fun v => v.line == some ((i : Int) + 1)

lemma namesLine_spacing_iff {d : Document} {e : Nat} :
    namesLine (checkSubroutineSpacing d) e = true ↔ ∃ i, Crowds d.rawLines i e := by
  rw [namesLine, List.any_eq_true]
  constructor
  · rintro ⟨v, mem, line⟩
    obtain ⟨i, f, crowds, rfl⟩ := exists_of_mem_checkSubroutineSpacing mem
    obtain rfl : f = e := by
      simp only [spacingViolation, beq_iff_eq, Option.some.injEq] at line
      omega
    exact ⟨i, crowds⟩
  · rintro ⟨i, crowds⟩
    refine ⟨spacingViolation e, ?_, beq_self_eq_true _⟩
    obtain ⟨l, line, -⟩ := crowds.heads
    rw [checkSubroutineSpacing_eq, List.mem_filterMap]
    exact ⟨i, List.mem_range.mpr (List.getElem?_eq_some_iff.mp line).1,
      subroutineSpacingAt_drop_eq_some_iff.mpr ⟨e, crowds, rfl⟩⟩

lemma namesLine_documentation_iff {t : Text} {i : Nat} :
    namesLine (checkDocumentation (Document.ofText t)) i = true ↔
      i ∈ bareFrom none 0 (splitLines t) := by
  rw [namesLine, checkDocumentation_ofText, List.any_map, List.any_eq_true]
  constructor
  · rintro ⟨j, mem, line⟩
    obtain rfl : j = i := by
      simp only [Function.comp_apply, documentationViolation, beq_iff_eq, Option.some.injEq] at line
      omega
    exact mem
  · intro mem
    exact ⟨i, mem, beq_self_eq_true _⟩

/-- Lines put in between the lines of a text make another text. -/
lemma exists_ofText_padded {above below : Nat → List Text}
    (above_free : ∀ i, ∀ l ∈ above i, BreakFree l) (below_free : ∀ i, ∀ l ∈ below i, BreakFree l)
    (t : Text) :
    ∃ t', (Document.ofText t').rawLines = padded above below 0 (splitLines t) := by
  refine ⟨unlines (padded above below 0 (splitLines t)), ?_⟩
  rw [Document.rawLines_ofText]
  refine (laidOut_unlines fun l mem => ?_).splitLines_eq
  rcases mem_padded mem with line | ⟨i, front | behind⟩
  · exact (laidOut_splitLines t).breakFree l line
  · exact above_free i l front
  · exact below_free i l behind

/-! ## Space below -/

/-- Two empty lines below every line that the spacing rule names. -/
def spaceBelow (t : Text) (i : Nat) : List Text :=
  if namesLine (checkSubroutineSpacing (Document.ofText t)) i then [[], []] else []

/-- The lines of the text with the space that the spacing rule asks for. -/
def spacedOut (t : Text) : List Text := padded (fun _ => []) (spaceBelow t) 0 (splitLines t)

lemma inert_spaceBelow (t : Text) (i : Nat) : Inert (spaceBelow t i) := by
  have blank : Inert [[], []] := by
    refine ⟨?_, ?_⟩
    · simp [Braceless, opening, closing]
    · simp only [List.mem_cons, List.not_mem_nil, or_false, or_self]
      rintro l rfl
      decide
  rw [spaceBelow]
  split
  · exact blank
  · exact inert_nil

lemma exists_ofText_spacedOut (t : Text) :
    ∃ t', (Document.ofText t').rawLines = spacedOut t := by
  refine exists_ofText_padded (fun i l mem => absurd mem List.not_mem_nil) (fun i l mem => ?_) t
  have empty : l = [] := by
    rw [spaceBelow] at mem
    split at mem
    · simpa using mem
    · cases mem
  rw [empty]
  exact ⟨List.not_mem_nil, List.not_mem_nil⟩

lemma head?_padded_below (below : Nat → List Text) (index : Nat) (ls : List Text) :
    (padded (fun _ => []) below index ls).head? = ls.head? := by
  cases ls with
  | nil => rfl
  | cons l ls => rfl

/-- A blank line is not the end of a body, so nothing is put in below it. -/
lemma spaceBelow_of_blank {t : Text} {i : Nat} {a : Text} (line : (splitLines t)[i]? = some a)
    (blank : trim a = []) : spaceBelow t i = [] := by
  refine if_neg fun named => ?_
  obtain ⟨j, crowds⟩ := namesLine_spacing_iff.mp named
  rw [Document.rawLines_ofText] at crowds
  exact trim_ne_nil_of_closesAt (bodyEnd_eq_some_iff.mp crowds.closes) line blank

lemma not_crowded_spacedOut {t : Text} {i e : Nat} (heads : HeadsBody (splitLines t) i)
    (closes : ClosesAt (splitLines t) i e) :
    crowded (spaceBelow t e ++ padded (fun _ => []) (spaceBelow t) (e + 1)
      ((splitLines t).drop (e + 1))) = false := by
  have named : namesLine (checkSubroutineSpacing (Document.ofText t)) e = true ↔
      crowded ((splitLines t).drop (e + 1)) = true := by
    rw [namesLine_spacing_iff, Document.rawLines_ofText]
    constructor
    · rintro ⟨j, crowds⟩
      exact crowds.crowded
    · intro tight
      exact ⟨i, heads, bodyEnd_eq_some_iff.mpr closes, tight⟩
  by_cases tight : crowded ((splitLines t).drop (e + 1)) = true
  · rw [spaceBelow, if_pos (named.mpr tight)]
    rfl
  · rw [spaceBelow, if_neg (mt named.mp tight), List.nil_append]
    rw [Bool.not_eq_true] at tight
    cases after : (splitLines t).drop (e + 1) with
    | nil => rfl
    | cons a rest =>
      rw [after, crowded_cons] at tight
      rw [padded, List.nil_append, crowded_cons]
      by_cases blank : trim a = []
      · -- The line after the body is blank, so the second line after it is the same as before.
        rwa [spaceBelow_of_blank (line_of_drop after).1 blank, List.nil_append,
          head?_padded_below]
      · -- It is the brace of the scope around the body.
        have brace : trim a = ['}'] := by simpa [blank] using tight
        simp [brace]

/-- Two empty lines below the lines that the spacing rule names leave it nothing to report. -/
theorem checkSubroutineSpacing_spacedOut {t t' : Text}
    (edited : (Document.ofText t').rawLines = spacedOut t) :
    checkSubroutineSpacing (Document.ofText t') = [] := by
  have none : (spacedOut t).tails.countP crowdedBody =
      (splitLines t).tails.countP fun _ => false := by
    refine countP_padded (fun _ => inert_nil) (inert_spaceBelow t) rfl 0 (splitLines t) ?_
    intro k l rest here
    rw [Nat.zero_add, Bool.eq_false_iff]
    intro reported
    obtain ⟨heads, e, closes, tight⟩ :=
      (crowdedBody_padded_iff (fun _ => inert_nil) (inert_spaceBelow t) here).mp reported
    rw [not_crowded_spacedOut heads closes] at tight
    cases tight
  refine List.eq_nil_of_length_eq_zero ?_
  rw [length_checkSubroutineSpacing, edited, none, List.countP_false]
  rfl

/-! ## Comments above -/

/-- A comment line that can be put in: it opens with two slashes and holds neither a brace nor the
word `class`. -/
structure Remark (c : Text) : Prop where
  oneLine : BreakFree c
  slashes : "//".toList <+: trim c
  braceless : '{' ∉ c ∧ '}' ∉ c
  classless : "class".toList ∉ (runs c).map Prod.fst

namespace Remark

variable {c : Text} (remark : Remark c)
include remark

lemma visible : trim c ≠ [] ∧ trim c ≠ ['}'] := by
  obtain ⟨r, whole⟩ := remark.slashes
  rw [← whole]
  constructor
  · exact List.cons_ne_nil _ _
  · intro same
    exact absurd (List.cons.inj same).1 (by decide)

lemma documents : Comment.documents (trim c) = true := by
  rw [Comment.documents, List.isPrefixOf_iff_prefix.mpr remark.slashes, Bool.true_or]

lemma isSignature_eq : Declaration.isSignature (trim c) = false := by
  obtain ⟨r, whole⟩ := remark.slashes
  rw [← whole]
  rfl

lemma declares_eq : declares (trim c) = false := by
  have noClass : Declaration.isClass (trim c) = false := by
    rw [Declaration.isClass_trim, Bool.eq_false_iff]
    exact mt Declaration.isClass_iff.mp remark.classless
  rw [declares, noClass, remark.isSignature_eq, Bool.or_false]

lemma inert : Inert [c] := by
  constructor
  · intro l mem
    rw [List.mem_singleton.mp mem]
    exact ⟨List.count_eq_zero.mpr remark.braceless.1, List.count_eq_zero.mpr remark.braceless.2⟩
  · intro l mem
    rw [List.mem_singleton.mp mem, ← Declaration.isSignature_trim, remark.isSignature_eq]

end Remark

variable (remark : Nat → Text)

/-- A comment above every line that the documentation rule names. -/
def commentAbove (t : Text) (i : Nat) : List Text :=
  if namesLine (checkDocumentation (Document.ofText t)) i then [remark i] else []

/-- The lines of the text with the comments that the documentation rule asks for. -/
def annotated (t : Text) : List Text :=
  padded (commentAbove remark t) (fun _ => []) 0 (splitLines t)

variable {remark}

/-- A line gets a comment above it only if it is visible itself. -/
lemma commentAbove_cases {t : Text} {i : Nat} {a : Text} (line : (splitLines t)[i]? = some a) :
    commentAbove remark t i = [] ∨
      (trim a ≠ [] ∧ trim a ≠ ['}']) ∧ commentAbove remark t i = [remark i] := by
  by_cases named : namesLine (checkDocumentation (Document.ofText t)) i = true
  · obtain ⟨k, l, rfl, line', declared⟩ :=
      exists_declares_of_mem_bareFrom (namesLine_documentation_iff.mp named)
    rw [Nat.zero_add, line'] at line
    obtain rfl := Option.some.inj line
    exact Or.inr ⟨visible_of_declares declared, if_pos named⟩
  · exact Or.inl (if_neg named)

variable (remarks : ∀ i, Remark (remark i))
include remarks

lemma inert_commentAbove (t : Text) (i : Nat) : Inert (commentAbove remark t i) := by
  rw [commentAbove]
  split
  · exact (remarks i).inert
  · exact inert_nil

lemma exists_ofText_annotated (t : Text) :
    ∃ t', (Document.ofText t').rawLines = annotated remark t := by
  refine exists_ofText_padded (fun i l mem => ?_) (fun i l mem => absurd mem List.not_mem_nil) t
  rw [commentAbove] at mem
  split at mem
  · rw [List.mem_singleton.mp mem]
    exact (remarks i).oneLine
  · cases mem

lemma crowded_annotated (t : Text) (index : Nat) :
    crowded (padded (commentAbove remark t) (fun _ => []) index ((splitLines t).drop index)) =
      crowded ((splitLines t).drop index) := by
  cases here : (splitLines t).drop index with
  | nil => rfl
  | cons a rest =>
    obtain ⟨line, after⟩ := line_of_drop here
    rw [padded]
    rcases commentAbove_cases line with none | ⟨visible, comment⟩
    · rw [none, List.nil_append, List.nil_append, crowded_cons, crowded_cons]
      cases rest with
      | nil => rfl
      | cons b rest =>
        rw [padded]
        rcases commentAbove_cases (line_of_drop after).1 with none | ⟨visible, comment⟩
        · rw [none]
          rfl
        · have comment_visible : (trim (remark (index + 1)) != []) = true :=
            bne_iff_ne.mpr (remarks (index + 1)).visible.1
          have line_visible : (trim b != []) = true := bne_iff_ne.mpr visible.1
          simp only [comment, List.cons_append, List.head?_cons, Option.any_some, comment_visible,
            line_visible]
    · rw [comment, List.singleton_append, crowded_of_visible (remarks index).visible,
        crowded_of_visible visible]

/-- Comments above the lines that the documentation rule names change no count of the spacing
rule. -/
theorem length_checkSubroutineSpacing_annotated {t t' : Text}
    (edited : (Document.ofText t').rawLines = annotated remark t) :
    (checkSubroutineSpacing (Document.ofText t')).length =
      (checkSubroutineSpacing (Document.ofText t)).length := by
  have same : (annotated remark t).tails.countP crowdedBody =
      (splitLines t).tails.countP crowdedBody := by
    refine countP_padded (inert_commentAbove remarks t) (fun _ => inert_nil) rfl 0 (splitLines t) ?_
    intro k l rest here
    have padded_iff :=
      crowdedBody_padded_iff (inert_commentAbove remarks t) (fun _ => inert_nil) here
    have plain_iff := crowdedBody_padded_iff (fun _ => inert_nil) (fun _ => inert_nil) here
    simp only [List.nil_append, padded_nothing] at plain_iff
    simp only [List.nil_append, crowded_annotated remarks] at padded_iff
    rw [Nat.zero_add, Bool.eq_iff_iff, List.nil_append, padded_iff, plain_iff]
  rw [length_checkSubroutineSpacing, edited, same, length_checkSubroutineSpacing,
    Document.rawLines_ofText]

/-- A comment above every bare line leaves none bare. -/
lemma bareFrom_padded {t : Text} (above : Option Text) (index place : Nat) (ls : List Text)
    (named : ∀ i ∈ bareFrom above index ls,
      namesLine (checkDocumentation (Document.ofText t)) i = true) :
    bareFrom above place (padded (commentAbove remark t) (fun _ => []) index ls) = [] := by
  induction ls generalizing above index place with
  | nil => rfl
  | cons l ls ih =>
    have rest (place : Nat) := ih (some l) (index + 1) place fun i mem =>
      named i (List.mem_append_right _ mem)
    by_cases here : namesLine (checkDocumentation (Document.ofText t)) index = true
    · have comment : bare above (remark index) = false := by
        rw [bare, (remarks index).declares_eq, Bool.false_and]
      have below : bare (some (remark index)) l = false := by
        rw [bare, Option.any_some, (remarks index).documents, Bool.not_true, Bool.and_false]
      rw [padded, commentAbove, if_pos here, List.singleton_append, List.nil_append, bareFrom,
        comment, bareFrom, below, rest]
      rfl
    · have documented : bare above l = false := by
        rw [Bool.eq_false_iff]
        intro bared
        refine here (named index ?_)
        rw [bareFrom, if_pos bared]
        exact List.mem_append_left _ (List.mem_singleton_self index)
      rw [padded, commentAbove, if_neg here, List.nil_append, List.nil_append, bareFrom, documented,
        rest]
      rfl

theorem checkDocumentation_annotated {t t' : Text}
    (edited : (Document.ofText t').rawLines = annotated remark t) :
    checkDocumentation (Document.ofText t') = [] := by
  rw [Document.rawLines_ofText] at edited
  rw [checkDocumentation_ofText, edited, annotated,
    bareFrom_padded remarks none 0 0 (splitLines t) fun i => namesLine_documentation_iff.mpr]
  rfl

end Rule

open Rule

/-- Both edits can be made in every text. Two empty lines below every line that the spacing rule
names leave that rule nothing to report. A comment above every line that the documentation rule
names leaves this one nothing to report, and the spacing rule as many violations as before. So after
both, neither rule reports anything. -/
theorem advice_settles_spacing_and_documentation (remark : Nat → Text)
    (remarks : ∀ i, Remark (remark i)) (t : Text) :
    ((∃ t', (Document.ofText t').rawLines = spacedOut t) ∧
      ∃ t', (Document.ofText t').rawLines = annotated remark t) ∧
    (∀ t', (Document.ofText t').rawLines = spacedOut t →
      checkSubroutineSpacing (Document.ofText t') = []) ∧
    (∀ t', (Document.ofText t').rawLines = annotated remark t →
      checkDocumentation (Document.ofText t') = [] ∧
        (checkSubroutineSpacing (Document.ofText t')).length =
          (checkSubroutineSpacing (Document.ofText t)).length) ∧
    ∀ t' t'', (Document.ofText t').rawLines = spacedOut t →
      (Document.ofText t'').rawLines = annotated remark t' →
      checkSubroutineSpacing (Document.ofText t'') = [] ∧
        checkDocumentation (Document.ofText t'') = [] := by
  refine ⟨⟨exists_ofText_spacedOut t, exists_ofText_annotated remarks t⟩,
    fun t' => checkSubroutineSpacing_spacedOut, fun t' edited => ?_, fun t' t'' spaced edited => ?_⟩
  · exact ⟨checkDocumentation_annotated remarks edited,
      length_checkSubroutineSpacing_annotated remarks edited⟩
  · have count := length_checkSubroutineSpacing_annotated remarks edited
    rw [checkSubroutineSpacing_spacedOut spaced, List.length_nil] at count
    exact ⟨List.eq_nil_of_length_eq_zero count, checkDocumentation_annotated remarks edited⟩

/-- A class with one method and a field right below it. -/
def crowdedMethod : Text := "class A\n\x7b\npublic void Run()\n\x7b\n\x7d\nint x;\n\x7d\n".toList

/-- The same with space after the method. -/
def spacedMethod : Text :=
  "class A\n\x7b\npublic void Run()\n\x7b\n\x7d\n\n\nint x;\n\x7d\n".toList

/-- The same with two comments. -/
def annotatedMethod : Text :=
  "// A\nclass A\n\x7b\n// A\npublic void Run()\n\x7b\n\x7d\nint x;\n\x7d\n".toList

/-- The same with both. -/
def settledMethod : Text :=
  "// A\nclass A\n\x7b\n// A\npublic void Run()\n\x7b\n\x7d\n\n\nint x;\n\x7d\n".toList

/-- The comments alone leave the one violation of spacing; with the space nothing is left. -/
theorem advice_followed_on_one_method :
    (checkDocumentation (Document.ofText annotatedMethod) = [] ∧
      (checkSubroutineSpacing (Document.ofText annotatedMethod)).length = 1) ∧
    checkSubroutineSpacing (Document.ofText spacedMethod) = [] ∧
    checkSubroutineSpacing (Document.ofText settledMethod) = [] ∧
      checkDocumentation (Document.ofText settledMethod) = [] := by
  have remarks : ∀ _ : Nat, Remark "// A".toList := fun _ =>
    ⟨⟨by decide, by decide⟩, by decide, by decide, by decide⟩
  have spaced : (Document.ofText spacedMethod).rawLines = spacedOut crowdedMethod := by
    decide +kernel
  have comments : (Document.ofText annotatedMethod).rawLines =
      annotated (fun _ => "// A".toList) crowdedMethod := by decide +kernel
  have both : (Document.ofText settledMethod).rawLines =
      annotated (fun _ => "// A".toList) spacedMethod := by decide +kernel
  have one : (checkSubroutineSpacing (Document.ofText crowdedMethod)).length = 1 := by
    decide +kernel
  obtain ⟨-, space, annotates, settle⟩ :=
    advice_settles_spacing_and_documentation _ remarks crowdedMethod
  obtain ⟨documented, same⟩ := annotates annotatedMethod comments
  exact ⟨⟨documented, same.trans one⟩, space spacedMethod spaced,
    settle spacedMethod settledMethod spaced both⟩

end StyleGate
