import StyleGate.Proofs.Text.Lines
import StyleGate.Proofs.Text.Runs
import StyleGate.Usage

/-!
# Searches of the whole text

A collection mark stands on one line, while a loop keyword and its parenthesis may be blanks and
line breaks apart. Both searches are cut by any blank: what they find in a text is what they find
in its two sides, and a loop also where the left side ends in a keyword that waits for its
parenthesis. So both depend on the trimmed lines of the text alone.
-/

namespace StyleGate.Usage

open Text

/-- The text ends, blanks aside, in a loop keyword. -/
def awaitsParen (s : Text) : Bool :=
  (runs s).any fun p => loopKeywords.contains p.1 && p.2.all isBlank

lemma loop_eq (s : Text) :
    loop s = (runs s).any fun p => loopKeywords.contains p.1 && opensParen p.2 :=
  isSome_findRun? _ s

/-! ## What a blank cuts -/

lemma any_or (runs : List (Text × Text)) (f g : Text × Text → Bool) :
    (runs.any fun p => f p || g p) = (runs.any f || runs.any g) := by
  induction runs with
  | nil => rfl
  | cons p runs ih =>
    simp only [List.any_cons, ih]
    ac_rfl

/-- A loop lies on one side of a blank, or its keyword ends the left side. -/
theorem loop_across {c : Char} (hc : isBlank c = true) (a b : Text) :
    loop (a ++ c :: b) = (loop a || loop b || (awaitsParen a && opensParen b)) := by
  have each (p : Text × Text) :
      (loopKeywords.contains p.1 && opensParen (p.2 ++ c :: b)) =
        ((loopKeywords.contains p.1 && opensParen p.2) ||
          ((loopKeywords.contains p.1 && p.2.all isBlank) && opensParen b)) := by
    rw [opensParen_across hc, Bool.and_or_distrib_left, Bool.and_assoc]
  have left : ((runs a).map fun p => (p.1, p.2 ++ c :: b)).any
      (fun p => loopKeywords.contains p.1 && opensParen p.2) =
        (loop a || (awaitsParen a && opensParen b)) := by
    simp only [List.any_map, Function.comp_def, each]
    rw [any_or, ← List.and_any_distrib_right, loop_eq, awaitsParen]
  rw [loop_eq, runs_across (isWord_of_isBlank hc), List.any_append, left, ← loop_eq]
  ac_rfl

lemma awaitsParen_across {c : Char} (hc : isBlank c = true) (a b : Text) :
    awaitsParen (a ++ c :: b) = (awaitsParen b || (awaitsParen a && b.all isBlank)) := by
  have each (p : Text × Text) :
      (loopKeywords.contains p.1 && (p.2 ++ c :: b).all isBlank) =
        ((loopKeywords.contains p.1 && p.2.all isBlank) && b.all isBlank) := by
    rw [List.all_append, List.all_cons, hc, Bool.true_and, Bool.and_assoc]
  have left : ((runs a).map fun p => (p.1, p.2 ++ c :: b)).any
      (fun p => loopKeywords.contains p.1 && p.2.all isBlank) =
        (awaitsParen a && b.all isBlank) := by
    simp only [List.any_map, Function.comp_def, each]
    rw [← List.and_any_distrib_right, awaitsParen]
  rw [awaitsParen, runs_across (isWord_of_isBlank hc), List.any_append, left, ← awaitsParen,
    Bool.or_comm]

lemma collection_across {c : Char} (hc : isBlank c = true) (a b : Text) :
    collection (a ++ c :: b) = (collection a || collection b) := by
  have visible : ∀ mark ∈ collectionMarks, mark ≠ [] ∧ (mark.all fun d => !isBlank d) = true := by
    decide
  have each : ∀ mark ∈ collectionMarks,
      hasPart mark (a ++ c :: b) = (hasPart mark a || hasPart mark b) := by
    intro mark hm
    obtain ⟨nonempty, solid⟩ := visible mark hm
    exact hasPart_across nonempty (by simpa using solid) hc a b
  simp only [collection, collectionMarks, List.any_cons, List.any_nil] at each ⊢
  rw [each _ (by decide), each _ (by decide), each _ (by decide)]
  ac_rfl

/-! ## Trimming -/

lemma loop_nil : loop [] = false := by decide

lemma awaitsParen_nil : awaitsParen [] = false := by decide

lemma collection_nil : collection [] = false := by decide

lemma loop_cons_blank (c : Char) (s : Text) (hc : isBlank c = true) : loop (c :: s) = loop s := by
  simpa [loop_nil, awaitsParen_nil] using loop_across hc [] s

lemma loop_trim (s : Text) : loop (trim s) = loop s := by
  refine apply_trim loop_cons_blank (fun c s hc => ?_) s
  rw [loop_across hc, loop_nil, opensParen_blanks blanks_nil]
  simp

lemma awaitsParen_trim (s : Text) : awaitsParen (trim s) = awaitsParen s := by
  refine apply_trim (fun c s hc => ?_) (fun c s hc => ?_) s
  · simpa [awaitsParen_nil] using awaitsParen_across hc [] s
  · rw [awaitsParen_across hc, awaitsParen_nil]
    simp

lemma collection_cons_blank (c : Char) (s : Text) (hc : isBlank c = true) :
    collection (c :: s) = collection s := by
  simpa [collection_nil] using collection_across hc [] s

lemma collection_trim (s : Text) : collection (trim s) = collection s := by
  refine apply_trim collection_cons_blank (fun c s hc => ?_) s
  rw [collection_across hc, collection_nil, Bool.or_false]

/-! ## Line by line -/

section Break

variable {b : Text} (ends : b ∈ breaks)
include ends

lemma exists_break_cons : ∃ c w, isBlank c = true ∧ Blanks w ∧ b = c :: w := by
  obtain ⟨c, w, rfl⟩ := List.exists_cons_of_ne_nil (ne_nil_of_mem_breaks ends)
  have blank := blanks_of_mem_breaks ends
  exact ⟨c, w, blank c List.mem_cons_self, fun d hd => blank d (List.mem_cons_of_mem c hd), rfl⟩

lemma opensParen_break (l s : Text) :
    opensParen (l ++ (b ++ s)) = (opensParen l || (l.all isBlank && opensParen s)) := by
  obtain ⟨c, w, hc, hw, rfl⟩ := exists_break_cons ends
  rw [List.cons_append, opensParen_across hc, opensParen_blanks_append hw]

lemma loop_break (l s : Text) :
    loop (l ++ (b ++ s)) = (loop l || loop s || (awaitsParen l && opensParen s)) := by
  obtain ⟨c, w, hc, hw, rfl⟩ := exists_break_cons ends
  rw [List.cons_append, loop_across hc, apply_blanks_append loop_cons_blank hw,
    opensParen_blanks_append hw]

lemma collection_break (l s : Text) :
    collection (l ++ (b ++ s)) = (collection l || collection s) := by
  obtain ⟨c, w, hc, hw, rfl⟩ := exists_break_cons ends
  rw [List.cons_append, collection_across hc, apply_blanks_append collection_cons_blank hw]

end Break

/-- The trimmed lines, each followed by a line feed. -/
def settled (ls : List Text) : Text := unlines (ls.map trim)

lemma settled_cons (l : Text) (ls : List Text) :
    settled (l :: ls) = trim l ++ (['\n'] ++ settled ls) := by
  simp [settled, unlines]

lemma opensParen_settled {ls : List Text} {s : Text} (h : LaidOut ls s) :
    opensParen (settled ls) = opensParen s := by
  induction h with
  | nil => rfl
  | @last l free visible =>
    rw [settled_cons, opensParen_break lineFeed_mem_breaks, opensParen_trim]
    simp [settled, unlines, opensParen_blanks blanks_nil]
  | @line l b s ls free ends apart rest ih =>
    rw [settled_cons, opensParen_break lineFeed_mem_breaks,
      opensParen_break ends,
      opensParen_trim, all_isBlank_trim, ih]

/-- A loop of the text is a loop of its trimmed lines. -/
theorem loop_settled {ls : List Text} {s : Text} (h : LaidOut ls s) :
    loop (settled ls) = loop s := by
  induction h with
  | nil => rfl
  | @last l free visible =>
    rw [settled_cons, loop_break lineFeed_mem_breaks, loop_trim]
    simp [settled, unlines, loop_nil, opensParen_blanks blanks_nil]
  | @line l b s ls free ends apart rest ih =>
    rw [settled_cons, loop_break lineFeed_mem_breaks,
      loop_break ends,
      loop_trim, awaitsParen_trim, ih, opensParen_settled rest]

theorem collection_settled {ls : List Text} {s : Text} (h : LaidOut ls s) :
    collection (settled ls) = collection s := by
  induction h with
  | nil => rfl
  | @last l free visible =>
    rw [settled_cons, collection_break lineFeed_mem_breaks, collection_trim]
    simp [settled, unlines, collection_nil]
  | @line l b s ls free ends apart rest ih =>
    rw [settled_cons, collection_break lineFeed_mem_breaks,
      collection_break ends,
      collection_trim, ih]

end StyleGate.Usage
