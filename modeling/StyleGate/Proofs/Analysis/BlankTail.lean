import StyleGate.Proofs.Analysis.Methods
import StyleGate.Proofs.Analysis.TrimmedLines
import StyleGate.Proofs.Braces.Padding
import StyleGate.Proofs.Rule.Concatenation

/-!
# Blank lines at the end

A blank line below the last line declares nothing and holds no brace, so no body ends later for it.
The end of the text counts as the space that a body needs, so a body that was spaced out stays so,
and one that was crowded was crowded by a line that is still there. The searches of the whole text
read one more blank behind everything else. Only the rule about repetition counts blank lines as
lines of a block.
-/

namespace StyleGate

open Text Braces

namespace Rule

/-! ## The rule about bodies -/

/-- One blank line before the end is as good as none, and as two. -/
lemma crowded_snoc_empty (ls : List Text) : crowded (ls ++ [[]]) = crowded ls := by
  rcases ls with _ | ⟨a, _ | ⟨b, ls⟩⟩
  · rfl
  · have empty : trim [] = [] := rfl
    simp [crowded, bne, empty]
  · rfl

lemma braceless_empty : Braceless [[]] := by
  intro l mem
  rw [List.mem_singleton.mp mem]
  exact ⟨rfl, rfl⟩

/-- The same body closes on the same line, with one more line behind it. -/
lemma bodyAt_snoc_empty (index : Nat) (l : Text) (ls : List Text) :
    bodyAt index (l :: ls ++ [[]]) = (bodyAt index (l :: ls)).map fun found =>
      found.map fun close => ⟨close.position, close.after ++ [[]]⟩ := by
  have scan := closeFrom_append_braceless busy_start braceless_empty index (l :: ls)
  rw [List.cons_append] at scan ⊢
  rw [bodyAt, bodyAt, scan]
  split
  · rfl
  · rfl

lemma sweep_snoc_empty (index : Nat) (found : List Violation) (ls : List Text) :
    sweep subroutineSpacingAt index found (ls ++ [[]]) =
      sweep subroutineSpacingAt index found ls := by
  induction ls generalizing index found with
  | nil =>
    -- the blank line is no signature itself
    have none : subroutineSpacingAt index [[]] = none := rfl
    rw [List.nil_append, sweep, sweep, none]
    rfl
  | cons l ls ih =>
    have judge : subroutineSpacingAt index (l :: ls ++ [[]]) =
        subroutineSpacingAt index (l :: ls) :=
      subroutineSpacingAt_congr crowded_snoc_empty (bodyAt_snoc_empty index l ls)
    rw [List.cons_append] at judge ⊢
    rw [sweep, sweep, judge, ih]

/-! ## The other rules -/

lemma holds_ofLines (ls : List Text) : (Document.ofLines ls).Holds ls := rfl

lemma rawLines_ofLines (ls : List Text) : (Document.ofLines ls).rawLines = ls := by
  apply List.ext_getElem (by simp [Document.ofLines, Document.rawLines])
  intro i h₁ h₂
  simp [Document.ofLines, Document.rawLines]

lemma unlines_snoc_empty (ls : List Text) : unlines (ls ++ [[]]) = unlines ls ++ ['\n'] := by
  rw [unlines, List.flatMap_append]
  rfl

lemma blanks_lineFeed : Blanks ['\n'] := by
  intro c mem
  rw [List.mem_singleton.mp mem]
  rfl

lemma loop_snoc_empty (ls : List Text) :
    Usage.loop (unlines (ls ++ [[]])) = Usage.loop (unlines ls) := by
  rw [unlines_snoc_empty, ← Usage.loop_trim, trim_append_blanks blanks_lineFeed, Usage.loop_trim]

lemma collection_snoc_empty (ls : List Text) :
    Usage.collection (unlines (ls ++ [[]])) = Usage.collection (unlines ls) := by
  rw [unlines_snoc_empty, ← Usage.collection_trim, trim_append_blanks blanks_lineFeed,
    Usage.collection_trim]

/-- A rule that judges every line by itself has nothing to say about an empty one. -/
lemma check_snoc_empty_of_mem_lineRules {r : Rule} (mem : r ∈ lineRules) (ls : List Text) :
    r.check (Document.ofLines (ls ++ [[]])) = r.check (Document.ofLines ls) := by
  have silent : ∀ r ∈ lineRules, r.check (Document.ofLines [[]]) = [] := by decide
  rw [check_append_of_mem_lineRules mem (holds_ofLines (ls ++ [[]])) (holds_ofLines ls)
    (holds_ofLines [[]]), silent r mem, List.map_nil, List.append_nil]

lemma checkDocumentation_snoc_empty (ls : List Text) :
    checkDocumentation (Document.ofLines (ls ++ [[]])) =
      checkDocumentation (Document.ofLines ls) := by
  have nothing (last : Option Text) (index : Nat) : bareFrom last index [[]] = [] := rfl
  rw [checkDocumentation_of_holds (holds_ofLines (ls ++ [[]])), bareFrom_append, nothing,
    List.append_nil, checkDocumentation_of_holds (holds_ofLines ls)]

lemma checkSubroutinePresence_snoc_empty (ls : List Text) :
    checkSubroutinePresence (Document.ofLines (ls ++ [[]])) =
      checkSubroutinePresence (Document.ofLines ls) := by
  have any (ms : List Text) : ((Document.ofLines ms).lines.any fun l =>
      Declaration.isSignature l.raw) = ms.any Declaration.isSignature := by
    conv_rhs => rw [← rawLines_ofLines ms, Document.rawLines, List.any_map]
    rfl
  have none : [([] : Text)].any Declaration.isSignature = false := rfl
  rw [checkSubroutinePresence, any, List.any_append, none, Bool.or_false, ← any,
    checkSubroutinePresence]

/-! ## One line, and any number of them -/

/-- One empty line at the end changes what no rule but the one about repetition reports. -/
theorem check_snoc_empty {r : Rule} (other : r ≠ duplicateBlock) (ls : List Text) :
    r.check (Document.ofLines (ls ++ [[]])) = r.check (Document.ofLines ls) := by
  cases r with
  | methodNaming => exact check_snoc_empty_of_mem_lineRules (by decide) ls
  | publicStaticField => exact check_snoc_empty_of_mem_lineRules (by decide) ls
  | mediaAttribute => exact check_snoc_empty_of_mem_lineRules (by decide) ls
  | duplicateBlock => exact absurd rfl other
  | collectionPresence =>
    simp only [check, checkCollectionPresence, Document.ofLines, collection_snoc_empty]
  | loopPresence => simp only [check, checkLoopPresence, Document.ofLines, loop_snoc_empty]
  | magicNumber => exact check_snoc_empty_of_mem_lineRules (by decide) ls
  | subroutineSpacing =>
    simp only [check, checkSubroutineSpacing, rawLines_ofLines, sweep_snoc_empty]
  | documentation => exact checkDocumentation_snoc_empty ls
  | subroutinePresence => exact checkSubroutinePresence_snoc_empty ls

theorem check_append_empty {r : Rule} (other : r ≠ duplicateBlock) (ls : List Text) (k : Nat) :
    r.check (Document.ofLines (ls ++ List.replicate k [])) = r.check (Document.ofLines ls) := by
  induction k with
  | zero => rw [List.replicate_zero, List.append_nil]
  | succ k ih =>
    rw [List.replicate_succ', ← List.append_assoc, check_snoc_empty other, ih]

end Rule

lemma map_trim_of_blanks {tail : List Text} (blank : ∀ l ∈ tail, Blanks l) :
    tail.map trim = List.replicate tail.length [] := by
  rw [List.map_eq_replicate_iff]
  intro l mem
  rw [trim, trimStart_eq_nil (blank l mem)]
  rfl

/-- Lines of blanks at the end of a text change what no rule but the one about repetition
reports. -/
theorem blank_tail_never_reported {t t' : Text} {tail : List Text} (blank : ∀ l ∈ tail, Blanks l)
    (longer : (Document.ofText t').rawLines = (Document.ofText t).rawLines ++ tail) {r : Rule}
    (other : r ≠ .duplicateBlock) :
    (analyzeText t').forRule r.number = (analyzeText t).forRule r.number := by
  rw [Document.rawLines_ofText, Document.rawLines_ofText] at longer
  have settled : (splitLines t').map trim =
      (splitLines t).map trim ++ List.replicate tail.length [] := by
    rw [longer, List.map_append, map_trim_of_blanks blank]
  calc (analyzeText t').forRule r.number
      = r.check (Document.ofText t') := forRule_analyzeText t' r
    _ = r.check (Document.ofLines ((splitLines t').map trim)) :=
        (Rule.check_settled (settles_ofText t') r).symm
    _ = r.check (Document.ofLines ((splitLines t).map trim)) := by
        rw [settled, Rule.check_append_empty other]
    _ = r.check (Document.ofText t) := Rule.check_settled (settles_ofText t) r
    _ = (analyzeText t).forRule r.number := (forRule_analyzeText t r).symm

/-- A method right above a field, without a line break at the end. -/
def fieldBelowMethod : Text := "public void Run()\n\x7b\n\x7d\nint x;".toList

/-- The field crowds the method, whatever blank lines follow. -/
theorem blank_tail_below_field :
    (analyzeText (fieldBelowMethod ++ "\n \n\n\t".toList)).forRule 8 =
      [Rule.spacingViolation 2] := by
  have blank : ∀ l ∈ [" ".toList, [], "\t".toList], Blanks l := by
    have all : [" ".toList, [], "\t".toList].all (·.all isBlank) = true := by decide
    intro l mem
    exact List.all_eq_true.mp (List.all_eq_true.mp all l mem)
  have longer : (Document.ofText (fieldBelowMethod ++ "\n \n\n\t".toList)).rawLines =
      (Document.ofText fieldBelowMethod).rawLines ++ [" ".toList, [], "\t".toList] := by
    decide +kernel
  have before : Rule.check .subroutineSpacing (Document.ofText fieldBelowMethod) =
      [Rule.spacingViolation 2] := by
    decide +kernel
  have same := blank_tail_never_reported blank longer
    (show Rule.subroutineSpacing ≠ .duplicateBlock by decide)
  exact same.trans ((forRule_analyzeText fieldBelowMethod .subroutineSpacing).trans before)

end StyleGate
