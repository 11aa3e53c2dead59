import Mathlib.Data.List.Flatten
import StyleGate.Proofs.Analysis.TrimmedLines

/-!
# Which blocks count as repeated

The search keeps the long blocks that it has passed and stops at the first long block that is among
them and holds more than braces. So it finds the least line at which such a block begins, and lines
further down do not change what was found. A block is known by its characters alone: two blocks that
read alike may break their lines in different places.
-/

namespace StyleGate

open Text

/-- The lines without the blanks at their ends. -/
def Document.trimmedLines (d : Document) : List Text := d.lines.map Line.trimmed

namespace Rule

/-- The three lines from line `s` on, counted from zero, or what is left of them. -/
def window (lines : List Text) (s : Nat) : List Text := (lines.drop s).take 3

def block (lines : List Text) (s : Nat) : Text := (window lines s).flatten

/-- The block that begins at line `s` counts, and an earlier block reads the same. -/
structure RepeatsBlock (lines : List Text) (s : Nat) : Prop where
  inside : s + 3 ≤ lines.length
  long : 10 ≤ (block lines s).length
  code : ∃ c ∈ block lines s, c ≠ '{' ∧ c ≠ '}'
  earlier : ∃ r < s, block lines r = block lines s

instance (lines : List Text) (s : Nat) : Decidable (RepeatsBlock lines s) :=
  -- A search through the block: the one through all characters does not evaluate.
  have : Decidable (∃ c ∈ block lines s, c ≠ '{' ∧ c ≠ '}') := List.decidableBEx _ _
  decidable_of_iff (s + 3 ≤ lines.length ∧ 10 ≤ (block lines s).length ∧
      (∃ c ∈ block lines s, c ≠ '{' ∧ c ≠ '}') ∧ ∃ r < s, block lines r = block lines s)
    ⟨fun ⟨inside, long, code, earlier⟩ => ⟨inside, long, code, earlier⟩,
      fun ⟨inside, long, code, earlier⟩ => ⟨inside, long, code, earlier⟩⟩

/-- Lines further down do not reach into a block. -/
lemma window_of_prefix {lines more : List Text} (front : lines <+: more) {s : Nat}
    (inside : s + 3 ≤ lines.length) : window more s = window lines s := by
  obtain ⟨rest, rfl⟩ := front
  have whole : 3 ≤ (lines.drop s).length := by
    rw [List.length_drop]
    omega
  rw [window, List.drop_append_of_le_length (by omega), List.take_append_of_le_length whole, window]

lemma RepeatsBlock.of_prefix_iff {lines more : List Text} (front : lines <+: more) {s : Nat}
    (inside : s + 3 ≤ lines.length) : RepeatsBlock more s ↔ RepeatsBlock lines s := by
  have same {r : Nat} (hr : r ≤ s) : block more r = block lines r := by
    rw [block, window_of_prefix front (by omega), block]
  have fewer := front.length_le
  have earlier : (∃ r < s, block more r = block lines s) ↔
      ∃ r < s, block lines r = block lines s := by
    refine exists_congr fun r => and_congr_right fun hr => ?_
    rw [same (by omega)]
  constructor
  · rintro ⟨-, long, code, before⟩
    rw [same (Nat.le_refl s)] at long code before
    exact ⟨inside, long, code, earlier.mp before⟩
  · rintro ⟨-, long, code, before⟩
    rw [← same (Nat.le_refl s)] at long code
    refine ⟨by omega, long, code, ?_⟩
    rw [same (Nat.le_refl s)]
    exact earlier.mpr before

/-! ## One step of the search -/

/-- The blocks kept are the long ones that begin before line `s`. -/
def Keeps (seen : Std.HashSet String) (lines : List Text) (s : Nat) : Prop :=
  ∀ b : Text, seen.contains (String.ofList b) = true ↔
    shortestBlock ≤ b.length ∧ ∃ r < s, block lines r = b

lemma keeps_empty (lines : List Text) : Keeps ∅ lines 0 := by
  intro b
  simp

lemma Keeps.skip {seen : Std.HashSet String} {lines : List Text} {s : Nat}
    (keeps : Keeps seen lines s)
    (known : shortestBlock ≤ (block lines s).length → ∃ r < s, block lines r = block lines s) :
    Keeps seen lines (s + 1) := by
  intro b
  rw [keeps b]
  refine and_congr_right fun long => ⟨fun ⟨r, hr, same⟩ => ⟨r, by omega, same⟩, ?_⟩
  rintro ⟨r, hr, rfl⟩
  by_cases last : r = s
  · rw [last] at long ⊢
    exact known long
  · exact ⟨r, by omega, rfl⟩

lemma Keeps.insert {seen : Std.HashSet String} {lines : List Text} {s : Nat}
    (keeps : Keeps seen lines s) (long : shortestBlock ≤ (block lines s).length) :
    Keeps (seen.insert (String.ofList (block lines s))) lines (s + 1) := by
  intro b
  rw [Std.HashSet.contains_insert, Bool.or_eq_true, keeps b, beq_iff_eq, String.ofList_inj]
  constructor
  · rintro (rfl | ⟨long, r, hr, same⟩)
    · exact ⟨long, s, by omega, rfl⟩
    · exact ⟨long, r, by omega, same⟩
  · rintro ⟨long, r, hr, rfl⟩
    by_cases last : r = s
    · exact Or.inl (by rw [last])
    · exact Or.inr ⟨long, r, by omega, rfl⟩

/-- A block of lines ends in no line feed, so it is only braces if all of it is. -/
lemma isOnly_block_iff {lines : List Text} (feedless : ∀ l ∈ lines, '\n' ∉ l) {s : Nat}
    (visible : block lines s ≠ []) :
    Braces.isOnly (block lines s) = true ↔ ¬ ∃ c ∈ block lines s, c ≠ '{' ∧ c ≠ '}' := by
  have feed : '\n' ∉ block lines s := by
    intro mem
    obtain ⟨l, line, inLine⟩ := List.mem_flatten.mp mem
    exact feedless l (List.mem_of_mem_drop (List.mem_of_mem_take line)) inLine
  have last : (block lines s).getLast? ≠ some '\n' := fun h => feed (List.mem_of_getLast? h)
  simp only [Braces.isOnly, beq_iff_eq, last, if_false, Bool.and_eq_true, Bool.not_eq_true',
    List.isEmpty_eq_false_iff, visible, ne_eq, not_false_eq_true, true_and, List.all_eq_true,
    Bool.or_eq_true, not_exists, not_and, not_not]
  refine forall_congr' fun c => forall_congr' fun _ => ?_
  tauto

lemma drop_eq_window {lines : List Text} {s : Nat} (inside : s + 3 ≤ lines.length) :
    ∃ a b c rest, lines.drop s = a :: b :: c :: rest ∧ block lines s = a ++ (b ++ c) ∧
      lines.drop (s + 1) = b :: c :: rest := by
  have next : lines.drop (s + 1) = (lines.drop s).tail := by rw [List.tail_drop]
  have long : 3 ≤ (lines.drop s).length := by
    rw [List.length_drop]
    omega
  rw [next, block, window]
  rcases h : lines.drop s with _ | ⟨a, _ | ⟨b, _ | ⟨c, rest⟩⟩⟩
  · simp [h] at long
  · simp [h] at long
  · simp [h] at long
  · exact ⟨a, b, c, rest, rfl, by simp, rfl⟩

variable {lines : List Text} (feedless : ∀ l ∈ lines, '\n' ∉ l) {seen : Std.HashSet String}
  {s : Nat}
include feedless

/-- At a block that counts and was kept before, the search stops; it passes every other one. -/
lemma repeatFrom_step (keeps : Keeps seen lines s) (inside : s + 3 ≤ lines.length) :
    (RepeatsBlock lines s ∧ repeatFrom seen (s + 1) (lines.drop s) = some (s + 1)) ∨
    (¬ RepeatsBlock lines s ∧ ∃ seen', Keeps seen' lines (s + 1) ∧
      repeatFrom seen (s + 1) (lines.drop s) =
        repeatFrom seen' (s + 1 + 1) (lines.drop (s + 1))) := by
  obtain ⟨a, b, c, rest, here, together, next⟩ := drop_eq_window inside
  rw [here, next, repeatFrom, ← together]
  by_cases short : (block lines s).length < shortestBlock
  · refine Or.inr ⟨fun h => Nat.not_lt.mpr h.long short, seen, keeps.skip ?_, if_pos short⟩
    intro long
    omega
  · have long : shortestBlock ≤ (block lines s).length := by omega
    have visible : block lines s ≠ [] :=
      List.ne_nil_of_length_pos (Nat.lt_of_lt_of_le (by decide) long)
    rw [if_neg short]
    by_cases known : seen.contains (String.ofList (block lines s)) = true
    · obtain ⟨-, earlier⟩ := (keeps _).mp known
      by_cases only : Braces.isOnly (block lines s) = true
      · refine Or.inr ⟨fun h => (isOnly_block_iff feedless visible).mp only h.code, seen,
          keeps.skip fun _ => earlier, ?_⟩
        simp [known, only]
      · refine Or.inl ⟨⟨inside, long, ?_, earlier⟩, by simp [known, only]⟩
        exact not_not.mp (mt (isOnly_block_iff feedless visible).mpr only)
    · refine Or.inr ⟨fun h => known ((keeps _).mpr ⟨long, h.earlier⟩), _, keeps.insert long, ?_⟩
      simp [known]

/-! ## The whole search -/

omit feedless in
/-- What a search from line `s` on is to answer. -/
def Answers (lines : List Text) (s : Nat) : Option Nat → Prop
  | none => ∀ k, s ≤ k → ¬ RepeatsBlock lines k
  | some n => ∃ k, n = k + 1 ∧ s ≤ k ∧ RepeatsBlock lines k ∧
      ∀ j, s ≤ j → j < k → ¬ RepeatsBlock lines j

omit feedless in
lemma Answers.back {answer : Option Nat} (other : ¬ RepeatsBlock lines s)
    (answers : Answers lines (s + 1) answer) : Answers lines s answer := by
  have extend {j : Nat} (hj : s ≤ j) (later : s + 1 ≤ j → ¬ RepeatsBlock lines j) :
      ¬ RepeatsBlock lines j := by
    by_cases first : j = s
    · rwa [first]
    · exact later (by omega)
  cases answer with
  | none => exact fun k hk => extend hk (answers k)
  | some n =>
    obtain ⟨k, rfl, hk, repeats, least⟩ := answers
    exact ⟨k, rfl, by omega, repeats, fun j hj hjk => extend hj fun hj' => least j hj' hjk⟩

omit feedless in
/-- Where fewer than three lines are left, no block begins. -/
lemma answers_end (seen : Std.HashSet String) (few : lines.length < s + 3) :
    Answers lines s (repeatFrom seen (s + 1) (lines.drop s)) := by
  have short : (lines.drop s).length < 3 := by
    rw [List.length_drop]
    omega
  have stops : repeatFrom seen (s + 1) (lines.drop s) = none := by
    rcases left : lines.drop s with _ | ⟨a, _ | ⟨b, _ | ⟨c, rest⟩⟩⟩
    · rfl
    · rfl
    · rfl
    · rw [left] at short
      simp only [List.length_cons] at short
      omega
  rw [stops]
  intro k hk repeats
  have := repeats.inside
  omega

theorem answers_repeatFrom (keeps : Keeps seen lines s) :
    Answers lines s (repeatFrom seen (s + 1) (lines.drop s)) := by
  induction left : lines.length - s generalizing s seen with
  | zero => exact answers_end seen (by omega)
  | succ left ih =>
    by_cases inside : s + 3 ≤ lines.length
    · rcases repeatFrom_step feedless keeps inside with
        ⟨repeats, stops⟩ | ⟨other, seen', keeps', goesOn⟩
      · rw [stops]
        exact ⟨s, rfl, Nat.le_refl s, repeats, by omega⟩
      · rw [goesOn]
        exact (ih keeps' (by omega)).back other
    · exact answers_end seen (by omega)

omit feedless

/-! ## What is reported -/

/-- The violation that names line `s`, counted from zero, as the start of a repeated block. -/
def repetitionViolation (s : Nat) : Violation :=
  ⟨duplicateBlock.number, duplicateBlockMessage (s + 1), some ((s + 1 : Nat) : Int)⟩

lemma repetitionViolation_inj {r s : Nat} (same : repetitionViolation r = repetitionViolation s) :
    r = s := by
  have line := congrArg Violation.line same
  simp only [repetitionViolation, Option.some.injEq] at line
  omega

/-- No earlier line begins a repeated block. -/
def FirstRepeat (lines : List Text) (s : Nat) : Prop :=
  RepeatsBlock lines s ∧ ∀ r < s, ¬ RepeatsBlock lines r

instance (lines : List Text) (s : Nat) : Decidable (FirstRepeat lines s) :=
  inferInstanceAs (Decidable (RepeatsBlock lines s ∧ ∀ r < s, ¬ RepeatsBlock lines r))

lemma FirstRepeat.unique {r s : Nat} (hr : FirstRepeat lines r) (hs : FirstRepeat lines s) :
    r = s := by
  have notBefore : ¬ r < s := fun before => hs.2 r before hr.1
  have notAfter : ¬ s < r := fun after => hr.2 s after hs.1
  omega

/-- More lines below keep the first repeated block where it is. -/
lemma FirstRepeat.of_prefix {more : List Text} (front : lines <+: more)
    (first : FirstRepeat lines s) : FirstRepeat more s := by
  have inside := first.1.inside
  refine ⟨(RepeatsBlock.of_prefix_iff front inside).mpr first.1, ?_⟩
  intro r hr repeats
  exact first.2 r hr ((RepeatsBlock.of_prefix_iff front (by omega)).mp repeats)

lemma trimmedLines_ofText (t : Text) :
    (Document.ofText t).trimmedLines = (Document.ofText t).rawLines.map trim := by
  rw [Document.trimmedLines, Document.rawLines, List.map_map]
  rfl

lemma feedless_trimmedLines (t : Text) : ∀ l ∈ (Document.ofText t).trimmedLines, '\n' ∉ l := by
  intro l line feed
  rw [Document.trimmedLines, trimmed_ofText] at line
  obtain ⟨raw, mem, rfl⟩ := List.mem_map.mp line
  obtain ⟨v, w, -, -, whole⟩ := exists_blanks_trim_blanks raw
  refine ((laidOut_splitLines t).breakFree raw mem).1 ?_
  rw [whole]
  simp [feed]

/-- One violation at the first repeated block, or none because there is no such block. -/
theorem checkDuplicateBlock_cases (t : Text) :
    (∃ s, FirstRepeat (Document.ofText t).trimmedLines s ∧
      checkDuplicateBlock (Document.ofText t) = [repetitionViolation s]) ∨
    ((∀ s, ¬ RepeatsBlock (Document.ofText t).trimmedLines s) ∧
      checkDuplicateBlock (Document.ofText t) = []) := by
  have answers : Answers (Document.ofText t).trimmedLines 0 (firstRepeat? (Document.ofText t)) :=
    answers_repeatFrom (feedless_trimmedLines t) (keeps_empty _)
  rw [checkDuplicateBlock]
  cases found : firstRepeat? (Document.ofText t) with
  | none =>
    rw [found] at answers
    exact Or.inr ⟨fun s => answers s (Nat.zero_le s), rfl⟩
  | some n =>
    rw [found] at answers
    obtain ⟨s, rfl, -, repeats, least⟩ := answers
    exact Or.inl ⟨s, ⟨repeats, fun r hr => least r (Nat.zero_le r) hr⟩, rfl⟩

lemma checkDuplicateBlock_of_first {t : Text}
    (first : FirstRepeat (Document.ofText t).trimmedLines s) :
    checkDuplicateBlock (Document.ofText t) = [repetitionViolation s] := by
  rcases checkDuplicateBlock_cases t with ⟨r, firstR, reported⟩ | ⟨none, -⟩
  · rw [reported, firstR.unique first]
  · exact False.elim (none s first.1)

lemma first_of_checkDuplicateBlock {t : Text}
    (reported : checkDuplicateBlock (Document.ofText t) = [repetitionViolation s]) :
    FirstRepeat (Document.ofText t).trimmedLines s := by
  rcases checkDuplicateBlock_cases t with ⟨r, first, reported'⟩ | ⟨-, nothing⟩
  · rw [reported] at reported'
    rwa [repetitionViolation_inj (List.singleton_inj.mp reported')]
  · rw [reported] at nothing
    cases nothing

end Rule

open Rule

/-- One violation is reported, at the least line at which a block begins that has ten characters,
not all of them braces, and reads like an earlier block. Nothing is reported if there is none.
Lines appended to a document with a repeated block leave the report of it as it is. -/
theorem first_repeated_block_reported (t : Text) :
    (∀ s, checkDuplicateBlock (Document.ofText t) = [repetitionViolation s] ↔
      RepeatsBlock (Document.ofText t).trimmedLines s ∧
        ∀ r < s, ¬ RepeatsBlock (Document.ofText t).trimmedLines r) ∧
    (checkDuplicateBlock (Document.ofText t) = [] ↔
      ¬ ∃ s, RepeatsBlock (Document.ofText t).trimmedLines s) ∧
    ∀ t', (Document.ofText t).rawLines <+: (Document.ofText t').rawLines →
      checkDuplicateBlock (Document.ofText t) ≠ [] →
      checkDuplicateBlock (Document.ofText t') = checkDuplicateBlock (Document.ofText t) := by
  refine ⟨fun s => ⟨first_of_checkDuplicateBlock, checkDuplicateBlock_of_first⟩, ?_, ?_⟩
  · rcases checkDuplicateBlock_cases t with ⟨s, first, reported⟩ | ⟨none, nothing⟩
    · rw [reported]
      exact ⟨fun h => absurd h (List.cons_ne_nil _ _), fun h => absurd ⟨s, first.1⟩ h⟩
    · rw [nothing]
      exact ⟨fun _ ⟨s, repeats⟩ => none s repeats, fun _ => rfl⟩
  · intro t' front fires
    rcases checkDuplicateBlock_cases t with ⟨s, first, reported⟩ | ⟨-, nothing⟩
    · have front' : (Document.ofText t).trimmedLines <+: (Document.ofText t').trimmedLines := by
        rw [trimmedLines_ofText, trimmedLines_ofText]
        exact front.map trim
      rw [reported, checkDuplicateBlock_of_first (first.of_prefix front')]
    · exact absurd nothing fires

/-- Three statements, and the same three again with other blanks. -/
def threeTwice : Text := "a += 1;\nb += 1;\nc += 1;\n  a += 1;\n  b += 1;\n\tc += 1;\n".toList

/-- The second copy begins at the fourth line, whatever follows: here the first two statements once
more, which repeat two further blocks. -/
theorem second_copy_reported :
    checkDuplicateBlock (Document.ofText threeTwice) = [repetitionViolation 3] ∧
      checkDuplicateBlock (Document.ofText (threeTwice ++ "a += 1;\nb += 1;".toList)) =
        [repetitionViolation 3] := by
  obtain ⟨exact_at, -, appended⟩ := first_repeated_block_reported threeTwice
  have reported := (exact_at 3).mpr (by decide)
  refine ⟨reported, ?_⟩
  rw [← reported]
  exact appended _ (by decide) (by rw [reported]; exact List.cons_ne_nil _ _)

/-- A reported block and an earlier one read the same, character by character. They are the same
three lines exactly if they break in the same places. -/
theorem reported_block_reads_like_earlier {t : Text} {v : Violation}
    (reported : v ∈ checkDuplicateBlock (Document.ofText t)) :
    ∃ m n : Nat, m < n ∧ v.line = some ((n : Int) + 1) ∧
      n + 3 ≤ (Document.ofText t).trimmedLines.length ∧
      (window (Document.ofText t).trimmedLines m).flatten =
        (window (Document.ofText t).trimmedLines n).flatten ∧
      (window (Document.ofText t).trimmedLines m = window (Document.ofText t).trimmedLines n ↔
        (window (Document.ofText t).trimmedLines m).map List.length =
          (window (Document.ofText t).trimmedLines n).map List.length) := by
  rcases checkDuplicateBlock_cases t with ⟨n, first, named⟩ | ⟨-, nothing⟩
  · rw [named, List.mem_singleton] at reported
    obtain ⟨m, hmn, alike⟩ := first.1.earlier
    refine ⟨m, n, hmn, by rw [reported]; rfl, first.1.inside, alike, ?_⟩
    rw [List.eq_iff_flatten_eq]
    exact and_iff_right alike
  · rw [nothing] at reported
    cases reported

/-- Two statements between blank lines. -/
def betweenBlanks : Text := "\nint a = 1;\nint b = 2;\n\n".toList

lemma checkDuplicateBlock_betweenBlanks :
    checkDuplicateBlock (Document.ofText betweenBlanks) = [repetitionViolation 1] :=
  checkDuplicateBlock_of_first (by decide)

/-- The statements with the blank line below read like the same statements with the one above. -/
theorem report_behind_shifted_lines :
    repetitionViolation 1 ∈ checkDuplicateBlock (Document.ofText betweenBlanks) ∧
      ∃ m < 1, (window (Document.ofText betweenBlanks).trimmedLines m).flatten =
        (window (Document.ofText betweenBlanks).trimmedLines 1).flatten := by
  have reported : repetitionViolation 1 ∈ checkDuplicateBlock (Document.ofText betweenBlanks) := by
    rw [checkDuplicateBlock_betweenBlanks]
    exact List.mem_singleton_self _
  obtain ⟨m, n, hmn, line, -, alike, -⟩ := reported_block_reads_like_earlier reported
  obtain rfl : n = 1 := by
    have := Option.some.inj line
    omega
  exact ⟨reported, m, hmn, alike⟩

/-- No three lines stand there twice, and yet a repetition is reported. -/
theorem reported_lines_not_repeated :
    ¬ ∀ v ∈ checkDuplicateBlock (Document.ofText betweenBlanks), ∃ m n : Nat, m < n ∧
      v.line = some ((n : Int) + 1) ∧
        window (Document.ofText betweenBlanks).trimmedLines m =
          window (Document.ofText betweenBlanks).trimmedLines n := by
  intro same
  rw [checkDuplicateBlock_betweenBlanks] at same
  obtain ⟨m, n, hmn, line, lines⟩ := same _ (List.mem_singleton_self _)
  obtain rfl : n = 1 := by
    have := Option.some.inj line
    omega
  obtain rfl : m = 0 := by omega
  exact absurd lines (by decide)

end StyleGate
