import StyleGate.Proofs.Analysis.Methods
import StyleGate.Proofs.Rule.Advice
import StyleGate.Proofs.Rule.Repetition

/-!
# Reading by index

Three rules can be told through indices: the lines after the end of a body, the three lines of a
block, and the first character of a name. Read in this way, with a failure for each index that is
out of range, the rules never fail and find what they find. So every line that a report names is a
line of the document, with one line below it where a body ends and two where a block begins.
-/

namespace StyleGate

open Text

/-- A place that a list does not have. -/
structure OutOfRange where
  index : Nat
  count : Nat
  deriving DecidableEq, Repr

namespace Indexed

/-- The member with this index, counted from zero. -/
def read {α : Type} (xs : List α) (index : Nat) : Except OutOfRange α :=
  match xs[index]? with
  | some x => .ok x
  | none => .error ⟨index, xs.length⟩

lemma read_eq_ok {α : Type} {xs : List α} {index : Nat} {x : α} (there : xs[index]? = some x) :
    read xs index = .ok x := by
  simp only [read, there]

/-- Where every judgement comes through, so does the list of what they find. -/
lemma filterMapM_eq_ok {α β : Type} {judge : α → Except OutOfRange (Option β)} {f : α → Option β}
    {xs : List α} (judged : ∀ x ∈ xs, judge x = .ok (f x)) :
    xs.filterMapM judge = .ok (xs.filterMap f) := by
  induction xs with
  | nil => rfl
  | cons x xs ih =>
    have first := judged x List.mem_cons_self
    have rest := ih fun y mem => judged y (List.mem_cons_of_mem x mem)
    simp only [List.filterMapM_cons, List.filterMap_cons, first, rest, bind, Except.bind]
    cases f x with
    | none => rfl
    | some b => rfl

/-! ## The end of a body and the lines after it -/

/-- Where the body closes, reading `left` lines from `index` on. -/
def bodyEnd (lines : List Text) : Nat → Nat → Int → Bool → Except OutOfRange (Option Nat)
  | 0, _, _, _ => .ok none
  | left + 1, index, depth, inside => do
    let l ← read lines index
    let inside := inside || 0 < Braces.opening l
    let depth := depth + (Braces.opening l - Braces.closing l)
    if inside && depth == 0 then return some index
    else bodyEnd lines left (index + 1) depth inside

/-- Too little space, told from the first line after a body and the second one, if there is one. -/
def tight (first : Text) (second : Option Text) : Bool :=
  if first == "\x7d".toList then false
  else if first == [] && second == none then false
  else if first == [] && second == some [] then false
  else true

/-- Too little space after line `e`: two lines are looked at, if they are there. -/
def crowdedAfter (lines : List Text) (e : Nat) : Except OutOfRange Bool := do
  if lines.length ≤ e + 1 then return false
  let first ← read lines (e + 1)
  let second ← if e + 2 < lines.length then some <$> read lines (e + 2) else pure none
  return tight (trim first) (second.map trim)

def spacingAt (lines : List Text) (index : Nat) : Except OutOfRange (Option Violation) := do
  let l ← read lines index
  if !Declaration.isSignature l then return none
  match ← bodyEnd lines (lines.length - index) index 0 false with
  | none => return none
  | some e => if ← crowdedAfter lines e then return some (Rule.spacingViolation e) else return none

/-- The scan stays among the lines and stops where the scan of the rest stops. -/
lemma exists_bodyEnd (lines : List Text) {left index : Nat} (whole : index + left = lines.length)
    (depth : Int) (inside : Bool) :
    ∃ found, bodyEnd lines left index depth inside = .ok found ∧
      Braces.closeFrom index depth inside (lines.drop index) =
        found.map fun e : Nat => ⟨e, lines.drop (e + 1)⟩ := by
  induction left generalizing index depth inside with
  | zero =>
    have done : lines.drop index = [] := List.drop_eq_nil_of_le (by omega)
    exact ⟨none, rfl, by simp only [done]; rfl⟩
  | succ left ih =>
    have here : index < lines.length := by omega
    have there : lines[index]? = some lines[index] := List.getElem?_eq_getElem here
    have split : lines.drop index = lines[index] :: lines.drop (index + 1) :=
      List.drop_eq_getElem_cons here
    simp only [bodyEnd, read_eq_ok there, split, Braces.closeFrom, bind, Except.bind, pure,
      Except.pure]
    split
    · exact ⟨some index, rfl, rfl⟩
    · exact ih (by omega) _ _

lemma tight_eq (first : Text) (second : Option Text) :
    tight first second = (first != ['}'] && (first != [] || second.any (· != []))) := by
  have brace : "\x7d".toList = ['}'] := rfl
  simp only [tight, brace]
  by_cases closed : first = ['}']
  · simp [closed]
  · by_cases blank : first = []
    · subst blank
      rcases second with _ | ⟨_ | ⟨c, l⟩⟩
      · rfl
      · rfl
      · rfl
    · simp [closed, blank]

lemma crowded_eq_tight (a : Text) (rest : List Text) :
    Rule.crowded (a :: rest) = tight (trim a) (rest.head?.map trim) := by
  simp only [Rule.crowded_cons, tight_eq, Option.any_map]

lemma crowdedAfter_eq_ok (lines : List Text) (e : Nat) :
    crowdedAfter lines e = .ok (Rule.crowded (lines.drop (e + 1))) := by
  have count : (lines.drop (e + 1)).length = lines.length - (e + 1) := List.length_drop
  have there (k : Nat) : lines[e + 1 + k]? = (lines.drop (e + 1))[k]? := List.getElem?_drop.symm
  rcases after : lines.drop (e + 1) with _ | ⟨a, rest⟩
  · simp only [after, List.length_nil] at count
    have last : lines.length ≤ e + 1 := by omega
    simp only [crowdedAfter, last, if_true]
    rfl
  · simp only [after, List.length_cons] at count
    have more : ¬ lines.length ≤ e + 1 := by omega
    have first : lines[e + 1]? = some a := by simpa [after] using there 0
    cases rest with
    | nil =>
      simp only [List.length_nil] at count
      have alone : ¬ e + 2 < lines.length := by omega
      simp only [crowdedAfter, more, alone, read_eq_ok first, crowded_eq_tight, if_false]
      rfl
    | cons b rest =>
      simp only [List.length_cons] at count
      have both : e + 2 < lines.length := by omega
      have second : lines[e + 2]? = some b := by simpa [after] using there 1
      simp only [crowdedAfter, more, both, read_eq_ok first, read_eq_ok second, crowded_eq_tight,
        if_false, if_true]
      rfl

lemma spacingAt_eq_ok {lines : List Text} {index : Nat} (inside : index < lines.length) :
    spacingAt lines index = .ok (Rule.subroutineSpacingAt index (lines.drop index)) := by
  have there : lines[index]? = some lines[index] := List.getElem?_eq_getElem inside
  have split : lines.drop index = lines[index] :: lines.drop (index + 1) :=
    List.drop_eq_getElem_cons inside
  have whole : index + (lines.length - index) = lines.length := by omega
  obtain ⟨found, ends, closes⟩ := exists_bodyEnd lines whole 0 false
  simp only [split] at closes
  cases signature : Declaration.isSignature lines[index] with
  | false =>
    simp only [spacingAt, read_eq_ok there, signature, split, Rule.subroutineSpacingAt, Rule.bodyAt,
      bind, Except.bind]
    rfl
  | true =>
    simp only [spacingAt, read_eq_ok there, ends, signature, split, Rule.subroutineSpacingAt,
      Rule.bodyAt, closes, if_true, bind, Except.bind]
    cases found with
    | none => rfl
    | some e =>
      simp only [crowdedAfter_eq_ok, Option.map_some]
      cases Rule.crowded (lines.drop (e + 1)) with
      | false => rfl
      | true => rfl

/-- The spacing rule by index. -/
def spacing (d : Document) : Except OutOfRange (List Violation) :=
  (List.range d.rawLines.length).filterMapM (spacingAt d.rawLines)

lemma spacing_eq_ok (d : Document) : spacing d = .ok (Rule.check .subroutineSpacing d) := by
  have judged : ∀ i ∈ List.range d.rawLines.length,
      spacingAt d.rawLines i = .ok (Rule.subroutineSpacingAt i (d.rawLines.drop i)) :=
    fun i mem => spacingAt_eq_ok (List.mem_range.mp mem)
  have found := filterMapM_eq_ok judged
  simp only [← Rule.checkSubroutineSpacing_eq] at found
  exact found

/-! ## The lines of a block -/

/-- The number of the first line of the first repeated block, of the `left` blocks from line `start`
on with the blocks `seen` before. -/
def firstRepeat (lines : List Text) :
    Nat → Std.HashSet String → Nat → Except OutOfRange (Option Nat)
  | 0, _, _ => .ok none
  | left + 1, seen, start => do
    let block := (← (List.range' start 3).mapM (read lines)).flatten
    if block.length < Rule.shortestBlock then firstRepeat lines left seen (start + 1)
    else if !seen.contains (String.ofList block) then
      firstRepeat lines left (seen.insert (String.ofList block)) (start + 1)
    else if Braces.isOnly block then firstRepeat lines left seen (start + 1)
    else return some (start + 1)

/-- The rule about repetition by index. Where there are fewer than three lines there is no block. -/
def repetition (d : Document) : Except OutOfRange (List Violation) := do
  match ← firstRepeat d.trimmedLines (d.trimmedLines.length - 2) ∅ 0 with
  | some n =>
    return [⟨Rule.duplicateBlock.number, Rule.duplicateBlockMessage n, some (n : Int)⟩]
  | none => return []

lemma repeatFrom_of_few {ls : List Text} (few : ls.length < 3) (seen : Std.HashSet String)
    (n : Nat) : Rule.repeatFrom seen n ls = none := by
  rcases ls with _ | ⟨a, _ | ⟨b, _ | ⟨c, rest⟩⟩⟩
  · rfl
  · rfl
  · rfl
  · simp only [List.length_cons] at few
    omega

lemma firstRepeat_eq_ok (lines : List Text) {left start : Nat}
    (whole : start + left = lines.length - 2) (seen : Std.HashSet String) :
    firstRepeat lines left seen start =
      .ok (Rule.repeatFrom seen (start + 1) (lines.drop start)) := by
  induction left generalizing start seen with
  | zero =>
    have few : (lines.drop start).length < 3 := by
      simp only [List.length_drop]
      omega
    simp only [firstRepeat, repeatFrom_of_few few]
  | succ left ih =>
    have inside : start + 3 ≤ lines.length := by omega
    obtain ⟨a, b, c, rest, here, -, next⟩ := Rule.drop_eq_window inside
    have there (k : Nat) : lines[start + k]? = (a :: b :: c :: rest)[k]? := by
      simp only [← here, List.getElem?_drop]
    have block : (List.range' start 3).mapM (read lines) = .ok [a, b, c] := by
      have first : read lines start = .ok a := read_eq_ok (there 0)
      have second : read lines (start + 1) = .ok b := read_eq_ok (there 1)
      have third : read lines (start + 1 + 1) = .ok c := read_eq_ok (there 2)
      simp only [List.range'_succ, List.range'_zero, List.mapM_cons, List.mapM_nil, first, second,
        third]
      rfl
    have shorter : start + 1 + left = lines.length - 2 := by omega
    have later (seen : Std.HashSet String) := ih shorter seen
    simp only [next] at later
    have together : [a, b, c].flatten = a ++ (b ++ c) := by simp
    simp only [firstRepeat, block, here, Rule.repeatFrom, later, together, bind, Except.bind]
    -- the same three questions in the same order on both sides
    split
    · rfl
    · split
      · rfl
      · split
        · rfl
        · rfl

lemma repetition_eq_ok (d : Document) : repetition d = .ok (Rule.check .duplicateBlock d) := by
  have whole : 0 + (d.trimmedLines.length - 2) = d.trimmedLines.length - 2 := Nat.zero_add _
  have found := firstRepeat_eq_ok d.trimmedLines whole ∅
  have same : Rule.firstRepeat? d = Rule.repeatFrom ∅ (0 + 1) (d.trimmedLines.drop 0) := rfl
  simp only [← same] at found
  simp only [repetition, found, Rule.check, Rule.checkDuplicateBlock, bind, Except.bind]
  cases Rule.firstRepeat? d with
  | none => rfl
  | some n => rfl

/-! ## The first character of a name -/

def namingAt (l : Line) : Except OutOfRange (Option Violation) := do
  if !Declaration.isSignature l.raw then return none
  match Declaration.subroutineName? l.raw with
  | none => return none
  | some name =>
    if name.isEmpty || Declaration.isEntryPoint name then return none
    else if isLowercase (← read name 0) then
      return some ⟨Rule.methodNaming.number, Rule.methodNamingMessage name l.number,
        some (l.number : Int)⟩
    else return none

/-- The rule about names by index. -/
def naming (d : Document) : Except OutOfRange (List Violation) := d.lines.filterMapM namingAt

lemma namingAt_eq_ok (l : Line) :
    namingAt l = .ok ((Rule.methodNamingAt l).map fun message =>
      ⟨Rule.methodNaming.number, message, some (l.number : Int)⟩) := by
  cases signature : Declaration.isSignature l.raw with
  | false =>
    simp only [namingAt, Rule.methodNamingAt, Rule.misnamed?, signature]
    rfl
  | true =>
    simp only [namingAt, Rule.methodNamingAt, Rule.misnamed?, signature, if_true]
    rcases Declaration.subroutineName? l.raw with _ | ⟨_ | ⟨c, cs⟩⟩
    · rfl
    · rfl
    · have first : read (c :: cs) 0 = .ok c := rfl
      cases entry : Declaration.isEntryPoint (c :: cs) with
      | true => simp [entry, pure, Except.pure]
      | false =>
        cases lower : isLowercase c with
        | true => simp [entry, first, lower, bind, Except.bind, pure, Except.pure]
        | false => simp [entry, first, lower, bind, Except.bind, pure, Except.pure]

lemma naming_eq_ok (d : Document) : naming d = .ok (Rule.check .methodNaming d) :=
  filterMapM_eq_ok fun l _ => namingAt_eq_ok l

/-! ## All rules -/

/-- A rule by index; those that look at no index are as they are. -/
def check : Rule → Document → Except OutOfRange (List Violation)
  | .methodNaming, d => naming d
  | .duplicateBlock, d => repetition d
  | .subroutineSpacing, d => spacing d
  | r, d => .ok (r.check d)

/-- The analysis by index. -/
def analyzeText (t : Text) : Except OutOfRange Report := do
  return ⟨(← (Rule.inOrder Rule.all).mapM (check · (Document.ofText t))).flatten⟩

lemma check_eq_ok (r : Rule) (d : Document) : check r d = .ok (r.check d) := by
  cases r with
  | methodNaming => exact naming_eq_ok d
  | duplicateBlock => exact repetition_eq_ok d
  | subroutineSpacing => exact spacing_eq_ok d
  | _ => rfl

theorem analyzeText_eq_ok (t : Text) :
    analyzeText t = .ok (StyleGate.analyzeText t) := by
  have all : ∀ rules : List Rule, rules.mapM (check · (Document.ofText t)) =
      .ok (rules.map (Rule.check · (Document.ofText t))) := by
    intro rules
    induction rules with
    | nil => rfl
    | cons r rules ih =>
      have first := check_eq_ok r (Document.ofText t)
      simp only [List.mapM_cons, first, ih]
      rfl
  simp only [analyzeText, all, StyleGate.analyzeText, analyze, analyzeWith, List.flatMap_def]
  rfl

end Indexed

/-! ## Lines that are named -/

namespace Rule

/-- The rules about the whole text, which name no line. -/
def namesNoLine : Rule → Bool
  | .collectionPresence | .loopPresence | .subroutinePresence => true
  | _ => false

/-- How many lines are there at least below a line that the rule names. -/
def below : Rule → Nat
  | .duplicateBlock => 2
  | .subroutineSpacing => 1
  | _ => 0

lemma number_range (r : Rule) : 1 ≤ r.number ∧ r.number ≤ 10 := by
  cases r <;> decide

lemma namesNoLine_iff (r : Rule) :
    r.namesNoLine = true ↔ r.number = 5 ∨ r.number = 6 ∨ r.number = 10 := by
  cases r <;> decide

lemma below_of_number (r : Rule) :
    (r.number = 8 → r.below = 1) ∧ (r.number = 4 → r.below = 2) := by
  cases r <;> decide

/-- What the line of a violation of this rule may be in a document with `count` lines. -/
def Places (r : Rule) (count : Nat) (line : Option Int) : Prop :=
  if r.namesNoLine then line = none
  else ∃ n : Nat, line = some (n : Int) ∧ 1 ≤ n ∧ n + r.below ≤ count

variable {t : Text} {v : Violation}

lemma number_of_mem_lines {l : Line} (mem : l ∈ (Document.ofText t).lines) :
    1 ≤ l.number ∧ l.number ≤ (Document.ofText t).lines.length := by
  obtain ⟨i, there, number⟩ := mem_lines_ofText.mp mem
  have inside := (List.getElem?_eq_some_iff.mp there).1
  have count : (Document.ofText t).lines.length = (splitLines t).length := by
    simp [Document.ofText]
  omega

lemma exists_number_of_mem_eachLine {rule : Rule} {judge : Line → Option String}
    (found : v ∈ eachLine rule judge (Document.ofText t)) :
    ∃ n : Nat, v.line = some (n : Int) ∧ 1 ≤ n ∧ n ≤ (Document.ofText t).lines.length := by
  obtain ⟨l, mem, message, -, rfl⟩ := exists_line_of_mem_eachLine found
  exact ⟨l.number, rfl, number_of_mem_lines mem⟩

lemma line_of_mem_require {present : Bool} {rule : Rule} {message : String}
    (found : v ∈ require present rule message) : v.line = none := by
  cases present with
  | true => cases found
  | false =>
    have same : v = ⟨rule.number, message, none⟩ := List.mem_singleton.mp found
    simp only [same]

/-- A block is three lines. -/
lemma exists_number_of_mem_checkDuplicateBlock
    (found : v ∈ checkDuplicateBlock (Document.ofText t)) :
    ∃ n : Nat, v.line = some (n : Int) ∧ 1 ≤ n ∧
      n + 2 ≤ (Document.ofText t).lines.length := by
  rcases checkDuplicateBlock_cases t with ⟨s, first, reported⟩ | ⟨-, nothing⟩
  · simp only [reported, List.mem_singleton] at found
    have inside := first.1.inside
    simp only [Document.trimmedLines, List.length_map] at inside
    exact ⟨s + 1, by simp only [found, repetitionViolation], by omega, by omega⟩
  · simp [nothing] at found

/-- Where nothing follows a body, nothing is too close to it. -/
lemma exists_number_of_mem_checkSubroutineSpacing
    (found : v ∈ checkSubroutineSpacing (Document.ofText t)) :
    ∃ n : Nat, v.line = some (n : Int) ∧ 1 ≤ n ∧
      n + 1 ≤ (Document.ofText t).lines.length := by
  obtain ⟨i, e, crowds, rfl⟩ := exists_of_mem_checkSubroutineSpacing found
  have follows : (Document.ofText t).rawLines.drop (e + 1) ≠ [] := by
    intro nothing
    have tight := crowds.crowded
    simp [nothing, crowded] at tight
  have inside : e + 1 < (Document.ofText t).rawLines.length := by
    by_contra outside
    exact follows (List.drop_eq_nil_of_le (by omega))
  simp only [Document.rawLines, List.length_map] at inside
  exact ⟨e + 1, rfl, by omega, by omega⟩

/-- Every rule names lines of the document, or none at all. -/
theorem places_of_mem_check {r : Rule} (found : v ∈ r.check (Document.ofText t)) :
    r.Places (Document.ofText t).lines.length v.line := by
  cases r with
  | methodNaming => exact exists_number_of_mem_eachLine found
  | publicStaticField => exact exists_number_of_mem_eachLine found
  | mediaAttribute => exact exists_number_of_mem_eachLine found
  | duplicateBlock => exact exists_number_of_mem_checkDuplicateBlock found
  | collectionPresence => exact line_of_mem_require found
  | loopPresence => exact line_of_mem_require found
  | magicNumber => exact exists_number_of_mem_eachLine found
  | subroutineSpacing => exact exists_number_of_mem_checkSubroutineSpacing found
  | documentation =>
    obtain ⟨l, mem, line, -⟩ := exists_line_of_mem_checkDocumentation found
    exact ⟨l.number, line, number_of_mem_lines mem⟩
  | subroutinePresence => exact line_of_mem_require found

end Rule

open Rule

/-- Read by index, with a failure wherever an index is out of range, the analysis comes to its end
with the report. Every violation in it is that of one of the ten rules. The rules about the whole
text name no line, and all others name one of the document, with a line below it if the spacing
after a body is wrong, and two lines below it if a block is repeated. -/
theorem analysis_stays_within_lines (t : Text) :
    Indexed.analyzeText t = .ok (analyzeText t) ∧
    ∀ v ∈ (analyzeText t).violations,
      (1 ≤ v.rule ∧ v.rule ≤ 10) ∧
      (v.line = none ↔ v.rule = 5 ∨ v.rule = 6 ∨ v.rule = 10) ∧
      ∀ n, v.line = some n → 1 ≤ n ∧ n ≤ (Document.ofText t).lines.length ∧
        (v.rule = 8 → n ≤ (Document.ofText t).lines.length - 1) ∧
        (v.rule = 4 → n ≤ (Document.ofText t).lines.length - 2) := by
  refine ⟨Indexed.analyzeText_eq_ok t, ?_⟩
  intro v mem
  simp only [analyzeText, violations_analyze] at mem
  obtain ⟨r, -, found⟩ := List.mem_flatMap.mp mem
  have number : v.rule = r.number := rule_of_mem_check found
  have places := places_of_mem_check found
  have range := number_range r
  have spare := below_of_number r
  refine ⟨by omega, ?_⟩
  simp only [Places] at places
  by_cases whole : r.namesNoLine = true
  · have noLine := (namesNoLine_iff r).mp whole
    simp only [whole, if_true] at places
    refine ⟨⟨fun _ => by omega, fun _ => places⟩, ?_⟩
    intro n line
    simp [places] at line
  · have aLine := mt (namesNoLine_iff r).mpr whole
    simp only [whole, Bool.false_eq_true, if_false] at places
    obtain ⟨n, line, first, last⟩ := places
    refine ⟨⟨fun none => by simp [line] at none, fun own => absurd own (by omega)⟩, ?_⟩
    intro m same
    have same : (n : Int) = m := Option.some.inj (line.symm.trans same)
    omega

/-- The body of a method ends one line above the end, and the last three lines repeat the first. -/
def nearTheEnd : Text :=
  "public void Run() \x7b\n\x7d\nint x;\npublic void Run() \x7b\n\x7d\nint x;".toList

/-- The two violations that need lines below them have just enough of them. -/
theorem lines_named_near_the_end :
    spacingViolation 4 ∈ (analyzeText nearTheEnd).violations ∧
    repetitionViolation 3 ∈ (analyzeText nearTheEnd).violations ∧
    (Document.ofText nearTheEnd).lines.length = 6 ∧
    (5 : Int) ≤ (Document.ofText nearTheEnd).lines.length - 1 ∧
    (4 : Int) ≤ (Document.ofText nearTheEnd).lines.length - 2 := by
  obtain ⟨-, bounds⟩ := analysis_stays_within_lines nearTheEnd
  have reported {r : Rule} {v : Violation} (found : v ∈ r.check (Document.ofText nearTheEnd)) :
      v ∈ (analyzeText nearTheEnd).violations := by
    simp only [analyzeText, violations_analyze]
    exact List.mem_flatMap.mpr ⟨r, mem_all r, found⟩
  have spacing : spacingViolation 4 ∈ (analyzeText nearTheEnd).violations := by
    apply reported (r := .subroutineSpacing)
    decide
  have repetition : repetitionViolation 3 ∈ (analyzeText nearTheEnd).violations := by
    apply reported (r := .duplicateBlock)
    change _ ∈ checkDuplicateBlock (Document.ofText nearTheEnd)
    rw [checkDuplicateBlock_of_first (s := 3) (by decide)]
    exact List.mem_singleton_self _
  obtain ⟨-, -, ends⟩ := bounds _ spacing
  obtain ⟨-, -, begins⟩ := bounds _ repetition
  exact ⟨spacing, repetition, by decide, (ends 5 rfl).2.2.1 rfl, (begins 4 rfl).2.2.2 rfl⟩

end StyleGate
