import StyleGate.Proofs.Rule.Documentation
import StyleGate.Proofs.Rule.MagicNumber
import StyleGate.Proofs.Rule.MethodNaming

/-!
# Lines put below other lines

A rule that judges every line by itself says about lines below other lines what it says about them
alone. Only their numbers are raised by the number of lines above, in the violations and in the
messages. The documentation rule carries one line across the seam: the last line above decides
about the first line below, and about no other.
-/

namespace StyleGate

open Text

/-! ## Violations further down -/

/-- The text with `new` in the place of the first `old`. -/
def Text.replaceFirst (old new : Text) : Text → Text
  | [] => []
  | c :: s =>
    if old.isPrefixOf (c :: s) then new ++ (c :: s).drop old.length
    else c :: replaceFirst old new s

lemma Text.replaceFirst_self {old : Text} (visible : old ≠ []) (new rest : Text) :
    replaceFirst old new (old ++ rest) = new ++ rest := by
  have front : old.isPrefixOf (old ++ rest) = true :=
    List.isPrefixOf_iff_prefix.mpr (List.prefix_append old rest)
  obtain ⟨c, t, rfl⟩ := List.exists_cons_of_ne_nil visible
  rw [List.cons_append] at front
  rw [List.cons_append, replaceFirst, if_pos front, ← List.cons_append, List.drop_left]

namespace Violation

/-- What stands before the number of a line in a message. -/
def lineWord : Text := " line ".toList

/-- How messages name a line. -/
def lineMark (n : Int) : Text := lineWord ++ (toString n).toList

/-- What the violation becomes if its line moves down by `k` lines. The number is raised where the
violation names the line and where its message does. -/
def moved (k : Nat) (v : Violation) : Violation :=
  match v.line with
  | none => v
  | some n =>
    ⟨v.rule, String.ofList (replaceFirst (lineMark n) (lineMark (n + k)) v.message.toList),
      some (n + k)⟩

/-- The search for the mark of a line goes on behind `u`, whatever follows. -/
def Passed (u : Text) : Prop :=
  ∀ (n : Int) (new s : Text),
    replaceFirst (lineMark n) new (u ++ s) = u ++ replaceFirst (lineMark n) new s

lemma Passed.append {u v : Text} (hu : Passed u) (hv : Passed v) : Passed (u ++ v) := by
  intro n new s
  rw [List.append_assoc, hu, hv, List.append_assoc]

lemma blank_beq_of_isWord {c : Char} (word : isWord c = true) : (' ' == c) = false := by
  apply beq_false_of_ne
  rintro rfl
  exact absurd word (by decide)

/-- A mark starts with a blank, so it starts in no word. -/
lemma passed_of_solid {w : Text} (solid : ∀ c ∈ w, isWord c = true) : Passed w := by
  intro n new s
  induction w with
  | nil => rfl
  | cons c w ih =>
    have other := blank_beq_of_isWord (solid c List.mem_cons_self)
    have front : (lineMark n).isPrefixOf (c :: (w ++ s)) =
        (' ' == c && ("line ".toList ++ (toString n).toList).isPrefixOf (w ++ s)) := rfl
    rw [List.cons_append, replaceFirst, front, other,
      ih fun d hd => solid d (List.mem_cons_of_mem c hd)]
    rfl

lemma passed_ofList {u : Text} (hu : Passed u) : Passed (String.ofList u).toList := by
  rw [String.toList_ofList]
  exact hu

/-- The text ends in the first mention of a line, whose number comes next. -/
def LeadsToLine (front : String) : Prop := ∃ u : String, Passed u.toList ∧ u ++ " line " = front

/-- A message may quote a word before it comes to the line. -/
lemma LeadsToLine.quoting {before behind : String} (hb : Passed before.toList)
    (leads : LeadsToLine behind) {w : Text} (solid : ∀ c ∈ w, isWord c = true) :
    LeadsToLine (before ++ String.ofList w ++ behind) := by
  obtain ⟨u, passed, rfl⟩ := leads
  refine ⟨before ++ String.ofList w ++ u, ?_, String.append_assoc ..⟩
  rw [String.toList_append, String.toList_append]
  exact (hb.append (passed_ofList (passed_of_solid solid))).append passed

/-- A message that names its line moves with it. -/
theorem moved_message {front : String} (leads : LeadsToLine front) (rest : String) (rule : Int)
    (n k : Nat) :
    moved k ⟨rule, front ++ toString n ++ rest, some (n : Int)⟩ =
      ⟨rule, front ++ toString (n + k) ++ rest, some ((n + k : Nat) : Int)⟩ := by
  obtain ⟨u, passed, rfl⟩ := leads
  have shape (m : Nat) : (u ++ " line " ++ toString m ++ rest).toList =
      u.toList ++ (lineMark m ++ rest.toList) := by
    rw [String.append_assoc, String.append_assoc, String.toList_append, String.toList_append,
      String.toList_append]
    exact congrArg (u.toList ++ ·) (List.append_assoc lineWord _ _).symm
  have visible : lineMark n ≠ [] := List.cons_ne_nil _ _
  -- no mark starts in `u`, so the first one found is the one behind it
  have raised : replaceFirst (lineMark n) (lineMark ((n + k : Nat) : Int))
      (u ++ " line " ++ toString n ++ rest).toList =
        (u ++ " line " ++ toString (n + k) ++ rest).toList := by
    rw [shape, shape, passed, replaceFirst_self visible]
  calc moved k ⟨rule, u ++ " line " ++ toString n ++ rest, some (n : Int)⟩
      = ⟨rule, String.ofList (replaceFirst (lineMark n) (lineMark ((n + k : Nat) : Int))
          (u ++ " line " ++ toString n ++ rest).toList), some ((n + k : Nat) : Int)⟩ := rfl
    _ = ⟨rule, u ++ " line " ++ toString (n + k) ++ rest, some ((n + k : Nat) : Int)⟩ := by
        rw [raised, String.ofList_toList]

example : moved 3 ⟨2, "Rule 2 Violation: Public static variable found on line 9.", some 9⟩ =
    ⟨2, "Rule 2 Violation: Public static variable found on line 12.", some 12⟩ := by
  decide +kernel

end Violation

open Violation

namespace Rule

/-! ## Rules that judge a line by itself -/

/-- What a rule says about a line by itself: it finds something in the text of the line, and its
message says what and on which line. -/
structure Tells (judge : Line → Option String) (find : Text → Option Text)
    (message : Text → Nat → String) : Prop where
  judged : ∀ l, judge l = (find l.raw).map (message · l.number)
  named : ∀ raw w, find raw = some w → ∃ front rest, LeadsToLine front ∧
    ∀ n, message w n = front ++ toString n ++ rest

/-- The lines of the whole are those above and, further down, those below. -/
lemma mapIdx_lines_append (A B : List Text) :
    ((A ++ B).mapIdx fun i raw => (⟨i + 1, raw⟩ : Line)) =
      (A.mapIdx fun i raw => ⟨i + 1, raw⟩) ++
        (B.mapIdx fun i raw => (⟨i + 1, raw⟩ : Line)).map fun l =>
          ⟨l.number + A.length, l.raw⟩ := by
  rw [List.mapIdx_append]
  congr 1
  apply List.ext_getElem (by simp)
  intro i h₁ h₂
  simp only [List.getElem_mapIdx, List.getElem_map, Nat.add_right_comm]

variable {A B : List Text} {d above below : Document}

section

variable {judge : Line → Option String} {find : Text → Option Text}
  {message : Text → Nat → String} (tells : Tells judge find message) (rule : Rule)
include tells

/-- The violation for a line that has moved down is the violation moved down. -/
lemma Tells.moved (k n : Nat) (raw : Text) :
    ((judge ⟨n + k, raw⟩).map fun m => (⟨rule.number, m, some ((n + k : Nat) : Int)⟩ : Violation)) =
      ((judge ⟨n, raw⟩).map fun m => ⟨rule.number, m, some (n : Int)⟩).map (Violation.moved k) := by
  rw [tells.judged, tells.judged]
  cases found : find raw with
  | none => rfl
  | some w =>
    obtain ⟨front, rest, leads, shape⟩ := tells.named raw w found
    have same := moved_message leads rest rule.number n k
    rw [← shape, ← shape] at same
    exact congrArg some same.symm

theorem eachLine_append (whole : d.Holds (A ++ B)) (front : above.Holds A)
    (back : below.Holds B) :
    eachLine rule judge d =
      eachLine rule judge above ++ (eachLine rule judge below).map (Violation.moved A.length) := by
  have lines : d.lines = above.lines ++
      below.lines.map fun l => ⟨l.number + A.length, l.raw⟩ := by
    rw [front, back, ← mapIdx_lines_append]
    exact whole
  rw [eachLine, lines, List.filterMap_append, List.filterMap_map, eachLine, eachLine,
    List.map_filterMap]
  congr 1
  apply List.filterMap_congr
  intro l _
  exact tells.moved rule A.length l.number l.raw

end

lemma tells_methodNaming : Tells methodNamingAt misnamed? methodNamingMessage := by
  constructor
  · intro l
    rfl
  · intro raw w found
    have solid := isWord_of_mem_misnamed? found
    have leads : LeadsToLine "' on line " :=
      ⟨"' on", passed_ofList fun _ _ _ => rfl, String.ofList_append.symm⟩
    exact ⟨_, _, leads.quoting (passed_ofList fun _ _ _ => rfl) solid, fun n => rfl⟩

lemma tells_magicNumber :
    Tells magicNumberAt (fun raw => unexplained? (trim raw)) magicNumberMessage := by
  constructor
  · intro l
    rfl
  · intro raw w found
    have solid := isWord_of_mem_unexplained? found
    have leads : LeadsToLine "' found on line " :=
      ⟨"' found on", passed_ofList fun _ _ _ => rfl, String.ofList_append.symm⟩
    exact ⟨_, _, leads.quoting (passed_ofList fun _ _ _ => rfl) solid, fun n => rfl⟩

/-- A rule that only tells whether something is found names no word. -/
lemma tells_of_test {judge : Line → Option String} {test : Text → Bool} {front rest : String}
    (leads : LeadsToLine front)
    (judged : ∀ l, judge l = if test l.trimmed then some (front ++ toString l.number ++ rest)
      else none) :
    Tells judge (fun raw => if test (trim raw) then some [] else none)
      (fun _ n => front ++ toString n ++ rest) := by
  constructor
  · intro l
    rw [judged, Line.trimmed]
    split
    · rfl
    · rfl
  · intro raw w found
    exact ⟨front, rest, leads, fun n => rfl⟩

/-- The rules that judge every line by itself. -/
def lineRules : List Rule := [.methodNaming, .publicStaticField, .mediaAttribute, .magicNumber]

lemma exists_tells {r : Rule} (mem : r ∈ lineRules) :
    ∃ judge find message, Tells judge find message ∧ r.check = eachLine r judge := by
  simp only [lineRules, List.mem_cons, List.not_mem_nil, or_false] at mem
  rcases mem with rfl | rfl | rfl | rfl
  · exact ⟨_, _, _, tells_methodNaming, rfl⟩
  · have leads : LeadsToLine "Rule 2 Violation: Public static variable found on line " :=
      ⟨"Rule 2 Violation: Public static variable found on", passed_ofList fun _ _ _ => rfl,
        String.ofList_append.symm⟩
    exact ⟨publicStaticFieldAt, _, _, tells_of_test leads fun _ => rfl, rfl⟩
  · have leads : LeadsToLine "Rule 3 Violation: Media attribute on line " :=
      ⟨"Rule 3 Violation: Media attribute on", passed_ofList fun _ _ _ => rfl,
        String.ofList_append.symm⟩
    exact ⟨mediaAttributeAt, _, _, tells_of_test leads fun _ => rfl, rfl⟩
  · exact ⟨_, _, _, tells_magicNumber, rfl⟩

theorem check_append_of_mem_lineRules {r : Rule} (mem : r ∈ lineRules) (whole : d.Holds (A ++ B))
    (front : above.Holds A) (back : below.Holds B) :
    r.check d = r.check above ++ (r.check below).map (Violation.moved A.length) := by
  obtain ⟨judge, find, message, tells, same⟩ := exists_tells mem
  rw [same]
  exact eachLine_append tells r whole front back

/-! ## The line above the seam -/

lemma bare_some_iff {a b : Text} : bare (some a) b = true ↔
    declares (trim b) = true ∧ ¬ "//".toList <+: trim a ∧ ¬ "*/".toList <:+ trim a := by
  rw [bare, Bool.and_eq_true, Bool.not_eq_true', Option.any_some, Comment.documents,
    Bool.or_eq_false_iff]
  simp only [← Bool.not_eq_true, List.isPrefixOf_iff_prefix, List.isSuffixOf_iff_suffix]

/-- The rule goes on below the last line that it has read. -/
lemma bareFrom_append (last : Option Text) (index : Nat) (A B : List Text) :
    bareFrom last index (A ++ B) =
      bareFrom last index A ++ bareFrom (A.getLast?.or last) (index + A.length) B := by
  induction A generalizing last index with
  | nil => rfl
  | cons l A ih =>
    have next : A.getLast?.or (some l) = (l :: A).getLast?.or last := by
      rw [List.getLast?_cons]
      cases A.getLast? with
      | none => rfl
      | some m => rfl
    rw [List.cons_append, bareFrom, ih, bareFrom, List.append_assoc, next, List.length_cons,
      Nat.add_assoc, Nat.add_comm 1]

lemma bareFrom_add (last : Option Text) (index k : Nat) (ls : List Text) :
    bareFrom last (index + k) ls = (bareFrom last index ls).map (· + k) := by
  induction ls generalizing last index with
  | nil => rfl
  | cons l ls ih =>
    rw [bareFrom, Nat.add_right_comm, ih, bareFrom, List.map_append]
    split
    · rfl
    · rfl

lemma documentationViolation_add (i k : Nat) :
    documentationViolation (i + k) = (documentationViolation i).moved k := by
  have leads : LeadsToLine "Rule 9 Violation: Undocumented Class or Method found on line " :=
    ⟨"Rule 9 Violation: Undocumented Class or Method found on", passed_ofList fun _ _ _ => rfl,
      String.ofList_append.symm⟩
  have same := moved_message leads "." documentation.number (i + 1) k
  rw [Nat.add_right_comm] at same
  exact same.symm

/-- What is left of the violations for some lines without the one about the first of them. -/
lemma filter_documentationViolation (b : Text) (B : List Text) :
    ((bareFrom none 0 (b :: B)).map documentationViolation).filter (fun v => v.line ≠ some 1) =
      (bareFrom (some b) 1 B).map documentationViolation := by
  have line (i : Nat) : (documentationViolation i).line ≠ some 1 ↔ i ≠ 0 := by
    rw [documentationViolation, ne_eq, Option.some.injEq]
    omega
  have first : (if bare none b then [0] else []).filter (fun i => i ≠ 0) = [] := by
    split
    · rfl
    · rfl
  have later : ∀ i ∈ bareFrom (some b) 1 B, decide (i ≠ 0) = true := by
    intro i mem
    obtain ⟨k, l, rfl, -, -⟩ := mem_bareFrom_iff.mp mem
    exact decide_eq_true (by omega)
  rw [List.filter_map, Function.comp_def]
  simp only [line]
  rw [bareFrom, List.filter_append, first, List.filter_eq_self.mpr later, List.nil_append]

/-- The last line above the seam decides about the first line below it. -/
theorem checkDocumentation_append {a : Text} (last : A.getLast? = some a)
    (whole : d.Holds (A ++ B)) (front : above.Holds A) (back : below.Holds B) :
    checkDocumentation d = checkDocumentation above ++
      ((if B.head?.any (bare (some a)) then [documentationViolation A.length] else []) ++
        ((checkDocumentation below).filter fun v => v.line ≠ some 1).map
          (Violation.moved A.length)) := by
  have moves : (documentationViolation ∘ fun i => i + A.length) =
      Violation.moved A.length ∘ documentationViolation := by
    funext i
    exact documentationViolation_add i A.length
  rw [checkDocumentation_of_holds whole, checkDocumentation_of_holds front,
    checkDocumentation_of_holds back, bareFrom_append, List.map_append, last,
    Option.some_or, bareFrom_add, List.map_map, moves]
  congr 1
  -- alone, the first line below has no line above it; all later ones see the same line as before
  cases B with
  | nil => rfl
  | cons b B =>
    rw [filter_documentationViolation, ← List.map_map, bareFrom, List.map_append, List.map_append,
      List.head?_cons, Option.any_some]
    congr 1
    split
    · exact congrArg (fun v => [v]) (by rw [← documentationViolation_add, Nat.zero_add])
    · rfl

end Rule

/-- A rule that judges every line by itself gives, for lines put below others, its violations for
the lines above and then those for the lines below, with every line number raised by the number of
lines above, also in the messages. The documentation rule does the same but for the first line
below, which it reports if that line declares a class or a method and the last line above it is no
documentation. -/
theorem line_rules_compose {A B : List Text} {a : Text} (last : A.getLast? = some a)
    {d above below : Document} (whole : d.Holds (A ++ B)) (front : above.Holds A)
    (back : below.Holds B) :
    (∀ r ∈ [Rule.methodNaming, .publicStaticField, .mediaAttribute, .magicNumber],
      r.check d = r.check above ++ (r.check below).map (Violation.moved A.length)) ∧
    Rule.check .documentation d = Rule.check .documentation above ++
      ((if B.head?.any (fun b => Rule.declares (trim b)) ∧
            ¬ "//".toList <+: trim a ∧ ¬ "*/".toList <:+ trim a then
          [Rule.documentationViolation A.length] else []) ++
        ((Rule.check .documentation below).filter fun v => v.line ≠ some 1).map
          (Violation.moved A.length)) := by
  constructor
  · intro r mem
    exact Rule.check_append_of_mem_lineRules mem whole front back
  · have seam : B.head?.any (Rule.bare (some a)) = true ↔
        B.head?.any (fun b => Rule.declares (trim b)) = true ∧
          ¬ "//".toList <+: trim a ∧ ¬ "*/".toList <:+ trim a := by
      cases B with
      | nil => simp
      | cons b B => exact Rule.bare_some_iff
    have composed := Rule.checkDocumentation_append last whole front back
    simp only [seam] at composed
    exact composed

/-- A method and a comment. -/
def upperPart : Text := "public void run()\n/* next */\n".toList

/-- Two methods and a number between them. -/
def lowerPart : Text := "public void go()\nx = 42;\npublic void stop()\n".toList

/-- The comment above the seam documents the first method below it. -/
theorem lower_part_below_comment :
    ((Document.ofText (upperPart ++ lowerPart)).Holds
        (splitLines upperPart ++ splitLines lowerPart) ∧
      Rule.check .documentation (Document.ofText lowerPart) =
        [Rule.documentationViolation 0, Rule.documentationViolation 2]) ∧
    Rule.check .magicNumber (Document.ofText (upperPart ++ lowerPart)) =
      [Rule.magicNumberViolation "42".toList 4] ∧
    Rule.check .documentation (Document.ofText (upperPart ++ lowerPart)) =
      [Rule.documentationViolation 0, Rule.documentationViolation 4] := by
  have whole : (Document.ofText (upperPart ++ lowerPart)).Holds
      (splitLines upperPart ++ splitLines lowerPart) := by
    change (_ : List Line) = _
    decide +kernel
  have last : (splitLines upperPart).getLast? = some "/* next */".toList := by decide +kernel
  obtain ⟨each, documented⟩ := line_rules_compose last whole (Document.holds_ofText upperPart)
    (Document.holds_ofText lowerPart)
  refine ⟨⟨whole, by decide +kernel⟩, ?_, ?_⟩
  · rw [each .magicNumber (by decide)]
    decide +kernel
  · rw [documented]
    decide +kernel

end StyleGate
