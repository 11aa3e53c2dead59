import StyleGate.Proofs.Rule.Concatenation
import StyleGate.Proofs.Rule.Repetition
import StyleGate.Proofs.Text.Lines
import StyleGate.Report.Render

/-!
# Reading a printed report

A printed report shows messages only. Every message begins with the number of its rule, and the
number of the line, if there is one, stands behind the first mention of a line; the words that it
quotes from the text hold no such mention and no end of a line. So a message can be read as the
violation that it is about, and the printed lines as the report.
-/

namespace StyleGate

open Text

namespace Text

/-- What follows the first `mark`. -/
def behind? (mark : Text) : Text → Option Text
  | [] => none
  | c :: s =>
    if mark.isPrefixOf (c :: s) then some ((c :: s).drop mark.length) else behind? mark s

/-- The number that the text begins with, or zero. -/
def numberAhead (s : Text) : Nat := Nat.ofDigitChars 10 (s.takeWhile Char.isDigit) 0

lemma toList_toString (n : Nat) : (toString n).toList = Nat.toDigits 10 n := by
  simp only [Nat.toString_eq_repr, Nat.toList_repr]

lemma isDigit_of_mem_toDigits {n : Nat} : ∀ c ∈ Nat.toDigits 10 n, c.isDigit = true := by
  intro c mem
  exact Nat.isDigit_of_mem_toDigits (by omega) (by omega) mem

lemma numberAhead_toDigits (n : Nat) {rest : Text} (stop : Stops Char.isDigit rest) :
    numberAhead (Nat.toDigits 10 n ++ rest) = n := by
  simp only [numberAhead, takeWhile_stretch isDigit_of_mem_toDigits stop]
  exact Nat.ofDigitChars_ten_toDigits

lemma breakFree_of_forall {p : Char → Bool} (feed : p '\n' = false) (return' : p '\r' = false)
    {w : Text} (all : ∀ c ∈ w, p c = true) : BreakFree w := by
  constructor
  · intro mem
    exact absurd (all _ mem) (by simp [feed])
  · intro mem
    exact absurd (all _ mem) (by simp [return'])

end Text

namespace Violation

/-! ## What a message tells -/

/-- What stands before the number of the rule. -/
def ruleWord : Text := "Rule ".toList

/-- The violation that a message tells of. -/
def ofMessage (message : String) : Violation :=
  ⟨numberAhead (message.toList.drop ruleWord.length), message,
    (behind? lineWord message.toList).map fun s => (numberAhead s : Int)⟩

/-- The message stays on one line and tells the rest of the violation. -/
structure Legible (v : Violation) : Prop where
  told : ofMessage v.message = v
  free : BreakFree v.message.toList

/-- Between `front` and `rest` there is room for the number of a line, in a message of rule `k`. -/
structure Frames (k : Nat) (front rest : Text) : Prop where
  numbered : ∀ s, numberAhead ((front ++ s).drop ruleWord.length) = k
  leads : ∀ s, behind? lineWord (front ++ s) = some s
  stops : Stops Char.isDigit rest
  free : BreakFree front ∧ BreakFree rest

/-- A mention of a line begins with a blank, so it begins in no word. -/
lemma behind?_solid_append {w : Text} (solid : ∀ c ∈ w, isWord c = true) (s : Text) :
    behind? lineWord (w ++ s) = behind? lineWord s := by
  induction w with
  | nil => rfl
  | cons c w ih =>
    have other := blank_beq_of_isWord (solid c List.mem_cons_self)
    have front : lineWord.isPrefixOf (c :: (w ++ s)) =
        (' ' == c && "line ".toList.isPrefixOf (w ++ s)) := rfl
    simp only [List.cons_append, behind?, front, other, Bool.false_and, Bool.false_eq_true,
      if_false]
    exact ih fun d mem => solid d (List.mem_cons_of_mem c mem)

theorem Frames.legible {k : Nat} {front rest : Text} (frames : Frames k front rest) (n : Nat) :
    Legible ⟨k, String.ofList front ++ toString n ++ String.ofList rest, some (n : Int)⟩ := by
  have text : (String.ofList front ++ toString n ++ String.ofList rest).toList =
      front ++ (Nat.toDigits 10 n ++ rest) := by
    simp only [String.toList_append, String.toList_ofList, toList_toString, List.append_assoc]
  constructor
  · simp only [ofMessage, text, frames.numbered, frames.leads, Option.map_some,
      numberAhead_toDigits n frames.stops]
  · have digits : BreakFree (Nat.toDigits 10 n) :=
      breakFree_of_forall (by decide) (by decide) isDigit_of_mem_toDigits
    simp only [text, breakFree_append]
    exact ⟨frames.free.1, digits, frames.free.2⟩

/-- A message may mention no line. -/
lemma legible_of_silent {k : Nat} {m : Text}
    (numbered : numberAhead (m.drop ruleWord.length) = k) (silent : behind? lineWord m = none)
    (free : BreakFree m) : Legible ⟨k, String.ofList m, none⟩ := by
  constructor
  · simp only [ofMessage, String.toList_ofList, numbered, silent, Option.map_none]
  · simp only [String.toList_ofList]
    exact free

/-- A message may quote a word before it comes to the line. -/
theorem legible_quoting {k : Nat} {before after rest w : Text}
    (numbered : ∀ s, numberAhead ((before ++ s).drop ruleWord.length) = k)
    (passed : ∀ s, behind? lineWord (before ++ s) = behind? lineWord s)
    (leads : ∀ s, behind? lineWord (after ++ s) = some s)
    (stops : Stops Char.isDigit rest)
    (free : BreakFree before ∧ BreakFree after ∧ BreakFree rest)
    (solid : ∀ c ∈ w, isWord c = true) (n : Nat) :
    Legible ⟨k, String.ofList before ++ String.ofList w ++ String.ofList after ++ toString n ++
      String.ofList rest, some (n : Int)⟩ := by
  obtain ⟨freeBefore, freeAfter, freeRest⟩ := free
  have freeWord : BreakFree w := breakFree_of_forall (by decide) (by decide) solid
  have frames : Frames k (before ++ w ++ after) rest := by
    refine ⟨?_, ?_, stops, ?_, freeRest⟩
    · intro s
      simp only [List.append_assoc]
      exact numbered _
    · intro s
      simp only [List.append_assoc, passed, behind?_solid_append solid]
      exact leads s
    · simp only [breakFree_append]
      exact ⟨⟨freeBefore, freeWord⟩, freeAfter⟩
  have legible := frames.legible n
  simp only [String.ofList_append] at legible
  exact legible

end Violation

open Violation

namespace Rule

variable {t : Text} {v : Violation}

/-! ## What the rules say -/

lemma legible_of_mem_require {present : Bool} {rule : Rule} {message : String}
    (legible : Legible ⟨rule.number, message, none⟩) (found : v ∈ require present rule message) :
    Legible v := by
  cases present with
  | true => cases found
  | false =>
    have same : v = ⟨rule.number, message, none⟩ := List.mem_singleton.mp found
    simp only [same]
    exact legible

lemma legible_of_mem_eachLine {rule : Rule} {judge : Line → Option String} {d : Document}
    (said : ∀ l message, judge l = some message → Legible ⟨rule.number, message, some l.number⟩)
    (found : v ∈ eachLine rule judge d) : Legible v := by
  obtain ⟨l, -, message, judged, rfl⟩ := exists_line_of_mem_eachLine found
  exact said l message judged

-- A search through the fixed words of a message is a computation, whatever follows them.
lemma legible_methodNaming (l : Line) (message : String)
    (said : methodNamingAt l = some message) :
    Legible ⟨methodNaming.number, message, some l.number⟩ := by
  obtain ⟨name, found, rfl⟩ := Option.map_eq_some_iff.mp said
  exact legible_quoting (fun _ => rfl) (fun _ => rfl) (fun _ => rfl) (stops_cons (by decide) _)
    (by decide) (isWord_of_mem_misnamed? found) l.number

lemma legible_publicStaticField (l : Line) (message : String)
    (said : publicStaticFieldAt l = some message) :
    Legible ⟨publicStaticField.number, message, some l.number⟩ := by
  obtain ⟨-, same⟩ := Option.ite_none_right_eq_some.mp said
  obtain rfl := Option.some.inj same
  exact Frames.legible ⟨fun _ => rfl, fun _ => rfl, stops_cons (by decide) _, by decide⟩ l.number

lemma legible_mediaAttribute (l : Line) (message : String)
    (said : mediaAttributeAt l = some message) :
    Legible ⟨mediaAttribute.number, message, some l.number⟩ := by
  obtain ⟨-, same⟩ := Option.ite_none_right_eq_some.mp said
  obtain rfl := Option.some.inj same
  exact Frames.legible ⟨fun _ => rfl, fun _ => rfl, stops_cons (by decide) _, by decide⟩ l.number

lemma legible_magicNumber (l : Line) (message : String)
    (said : magicNumberAt l = some message) :
    Legible ⟨magicNumber.number, message, some l.number⟩ := by
  obtain ⟨literal, found, rfl⟩ := Option.map_eq_some_iff.mp said
  exact legible_quoting (fun _ => rfl) (fun _ => rfl) (fun _ => rfl) (stops_cons (by decide) _)
    (by decide) (isWord_of_mem_unexplained? found) l.number

lemma legible_repetitionViolation (s : Nat) : Legible (repetitionViolation s) :=
  Frames.legible ⟨fun _ => rfl, fun _ => rfl, stops_cons (by decide) _, by decide⟩ (s + 1)

lemma legible_spacingViolation (e : Nat) : Legible (spacingViolation e) :=
  Frames.legible ⟨fun _ => rfl, fun _ => rfl, stops_cons (by decide) _, by decide⟩ (e + 1)

lemma legible_documentationViolation (i : Nat) : Legible (documentationViolation i) :=
  Frames.legible ⟨fun _ => rfl, fun _ => rfl, stops_cons (by decide) _, by decide⟩ (i + 1)

/-- Every message stays on one line and tells its rule and the line that it is about. -/
theorem legible_of_mem_check {r : Rule} (found : v ∈ r.check (Document.ofText t)) : Legible v := by
  cases r with
  | methodNaming => exact legible_of_mem_eachLine legible_methodNaming found
  | publicStaticField => exact legible_of_mem_eachLine legible_publicStaticField found
  | mediaAttribute => exact legible_of_mem_eachLine legible_mediaAttribute found
  | duplicateBlock =>
    simp only [check] at found
    rcases checkDuplicateBlock_cases t with ⟨s, -, reported⟩ | ⟨-, nothing⟩
    · simp only [reported, List.mem_singleton] at found
      simp only [found]
      exact legible_repetitionViolation s
    · simp [nothing] at found
  | collectionPresence => exact legible_of_mem_require (legible_of_silent rfl rfl (by decide)) found
  | loopPresence => exact legible_of_mem_require (legible_of_silent rfl rfl (by decide)) found
  | magicNumber => exact legible_of_mem_eachLine legible_magicNumber found
  | subroutineSpacing =>
    obtain ⟨i, e, -, rfl⟩ := exists_of_mem_checkSubroutineSpacing found
    exact legible_spacingViolation e
  | documentation =>
    simp only [check, checkDocumentation_ofText] at found
    obtain ⟨i, -, rfl⟩ := List.mem_map.mp found
    exact legible_documentationViolation i
  | subroutinePresence => exact legible_of_mem_require (legible_of_silent rfl rfl (by decide)) found

end Rule

lemma legible_of_mem_violations {t : Text} {v : Violation}
    (mem : v ∈ (analyzeText t).violations) : Legible v := by
  simp only [analyzeText, violations_analyze] at mem
  obtain ⟨r, -, found⟩ := List.mem_flatMap.mp mem
  exact Rule.legible_of_mem_check found

/-! ## What is printed -/

namespace Colour

lemma paint_injective (colour : Colour) (on : Bool) : Function.Injective (colour.paint on) := by
  intro a b same
  cases on with
  | false => exact same
  | true =>
    have front : colour.start ++ a = colour.start ++ b := (String.append_left_inj stop).mp same
    exact (String.append_right_inj colour.start).mp front

lemma breakFree_paint (colour : Colour) (on : Bool) {text : String}
    (free : BreakFree text.toList) : BreakFree (colour.paint on text).toList := by
  cases on with
  | false => exact free
  | true =>
    have start : BreakFree colour.start.toList := by
      cases colour <;> decide
    have stop : BreakFree stop.toList := by decide
    simp only [paint, if_true, String.toList_append, breakFree_append]
    exact ⟨⟨start, free⟩, stop⟩

end Colour

namespace Report

/-- The line for a violation with this message. -/
def failureLine (colour : Bool) (message : String) : String :=
  Colour.red.paint colour ("- [Failed] " ++ message)

lemma failureLine_injective (colour : Bool) : Function.Injective (failureLine colour) := by
  intro a b same
  have text := Colour.paint_injective .red colour same
  exact (String.append_right_inj "- [Failed] ").mp text

/-- Success looks like no failure: the colours differ, and without colours the first characters. -/
lemma success_ne_failureLine (colour : Bool) (message : String) :
    Colour.green.paint colour success ≠ failureLine colour message := by
  intro same
  cases colour with
  | false =>
    have first : success.toList[0]? = ("- [Failed] " ++ message).toList[0]? :=
      congrArg (fun line => line.toList[0]?) same
    simp [success] at first
  | true =>
    have digit := congrArg (fun line => line.toList[5]?) same
    simp [failureLine, Colour.paint, Colour.start] at digit

variable {r s : Report} {colour : Bool}

lemma render_of_passed (passed : r.passed = true) :
    r.render colour = header ++ [Colour.green.paint colour success] := by
  simp only [render, passed, if_true]

lemma render_of_failed (failed : r.passed = false) :
    r.render colour = header ++ r.messages.map (failureLine colour) := by
  simp only [render, failed, messages, List.map_map, Bool.false_eq_true, if_false]
  rfl

lemma messages_eq_nil_iff : r.messages = [] ↔ r.passed = true := by
  simp only [messages, List.map_eq_nil_iff, passed, List.isEmpty_iff]

lemma success_ne_failures {messages : List String} :
    [Colour.green.paint colour success] ≠ messages.map (failureLine colour) := by
  intro same
  obtain ⟨message, -, -, line, -⟩ := List.map_eq_cons_iff.mp same.symm
  exact success_ne_failureLine colour message line.symm

/-- The printed lines tell the messages. -/
theorem messages_eq_of_render_eq (same : r.render colour = s.render colour) :
    r.messages = s.messages := by
  cases first : r.passed with
  | true =>
    cases second : s.passed with
    | true =>
      exact (messages_eq_nil_iff.mpr first).trans (messages_eq_nil_iff.mpr second).symm
    | false =>
      simp only [render_of_passed first, render_of_failed second,
        List.append_cancel_left_eq] at same
      exact absurd same success_ne_failures
  | false =>
    cases second : s.passed with
    | true =>
      simp only [render_of_failed first, render_of_passed second,
        List.append_cancel_left_eq] at same
      exact absurd same.symm success_ne_failures
    | false =>
      simp only [render_of_failed first, render_of_failed second,
        List.append_cancel_left_eq] at same
      exact List.map_injective_iff.mpr (failureLine_injective colour) same

lemma length_render : (r.render colour).length = 2 + max 1 r.violations.length := by
  cases outcome : r.passed with
  | true =>
    have none : r.violations = [] := List.isEmpty_iff.mp outcome
    simp only [render_of_passed outcome, none]
    rfl
  | false =>
    have some : r.violations ≠ [] := List.isEmpty_eq_false_iff.mp outcome
    have count : 0 < r.violations.length := List.length_pos_iff.mpr some
    simp only [render_of_failed outcome, header, messages, List.length_append, List.length_map,
      List.length_cons, List.length_nil]
    omega

lemma breakFree_of_mem_render (free : ∀ m ∈ r.messages, BreakFree m.toList) :
    ∀ l ∈ r.render colour, BreakFree l.toList := by
  have above : ∀ l ∈ header, BreakFree l.toList := by decide
  intro l mem
  cases outcome : r.passed with
  | true =>
    simp only [render_of_passed outcome, List.mem_append, List.mem_singleton] at mem
    rcases mem with mem | rfl
    · exact above l mem
    · exact Colour.breakFree_paint .green colour (by decide)
  | false =>
    simp only [render_of_failed outcome, List.mem_append] at mem
    rcases mem with mem | mem
    · exact above l mem
    · obtain ⟨m, told, rfl⟩ := List.mem_map.mp mem
      apply Colour.breakFree_paint
      simp only [String.toList_append, breakFree_append]
      exact ⟨by decide, free m told⟩

end Report

/-- The messages of a report tell all of it. -/
lemma violations_eq_map_ofMessage (t : Text) :
    (analyzeText t).violations = (analyzeText t).messages.map ofMessage := by
  have told : ∀ v ∈ (analyzeText t).violations, ofMessage v.message = v :=
    fun v mem => (legible_of_mem_violations mem).told
  simp only [Report.messages, List.map_map]
  exact (List.map_id _).symm.trans (List.map_congr_left fun v mem => (told v mem).symm)

lemma breakFree_of_mem_messages {t : Text} :
    ∀ m ∈ (analyzeText t).messages, BreakFree m.toList := by
  intro m mem
  obtain ⟨v, found, rfl⟩ := List.mem_map.mp mem
  exact (legible_of_mem_violations found).free

/-- Two reports that are printed alike are the same, with colours and without. No printed line holds
the end of a line, so the lines, each with a line feed behind it, are read as they were printed: two
for the header, and one for each violation or one for success. -/
theorem printed_report_is_faithful (colour : Bool) :
    (∀ t₁ t₂ : Text, (analyzeText t₁).render colour = (analyzeText t₂).render colour →
      analyzeText t₁ = analyzeText t₂) ∧
    ∀ t : Text,
      (∀ l ∈ (analyzeText t).render colour, '\n' ∉ l.toList ∧ '\r' ∉ l.toList) ∧
      splitLines (unlines (((analyzeText t).render colour).map String.toList)) =
        ((analyzeText t).render colour).map String.toList ∧
      (splitLines (unlines (((analyzeText t).render colour).map String.toList))).length =
        2 + max 1 (analyzeText t).violations.length := by
  constructor
  · intro t₁ t₂ same
    have messages := Report.messages_eq_of_render_eq same
    have violations : (analyzeText t₁).violations = (analyzeText t₂).violations := by
      simp only [violations_eq_map_ofMessage, messages]
    exact congrArg Report.mk violations
  · intro t
    have free : ∀ l ∈ (analyzeText t).render colour, BreakFree l.toList :=
      Report.breakFree_of_mem_render breakFree_of_mem_messages
    have printed : ∀ l ∈ ((analyzeText t).render colour).map String.toList, BreakFree l := by
      intro l mem
      obtain ⟨line, shown, rfl⟩ := List.mem_map.mp mem
      exact free line shown
    have read := (laidOut_unlines printed).splitLines_eq
    refine ⟨free, read, ?_⟩
    simp only [read, List.length_map, Report.length_render]

/-- A number on the second line. -/
def numberBelow : Text := "\nx = 42;".toList

/-- The same lines with other ends. -/
def numberBelowReturns : Text := "\r\nx = 42;\r\n".toList

/-- Two texts that are printed alike: the number, and what is missing in the whole text. -/
theorem number_below_printed_alike :
    numberBelow ≠ numberBelowReturns ∧
    (analyzeText numberBelow).render true = (analyzeText numberBelowReturns).render true ∧
    analyzeText numberBelow = analyzeText numberBelowReturns ∧
    (Colour.red.paint true (Report.failure (Rule.magicNumberViolation "42".toList 2)) ∈
        (analyzeText numberBelow).render true ∧
      '\r' ∉ (Colour.red.paint true
        (Report.failure (Rule.magicNumberViolation "42".toList 2))).toList) ∧
    (splitLines (unlines (((analyzeText numberBelow).render true).map String.toList))).length =
      6 := by
  obtain ⟨injective, lines⟩ := printed_report_is_faithful true
  have report (t : Text) : analyzeText t = ⟨Rule.all.flatMap (Rule.check · (Document.ofText t))⟩ :=
    congrArg Report.mk (violations_analyze (Document.ofText t))
  have alike : (analyzeText numberBelow).render true =
      (analyzeText numberBelowReturns).render true := by
    simp only [report]
    decide +kernel
  have shown : Colour.red.paint true (Report.failure (Rule.magicNumberViolation "42".toList 2)) ∈
      (analyzeText numberBelow).render true := by
    simp only [report]
    decide +kernel
  have count : (analyzeText numberBelow).violations.length = 4 := by
    simp only [report]
    decide +kernel
  obtain ⟨free, -, read⟩ := lines numberBelow
  simp only [count] at read
  exact ⟨by decide, alike, injective _ _ alike, ⟨shown, (free _ shown).2⟩, read⟩

end StyleGate
