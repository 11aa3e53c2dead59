import StyleGate.Proofs.Analysis.Selection
import StyleGate.Proofs.Rule.Documentation
import StyleGate.Proofs.Rule.MethodNaming
import StyleGate.Proofs.Text.Words

/-!
# What the rules take for a method

Three rules look for signatures on the lines as they stand and one on the trimmed lines. Blanks
around a line do not make or unmake a signature, so all four mean the same lines. Without a
signature there is nothing to name, to space out or to document but classes. A misnamed method is
also undocumented or has its documentation right above it, and it is never taken for a field.
-/

namespace StyleGate

open Text

namespace Declaration

lemma isClass_iff_mem_words {s : Text} : isClass s = true ↔ "class".toList ∈ words s := by
  rw [isClass_iff, map_fst_runs]

end Declaration

lemma mem_lines_ofText {t : Text} {l : Line} :
    l ∈ (Document.ofText t).lines ↔ ∃ i, (splitLines t)[i]? = some l.raw ∧ l.number = i + 1 := by
  rw [Document.ofText, List.mem_mapIdx]
  constructor
  · rintro ⟨i, inside, rfl⟩
    exact ⟨i, List.getElem?_eq_getElem inside, rfl⟩
  · rintro ⟨i, raw, number⟩
    obtain ⟨inside, line⟩ := List.getElem?_eq_some_iff.mp raw
    refine ⟨i, inside, ?_⟩
    rw [line, ← number]

/-- The number of a line tells which line it is. -/
lemma raw_eq_of_number_eq {t : Text} {l m : Line} (hl : l ∈ (Document.ofText t).lines)
    (hm : m ∈ (Document.ofText t).lines) (same : l.number = m.number) : l.raw = m.raw := by
  obtain ⟨i, line, number⟩ := mem_lines_ofText.mp hl
  obtain ⟨j, line', number'⟩ := mem_lines_ofText.mp hm
  obtain rfl : i = j := by omega
  rw [line] at line'
  exact Option.some.inj line'

/-- The violations of a report under the number of a rule are those of the rule. -/
lemma forRule_analyzeText (t : Text) (r : Rule) :
    (analyzeText t).forRule r.number = r.check (Document.ofText t) := by
  rw [analyzeText, analyze, forRule_analyzeWith, copies_all]

namespace Rule

open Declaration

variable {d : Document}

lemma isSignature_of_checkSubroutinePresence (missing : checkSubroutinePresence d ≠ []) :
    ∀ l ∈ d.lines, isSignature l.raw = false := by
  intro l mem
  by_contra signature
  refine missing ?_
  have present : d.lines.any (fun l => isSignature l.raw) = true :=
    List.any_eq_true.mpr ⟨l, mem, by simpa using signature⟩
  rw [checkSubroutinePresence, present]
  rfl

section Missing

variable (missing : ∀ l ∈ d.lines, isSignature l.raw = false)
include missing

lemma checkMethodNaming_of_missing : check .methodNaming d = [] := by
  rw [checkMethodNaming_eq, List.map_eq_nil_iff, List.filter_eq_nil_iff]
  intro l mem
  simp [lowercaseNamed, missing l mem]

lemma checkSubroutineSpacing_of_missing : check .subroutineSpacing d = [] := by
  rw [List.eq_nil_iff_forall_not_mem]
  intro v reported
  obtain ⟨i, e, crowds, -⟩ := exists_of_mem_checkSubroutineSpacing reported
  obtain ⟨raw, line, signature⟩ := crowds.heads
  obtain ⟨l, mem, rfl⟩ := List.mem_map.mp (List.mem_of_getElem? line)
  rw [missing l mem] at signature
  cases signature

end Missing

/-- Where the documentation rule names a line, the line declares something. -/
lemma exists_line_of_mem_checkDocumentation {t : Text} {v : Violation}
    (reported : v ∈ check .documentation (Document.ofText t)) :
    ∃ l ∈ (Document.ofText t).lines, v.line = some (l.number : Int) ∧
      declares l.trimmed = true := by
  change v ∈ checkDocumentation (Document.ofText t) at reported
  rw [checkDocumentation_ofText] at reported
  obtain ⟨i, mem, rfl⟩ := List.mem_map.mp reported
  obtain ⟨k, raw, rfl, line, declared⟩ := exists_declares_of_mem_bareFrom mem
  rw [Nat.zero_add]
  exact ⟨⟨k + 1, raw⟩, mem_lines_ofText.mpr ⟨k, line, rfl⟩, rfl, declared⟩

lemma exists_line_of_mem_checkMethodNaming {v : Violation}
    (reported : v ∈ check .methodNaming d) :
    ∃ l ∈ d.lines, v.line = some (l.number : Int) ∧ isSignature l.raw = true := by
  rw [checkMethodNaming_eq] at reported
  obtain ⟨l, mem, rfl⟩ := List.mem_map.mp reported
  obtain ⟨line, named⟩ := List.mem_filter.mp mem
  exact ⟨l, line, rfl, (Bool.and_eq_true _ _ ▸ named).1⟩

lemma exists_line_of_mem_checkPublicStaticField {v : Violation}
    (reported : v ∈ check .publicStaticField d) :
    ∃ l ∈ d.lines, v.line = some (l.number : Int) ∧ exposesField l.trimmed = true := by
  obtain ⟨l, mem, message, judged, rfl⟩ := exists_line_of_mem_eachLine reported
  rw [publicStaticFieldAt, Option.ite_none_right_eq_some] at judged
  exact ⟨l, mem, rfl, judged.1⟩

/-- A signature is undocumented or has its documentation right above it. -/
lemma reported_or_documented {t : Text} {l : Line} (mem : l ∈ (Document.ofText t).lines)
    (signature : isSignature l.raw = true) :
    (∃ w ∈ check .documentation (Document.ofText t), w.line = some (l.number : Int)) ∨
      ∃ a ∈ (Document.ofText t).lines, l.number = a.number + 1 ∧
        Comment.documents a.trimmed = true := by
  obtain ⟨i, line, number⟩ := mem_lines_ofText.mp mem
  have declared : declares (trim l.raw) = true := by
    rw [declares, isSignature_trim, signature, Bool.or_true]
  by_cases undocumented : bare (lineAbove none (splitLines t) i) l.raw = true
  · refine Or.inl ⟨documentationViolation i, ?_, by rw [number]; rfl⟩
    change _ ∈ checkDocumentation (Document.ofText t)
    rw [checkDocumentation_ofText]
    apply List.mem_map_of_mem
    exact mem_bareFrom_iff.mpr ⟨i, l.raw, (Nat.zero_add i).symm, line, undocumented⟩
  · rw [bare, declared, Bool.true_and, Bool.not_eq_true', Bool.not_eq_false,
      Option.any_eq_true] at undocumented
    obtain ⟨a, above, documents⟩ := undocumented
    cases i with
    | zero => cases above
    | succ k => exact Or.inr ⟨⟨k + 1, a⟩, mem_lines_ofText.mpr ⟨k, above, rfl⟩, number, documents⟩

/-- A signature has a parenthesis, so it is no field. -/
lemma exposesField_of_isSignature {s : Text} (signature : isSignature s = true) :
    exposesField (trim s) = false := by
  rw [← isSignature_trim] at signature
  obtain ⟨p, text⟩ := isSignature_iff.mp signature
  have paren : hasPart "(".toList (trim s) = true := by
    rw [hasPart_iff, ← text]
    obtain ⟨u, v, split⟩ := List.append_of_mem p.paren_mem_text
    exact ⟨u, v, by simp [split]⟩
  rw [exposesField, Usage.immutableOrCallable, paren, Bool.or_true, Bool.not_true, Bool.and_false]

end Rule

open Declaration Rule

/-- Blanks around a line do not matter for whether it is a signature. So if no subroutine is found,
the rules about names and spacing report nothing, and the one about documentation only lines with
the word `class`. A line with a misnamed method is reported as undocumented or stands right below a
line of documentation, and it is not reported as a field. -/
theorem rules_agree_on_methods (t : Text) :
    (∀ s : Text, isSignature s = isSignature (trim s)) ∧
    ((analyzeText t).forRule subroutinePresence.number ≠ [] →
      (analyzeText t).forRule methodNaming.number = [] ∧
      (analyzeText t).forRule subroutineSpacing.number = [] ∧
      ∀ v ∈ (analyzeText t).forRule documentation.number, ∃ l ∈ (Document.ofText t).lines,
        v.line = some (l.number : Int) ∧ "class".toList ∈ words l.trimmed) ∧
    (∀ v ∈ (analyzeText t).forRule methodNaming.number,
      (∃ w ∈ (analyzeText t).forRule documentation.number, w.line = v.line) ∨
      ∃ a ∈ (Document.ofText t).lines, v.line = some ((a.number : Int) + 1) ∧
        Comment.documents a.trimmed = true) ∧
    ∀ v ∈ (analyzeText t).forRule methodNaming.number,
      ∀ w ∈ (analyzeText t).forRule publicStaticField.number, v.line ≠ w.line := by
  simp only [forRule_analyzeText]
  refine ⟨fun s => (isSignature_trim s).symm, ?_, ?_, ?_⟩
  · intro fires
    have missing := isSignature_of_checkSubroutinePresence fires
    refine ⟨checkMethodNaming_of_missing missing, checkSubroutineSpacing_of_missing missing, ?_⟩
    intro v reported
    obtain ⟨l, mem, line, declared⟩ := exists_line_of_mem_checkDocumentation reported
    refine ⟨l, mem, line, isClass_iff_mem_words.mp ?_⟩
    rwa [declares, Line.trimmed, isSignature_trim, missing l mem, Bool.or_false] at declared
  · intro v reported
    obtain ⟨l, mem, line, signature⟩ := exists_line_of_mem_checkMethodNaming reported
    rw [line]
    rcases reported_or_documented mem signature with undocumented | ⟨a, above, next, documents⟩
    · exact Or.inl undocumented
    · exact Or.inr ⟨a, above, by rw [next]; rfl, documents⟩
  · intro v named w exposed same
    obtain ⟨l, mem, line, signature⟩ := exists_line_of_mem_checkMethodNaming named
    obtain ⟨m, mem', line', field⟩ := exists_line_of_mem_checkPublicStaticField exposed
    have number : l.number = m.number := by
      rw [line, line', Option.some.injEq] at same
      omega
    rw [Line.trimmed, ← raw_eq_of_number_eq mem mem' number,
      exposesField_of_isSignature signature] at field
    cases field

/-- A class and nothing in it. -/
def emptyClass : Text := "class A\n\x7b\n\x7d\n".toList

/-- A method below its comment, and a field, both against the rules. -/
def methodAndField : Text := "// runs\npublic void run()\npublic static int x;\n".toList

/-- Without methods the class is all that is reported as undocumented. The method is reported for
its name and is documented by the line above, and the field is another line. -/
theorem methods_of_two_texts :
    ((analyzeText emptyClass).forRule subroutinePresence.number ≠ [] ∧
      (analyzeText emptyClass).forRule methodNaming.number = [] ∧
      (analyzeText emptyClass).forRule subroutineSpacing.number = [] ∧
      documentationViolation 0 ∈ (analyzeText emptyClass).forRule documentation.number ∧
      ∃ l ∈ (Document.ofText emptyClass).lines, l.number = 1 ∧
        "class".toList ∈ words l.trimmed) ∧
    ∃ v ∈ (analyzeText methodAndField).forRule methodNaming.number,
      ∃ w ∈ (analyzeText methodAndField).forRule publicStaticField.number, v.line ≠ w.line ∧
        ∃ a ∈ (Document.ofText methodAndField).lines, v.line = some ((a.number : Int) + 1) ∧
          Comment.documents a.trimmed = true := by
  constructor
  · have fires : (analyzeText emptyClass).forRule subroutinePresence.number ≠ [] := by
      rw [forRule_analyzeText]
      decide
    have reported : documentationViolation 0 ∈
        (analyzeText emptyClass).forRule documentation.number := by
      rw [forRule_analyzeText]
      decide
    obtain ⟨names, spacing, classes⟩ := (rules_agree_on_methods emptyClass).2.1 fires
    obtain ⟨l, mem, line, word⟩ := classes _ reported
    have first : l.number = 1 := by
      have := Option.some.inj line
      omega
    exact ⟨fires, names, spacing, reported, l, mem, first, word⟩
  · obtain ⟨-, -, documented, apart⟩ := rules_agree_on_methods methodAndField
    have named : (⟨1, methodNamingMessage "run".toList 2, some 2⟩ : Violation) ∈
        (analyzeText methodAndField).forRule methodNaming.number := by
      rw [forRule_analyzeText]
      decide
    have undocumented : (analyzeText methodAndField).forRule documentation.number = [] := by
      rw [forRule_analyzeText]
      decide
    have exposed : (⟨2, "Rule 2 Violation: Public static variable found on line 3.", some 3⟩ :
        Violation) ∈ (analyzeText methodAndField).forRule publicStaticField.number := by
      rw [forRule_analyzeText]
      decide
    refine ⟨_, named, _, exposed, apart _ named _ exposed, ?_⟩
    rcases documented _ named with ⟨w, mem, -⟩ | above
    · rw [undocumented] at mem
      cases mem
    · exact above

end StyleGate
