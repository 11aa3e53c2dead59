import StyleGate.Analysis
import StyleGate.Proofs.Declaration.Signature
import StyleGate.Proofs.Rule.Spacing
import StyleGate.Proofs.Usage.WholeText

/-!
# The report depends on the trimmed lines alone

Some rules read the lines as they stand, some read them trimmed, and two search the text across
its lines. Each of them gives the same violations once every line is trimmed and followed by a
plain line feed, so indentation, trailing blanks and the kind of line break never show in a report.
-/

namespace StyleGate

open Text

/-- The line without the blanks at its two ends. -/
def Line.settle (l : Line) : Line := ⟨l.number, l.trimmed⟩

@[simp] lemma Line.settle_number (l : Line) : l.settle.number = l.number := rfl

@[simp] lemma Line.settle_raw (l : Line) : l.settle.raw = trim l.raw := rfl

@[simp] lemma Line.settle_trimmed (l : Line) : l.settle.trimmed = l.trimmed := trim_trim l.raw

/-- The document with these lines, each followed by a line feed. -/
def Document.ofLines (ls : List Text) : Document where
  lines := ls.mapIdx fun i raw => ⟨i + 1, raw⟩
  text := unlines ls

/-- `d'` has the lines of `d` trimmed, and the searches of the whole text find the same in both. -/
structure Settles (d d' : Document) : Prop where
  lines : d'.lines = d.lines.map Line.settle
  collection : Usage.collection d'.text = Usage.collection d.text
  loop : Usage.loop d'.text = Usage.loop d.text

theorem settles_ofText (t : Text) :
    Settles (Document.ofText t) (Document.ofLines ((splitLines t).map trim)) where
  lines := by
    simp only [Document.ofText, Document.ofLines, List.mapIdx_eq_zipIdx_map, List.zipIdx_map,
      List.map_map]
    rfl
  collection := Usage.collection_settled (laidOut_splitLines t)
  loop := Usage.loop_settled (laidOut_splitLines t)

namespace Rule

/-! ## Rules that judge a line by itself -/

lemma misnamed?_trim (s : Text) : misnamed? (trim s) = misnamed? s := by
  by_cases h : Declaration.isSignature s = true
  · rw [misnamed?, misnamed?, Declaration.isSignature_trim, Declaration.subroutineName?_trim h]
  · rw [misnamed?, misnamed?, Declaration.isSignature_trim, if_neg h, if_neg h]

lemma methodNamingAt_settle (l : Line) : methodNamingAt l.settle = methodNamingAt l := by
  rw [methodNamingAt, methodNamingAt, Line.settle_raw, misnamed?_trim, Line.settle_number]

lemma publicStaticFieldAt_settle (l : Line) :
    publicStaticFieldAt l.settle = publicStaticFieldAt l := by
  rw [publicStaticFieldAt, publicStaticFieldAt, Line.settle_trimmed, Line.settle_number]

lemma mediaAttributeAt_settle (l : Line) : mediaAttributeAt l.settle = mediaAttributeAt l := by
  rw [mediaAttributeAt, mediaAttributeAt, Line.settle_trimmed, Line.settle_number]

lemma magicNumberAt_settle (l : Line) : magicNumberAt l.settle = magicNumberAt l := by
  rw [magicNumberAt, magicNumberAt, Line.settle_trimmed, Line.settle_number]

variable {d d' : Document}

lemma eachLine_settled (h : Settles d d') (rule : Rule) {judge : Line → Option String}
    (settle : ∀ l, judge l.settle = judge l) : eachLine rule judge d' = eachLine rule judge d := by
  rw [eachLine, h.lines, List.filterMap_map, eachLine]
  simp only [Function.comp_def, settle, Line.settle_number]

/-! ## Rules about neighbouring lines -/

lemma map_trimmed_settled (h : Settles d d') :
    d'.lines.map Line.trimmed = d.lines.map Line.trimmed := by
  rw [h.lines, List.map_map]
  simp only [Function.comp_def, Line.settle_trimmed]

lemma checkDuplicateBlock_settled (h : Settles d d') :
    checkDuplicateBlock d' = checkDuplicateBlock d := by
  rw [checkDuplicateBlock, firstRepeat?, map_trimmed_settled h, checkDuplicateBlock, firstRepeat?]

lemma documentationAt_settle (above : Option Line) (l : Line) :
    documentationAt (above.map Line.settle) l.settle = documentationAt above l := by
  have same : undocumented (above.map Line.settle) l.settle = undocumented above l := by
    cases above with
    | none => simp [undocumented]
    | some a => simp [undocumented]
  rw [documentationAt, same, documentationAt, Line.settle_number]

lemma withAbove_settle (lines : List Line) :
    withAbove (lines.map Line.settle) =
      (withAbove lines).map (Prod.map (Option.map Line.settle) Line.settle) := by
  rw [withAbove, withAbove, ← List.zip_map]
  simp [Function.comp_def]

lemma checkDocumentation_settled (h : Settles d d') :
    checkDocumentation d' = checkDocumentation d := by
  rw [checkDocumentation, h.lines, withAbove_settle, List.filterMap_map, checkDocumentation]
  simp only [Function.comp_def, Prod.map, documentationAt_settle]

/-! ## The rule about bodies -/

lemma opening_trim (s : Text) : Braces.opening (trim s) = Braces.opening s :=
  count_trim (by decide) s

lemma closing_trim (s : Text) : Braces.closing (trim s) = Braces.closing s :=
  count_trim (by decide) s

/-- The scan counts braces only, so it closes on the same line. -/
lemma closeFrom_trim (position depth : Int) (inside : Bool) (ls : List Text) :
    Braces.closeFrom position depth inside (ls.map trim) =
      (Braces.closeFrom position depth inside ls).map fun close =>
        ⟨close.position, close.after.map trim⟩ := by
  induction ls generalizing position depth inside with
  | nil => rfl
  | cons l ls ih =>
    simp only [List.map_cons, Braces.closeFrom, opening_trim, closing_trim]
    split
    · rfl
    · rw [ih]

lemma crowded_trim (ls : List Text) : crowded (ls.map trim) = crowded ls := by
  rcases ls with _ | ⟨a, _ | ⟨b, ls⟩⟩
  · rfl
  · simp [crowded]
  · simp [crowded]

lemma subroutineSpacingAt_trim (index : Nat) (ls : List Text) :
    subroutineSpacingAt index (ls.map trim) = subroutineSpacingAt index ls := by
  cases ls with
  | nil => rfl
  | cons l ls =>
    have body : bodyAt index ((l :: ls).map trim) = (bodyAt index (l :: ls)).map fun found =>
        found.map fun close => ⟨close.position, close.after.map trim⟩ := by
      have scan := closeFrom_trim index 0 false (l :: ls)
      rw [List.map_cons] at scan ⊢
      rw [bodyAt, bodyAt, Declaration.isSignature_trim, scan]
      split
      · rfl
      · rfl
    exact subroutineSpacingAt_congr crowded_trim body

lemma sweep_trim (index : Nat) (found : List Violation) (ls : List Text) :
    sweep subroutineSpacingAt index found (ls.map trim) =
      sweep subroutineSpacingAt index found ls := by
  induction ls generalizing index found with
  | nil => rfl
  | cons l ls ih =>
    have judge := subroutineSpacingAt_trim index (l :: ls)
    rw [List.map_cons] at judge ⊢
    rw [sweep, sweep, judge, ih]

lemma checkSubroutineSpacing_settled (h : Settles d d') :
    checkSubroutineSpacing d' = checkSubroutineSpacing d := by
  have raw : d'.rawLines = d.rawLines.map trim := by
    rw [Document.rawLines, h.lines, List.map_map, Document.rawLines, List.map_map]
    rfl
  rw [checkSubroutineSpacing, raw, sweep_trim, checkSubroutineSpacing]

/-! ## All rules -/

lemma checkSubroutinePresence_settled (h : Settles d d') :
    checkSubroutinePresence d' = checkSubroutinePresence d := by
  rw [checkSubroutinePresence, h.lines, List.any_map, checkSubroutinePresence]
  simp only [Function.comp_def, Line.settle_raw, Declaration.isSignature_trim]

theorem check_settled (h : Settles d d') (r : Rule) : r.check d' = r.check d := by
  cases r with
  | methodNaming => exact eachLine_settled h _ methodNamingAt_settle
  | publicStaticField => exact eachLine_settled h _ publicStaticFieldAt_settle
  | mediaAttribute => exact eachLine_settled h _ mediaAttributeAt_settle
  | duplicateBlock => exact checkDuplicateBlock_settled h
  | collectionPresence => simp only [check, checkCollectionPresence, h.collection]
  | loopPresence => simp only [check, checkLoopPresence, h.loop]
  | magicNumber => exact eachLine_settled h _ magicNumberAt_settle
  | subroutineSpacing => exact checkSubroutineSpacing_settled h
  | documentation => exact checkDocumentation_settled h
  | subroutinePresence => exact checkSubroutinePresence_settled h

end Rule

theorem analyze_settled {d d' : Document} (h : Settles d d') : analyze d' = analyze d := by
  simp only [analyze, analyzeWith, Rule.check_settled h]

/-- The report can be read off the trimmed lines. -/
theorem analyzeText_eq (t : Text) :
    analyzeText t = analyze (Document.ofLines ((splitLines t).map trim)) :=
  (analyze_settled (settles_ofText t)).symm

lemma trimmed_ofText (t : Text) :
    (Document.ofText t).lines.map Line.trimmed = (splitLines t).map trim := by
  refine List.ext_getElem (by simp [Document.ofText]) ?_
  intro i h₁ h₂
  simp [Document.ofText, Line.trimmed]

/-- The documents have as many lines, and each line reads the same once it is trimmed. -/
def Document.SameTrimmedLines (d₁ d₂ : Document) : Prop :=
  d₁.lines.length = d₂.lines.length ∧
    ∀ (i : Nat) (l₁ l₂ : Line), d₁.lines[i]? = some l₁ → d₂.lines[i]? = some l₂ →
      l₁.trimmed = l₂.trimmed

lemma Document.sameTrimmedLines_iff {d₁ d₂ : Document} : d₁.SameTrimmedLines d₂ ↔
    d₁.lines.map Line.trimmed = d₂.lines.map Line.trimmed := by
  constructor
  · rintro ⟨count, same⟩
    refine List.ext_getElem (by simpa using count) ?_
    intro i h₁ h₂
    simp only [List.length_map] at h₁ h₂
    simp only [List.getElem_map]
    exact same i _ _ (List.getElem?_eq_getElem h₁) (List.getElem?_eq_getElem h₂)
  · intro h
    refine ⟨by simpa using congrArg List.length h, ?_⟩
    intro i l₁ l₂ h₁ h₂
    have hi : (d₁.lines.map Line.trimmed)[i]? = (d₂.lines.map Line.trimmed)[i]? := by rw [h]
    rw [List.getElem?_map, List.getElem?_map, h₁, h₂] at hi
    exact Option.some.inj hi

/-- Two texts whose lines are the same once trimmed have the same report. So have two layouts of
lines that differ in nothing but blanks around them: neither the breaks nor a missing last one
matter. -/
theorem report_determined_by_trimmed_lines :
    (∀ t₁ t₂ : Text, (Document.ofText t₁).SameTrimmedLines (Document.ofText t₂) →
      analyzeText t₁ = analyzeText t₂) ∧
    (∀ (ls₁ ls₂ : List Text) (t₁ t₂ : Text), LaidOut ls₁ t₁ → LaidOut ls₂ t₂ →
      ls₁.map trim = ls₂.map trim → analyzeText t₁ = analyzeText t₂) := by
  have lines : ∀ t₁ t₂ : Text, (splitLines t₁).map trim = (splitLines t₂).map trim →
      analyzeText t₁ = analyzeText t₂ := by
    intro t₁ t₂ same
    rw [analyzeText_eq t₁, same, ← analyzeText_eq t₂]
  refine ⟨fun t₁ t₂ same => lines t₁ t₂ ?_, fun ls₁ ls₂ t₁ t₂ h₁ h₂ same => lines t₁ t₂ ?_⟩
  · rw [← trimmed_ofText, ← trimmed_ofText]
    exact Document.sameTrimmedLines_iff.mp same
  · rw [h₁.splitLines_eq, h₂.splitLines_eq]
    exact same

/-- A method set with tabs and carriage returns, and the same method set plainly. -/
theorem report_of_tabs_and_returns :
    (Document.ofText "\tpublic void run()\r\n  \x7b \x7d\r\r\tint x = 7; ".toList).SameTrimmedLines
        (Document.ofText "public void run()\n\x7b \x7d  \n\nint x = 7;\n".toList) ∧
      analyzeText "\tpublic void run()\r\n  \x7b \x7d\r\r\tint x = 7; ".toList =
        analyzeText "public void run()\n\x7b \x7d  \n\nint x = 7;\n".toList := by
  have same : (Document.ofText
      "\tpublic void run()\r\n  \x7b \x7d\r\r\tint x = 7; ".toList).SameTrimmedLines
        (Document.ofText "public void run()\n\x7b \x7d  \n\nint x = 7;\n".toList) :=
    Document.sameTrimmedLines_iff.mpr (by decide)
  exact ⟨same, report_determined_by_trimmed_lines.1 _ _ same⟩

end StyleGate
