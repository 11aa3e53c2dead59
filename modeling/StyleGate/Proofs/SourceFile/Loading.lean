import StyleGate.Proofs.Analysis.Catalogue
import StyleGate.Proofs.Analysis.TrimmedLines
import StyleGate.Proofs.Files.Overlong
import StyleGate.Proofs.Text.Breaks
import StyleGate.Proofs.Text.Utf8
import StyleGate.SourceFile

/-!
# Loading a source file

A path is refused, or a regular file is there, or nothing that could be read. A file is judged by its
size and by its bytes alone: it loads exactly when these encode a text or stop inside the mark. What
is loaded is the text with its line breaks made the same, which has the same lines, so checking the
file and checking the text give one report.
-/

namespace StyleGate.SourceFile

open Text

variable {w : World} {p : Path} {content : ByteArray}

/-! ## The three things a path can lead to -/

lemma load_of_overlong (overlong : w.Overlong p) : load w p = .error (.unknowable p) := by
  obtain ⟨f, refused⟩ := (w.entry?_eq_error_iff p).mpr overlong
  rw [load, refused]

lemma load_of_holdsFile (holds : w.HoldsFile p content) :
    load w p = (readText p content).map Document.ofText := by
  rw [load, (w.entry?_eq_file_iff p content).mpr holds]

lemma load_of_absent (short : ¬ w.Overlong p) (absent : ¬ ∃ content, w.HoldsFile p content) :
    load w p = .error (.notFound p) := by
  have answered : ∃ entry, w.entry? p = .ok entry := by
    cases found : w.entry? p with
    | error f => exact False.elim (short ((w.entry?_eq_error_iff p).mp ⟨f, found⟩))
    | ok entry => exact ⟨entry, rfl⟩
  obtain ⟨entry, found⟩ := answered
  rw [load, found]
  rcases entry with _ | ⟨content⟩ | _
  · rfl
  · exact False.elim (absent ⟨content, (w.entry?_eq_file_iff p content).mp found⟩)
  · rfl

/-! ## Which errors loading fails with -/

/-- The errors that a caller is promised: the file is missing, too large or holds no text. -/
def Error.Declared : Error → Prop
  | .notFound _ => True
  | .tooLarge _ _ => True
  | .undecodable _ _ => True
  | .unknowable _ => False

/-- The result is a value or one of the promised errors. -/
def Kept {α : Type} (result : Except Error α) : Prop :=
  (∃ a, result = .ok a) ∨ ∃ e : Error, e.Declared ∧ result = .error e

lemma Kept.map {α β : Type} {result : Except Error α} (kept : Kept result) (f : α → β) :
    Kept (result.map f) := by
  rcases kept with ⟨a, rfl⟩ | ⟨e, declared, rfl⟩
  · exact Or.inl ⟨f a, rfl⟩
  · exact Or.inr ⟨e, declared, rfl⟩

lemma kept_readText (p : Path) (content : ByteArray) : Kept (readText p content) := by
  by_cases large : content.size > sizeLimit
  · exact Or.inr ⟨.tooLarge p content.size, trivial, by rw [readText, if_pos large]⟩
  · rw [readText, if_neg large]
    cases Utf8.decodeMarked content with
    | ok s => exact Or.inl ⟨unifyBreaks s, rfl⟩
    | error fault => exact Or.inr ⟨.undecodable p fault, trivial, rfl⟩

lemma not_kept_of_overlong (overlong : w.Overlong p) : ¬ Kept (load w p) := by
  rw [load_of_overlong overlong]
  rintro (⟨d, loaded⟩ | ⟨e, declared, failed⟩)
  · cases loaded
  · cases failed
    exact declared

/-- Loading keeps to the promised errors except on a path that is too long to be looked up. -/
theorem load_kept_iff (w : World) (p : Path) : Kept (load w p) ↔ ¬ w.Overlong p := by
  constructor
  · intro kept overlong
    exact not_kept_of_overlong overlong kept
  · intro short
    by_cases file : ∃ content, w.HoldsFile p content
    · obtain ⟨content, holds⟩ := file
      rw [load_of_holdsFile holds]
      exact (kept_readText p content).map Document.ofText
    · rw [load_of_absent short file]
      exact Or.inr ⟨.notFound p, trivial, rfl⟩

/-- A name of 256 letters, one more than a name can have. -/
theorem long_name_not_kept :
    ¬ Kept (load (World.oneFile "P.cs" "x".toUTF8) (Path.ofText (List.replicate 256 'x'))) := by
  have letters : ∀ c ≠ 'x', c ∉ List.replicate 256 'x' :=
    fun c other mem => other (List.eq_of_mem_replicate mem)
  have long : FileTree.longestName < (List.replicate 256 'x').length := by
    rw [List.length_replicate]
    decide
  exact not_kept_of_overlong (World.overlong_ofText _ (letters '\x00' (by decide))
    (letters '/' (by decide)) long)

/-! ## A file and its text -/

lemma rawLines_unifyBreaks (t : Text) :
    (Document.ofText (unifyBreaks t)).rawLines = (Document.ofText t).rawLines := by
  rw [Document.rawLines_ofText, Document.rawLines_ofText, splitLines_unifyBreaks]

lemma analyzeText_unifyBreaks (t : Text) : analyzeText (unifyBreaks t) = analyzeText t := by
  rw [analyzeText_eq, analyzeText_eq, splitLines_unifyBreaks]

lemma load_of_decoded {t : Text} (holds : w.HoldsFile p content) (fits : content.size ≤ sizeLimit)
    (decoded : Utf8.decodeMarked content = .ok t) :
    load w p = .ok (Document.ofText (unifyBreaks t)) := by
  rw [load_of_holdsFile holds, readText, if_neg (Nat.not_lt.mpr fits), decoded]
  rfl

lemma load_of_fault {fault : Utf8.Fault} (holds : w.HoldsFile p content)
    (fits : content.size ≤ sizeLimit) (failed : Utf8.decodeMarked content = .error fault) :
    load w p = .error (.undecodable p fault) := by
  rw [load_of_holdsFile holds, readText, if_neg (Nat.not_lt.mpr fits), failed]
  rfl

/-- A file with the bytes of a text, after the mark or not, loads as the text with its line breaks
made the same and is checked like the text. Of the files that are not too large only those load whose
bytes encode a text or stop inside the mark, and the others are refused for their first fault. -/
theorem load_agrees_with_text (holds : w.HoldsFile p content) (fits : content.size ≤ sizeLimit) :
    (∀ t : Text, t.head? ≠ some '\uFEFF' →
        content = t.utf8Encode ∨ content = Utf8.mark.toByteArray ++ t.utf8Encode →
        ∃ d, load w p = .ok d ∧ Unified t d.text ∧
          d.rawLines = (Document.ofText t).rawLines ∧ analyze d = analyzeText t) ∧
      ((∃ d, load w p = .ok d) ↔ content.IsValidUTF8 ∨ Utf8.CutMark content) ∧
      (¬ (content.IsValidUTF8 ∨ Utf8.CutMark content) →
        ∃ fault, Utf8.firstFault? (Utf8.unmarked content) = some fault ∧
          load w p = .error (.undecodable p fault)) := by
  have refused : ¬ (content.IsValidUTF8 ∨ Utf8.CutMark content) →
      ∃ fault, Utf8.firstFault? (Utf8.unmarked content) = some fault ∧
        load w p = .error (.undecodable p fault) := by
    intro bad
    rw [not_or] at bad
    obtain ⟨fault, first, failed⟩ := Utf8.decodeMarked_fault bad.1 bad.2
    exact ⟨fault, first, load_of_fault holds fits failed⟩
  refine ⟨?_, ⟨?_, ?_⟩, refused⟩
  · intro t plain encodes
    have loaded := load_of_decoded holds fits (Utf8.decodeMarked_text plain encodes)
    exact ⟨_, loaded, (unified_iff t _).mpr rfl, rawLines_unifyBreaks t, analyzeText_unifyBreaks t⟩
  · rintro ⟨d, loaded⟩
    by_contra bad
    obtain ⟨fault, -, failed⟩ := refused bad
    rw [loaded] at failed
    cases failed
  · intro good
    obtain ⟨t, decoded⟩ := (Utf8.decodeMarked_isOk_iff content).mpr good
    exact ⟨_, load_of_decoded holds fits decoded⟩

/-- A heading with both kinds of return, after the mark. -/
def markedHeading : ByteArray := Utf8.mark.toByteArray ++ "class é\r\n\r\x7b".toByteArray

/-- The first byte of a character of two bytes, alone. -/
def cutCharacter : ByteArray := [0xc3].toByteArray

theorem load_marked_heading_and_cut_character :
    (∃ d, load (World.oneFile "P.cs" markedHeading) (.ofString "P.cs") = .ok d ∧
      d.text = "class é\n\n\x7b".toList ∧ d.rawLines = ["class é".toList, [], ['\x7b']] ∧
      analyze d = analyzeText "class é\r\n\r\x7b".toList) ∧
    load (World.oneFile "P.cs" cutCharacter) (.ofString "P.cs") =
      .error (.undecodable (.ofString "P.cs") ⟨0, 1, 0xc3, .cutShort⟩) := by
  have path : Path.ofString "P.cs" = ⟨0, ["P.cs"]⟩ := by decide +kernel
  have holds (content : ByteArray) :
      (World.oneFile "P.cs" content).HoldsFile (.ofString "P.cs") content := by
    rw [path]
    exact World.holdsFile_oneFile content (by decide) (by decide) (by decide)
  constructor
  · obtain ⟨texts, -, -⟩ := load_agrees_with_text (holds markedHeading) (by decide +kernel)
    obtain ⟨d, loaded, unified, lines, report⟩ := texts "class é\r\n\r\x7b".toList (by decide)
      (Or.inr (by rw [markedHeading, String.utf8Encode_toList]))
    have text := (unified_iff _ d.text).mp unified
    exact ⟨d, loaded, text, lines, report⟩
  · obtain ⟨-, -, refused⟩ := load_agrees_with_text (holds cutCharacter) (by decide)
    have found : Utf8.firstFault? (Utf8.unmarked cutCharacter) = some ⟨0, 1, 0xc3, .cutShort⟩ := by
      decide +kernel
    have bad : ¬ (cutCharacter.IsValidUTF8 ∨ Utf8.CutMark cutCharacter) := by
      rintro (valid | cut)
      · rw [← Utf8.isValidUTF8_unmarked_iff, ← Utf8.firstFault?_eq_none_iff, found] at valid
        cases valid
      · rw [Utf8.cutMark_iff, cutCharacter, Utf8.toList_toByteArray] at cut
        revert cut
        decide
    obtain ⟨fault, first, failed⟩ := refused bad
    rw [found] at first
    cases first
    exact failed

end StyleGate.SourceFile
