import StyleGate.Proofs.Analysis.Catalogue
import StyleGate.Proofs.Text.Lines

/-!
# Lines and their ends

A text is its lines, each with the break that ends it. Only the last line can go without a break,
and then it is not empty. A carriage return never stands before an empty line that ends in a line
feed, since the two would be one break. Splitting takes every text apart in this way, and it gives
back the lines of every text that is put together in this way.
-/

namespace StyleGate

open Text

/-- A line and the break after it, which may be missing. -/
structure EndedLine where
  line : Text
  ending : Text

/-- The two breaks are not read as one. -/
def EndedLine.Apart (p q : EndedLine) : Prop :=
  p.ending = "\r".toList → ¬ (q.line = [] ∧ q.ending = "\n".toList)

/-- The text of the lines with their breaks. -/
def joined (cut : List EndedLine) : Text := cut.flatMap fun p => p.line ++ p.ending

/-- Lines that can be told apart again: no break inside a line, a break at the end of every line,
which the last one may lack if it is not empty, and no two breaks that are read as one. -/
@[mk_iff] structure WellEnded (cut : List EndedLine) : Prop where
  free : ∀ p ∈ cut, BreakFree p.line
  ended : ∀ p ∈ cut.dropLast, p.ending ∈ breaks
  last : ∀ p ∈ cut.getLast?, p.ending ∈ breaks ∨ p.ending = [] ∧ p.line ≠ []
  apart : cut.IsChain EndedLine.Apart

lemma wellEnded_nil : WellEnded [] := by
  simp [wellEnded_iff]

lemma wellEnded_singleton {p : EndedLine} : WellEnded [p] ↔
    BreakFree p.line ∧ (p.ending ∈ breaks ∨ p.ending = [] ∧ p.line ≠ []) := by
  simp [wellEnded_iff]

lemma wellEnded_cons₂ {p q : EndedLine} {cut : List EndedLine} : WellEnded (p :: q :: cut) ↔
    BreakFree p.line ∧ p.ending ∈ breaks ∧ p.Apart q ∧ WellEnded (q :: cut) := by
  simp only [wellEnded_iff, List.forall_mem_cons, List.dropLast_cons_cons, List.getLast?_cons_cons,
    List.isChain_cons_cons]
  tauto

lemma WellEnded.head {q : EndedLine} {cut : List EndedLine} (ended : WellEnded (q :: cut)) :
    BreakFree q.line ∧ (q.ending ∈ breaks ∨ q.ending = [] ∧ q.line ≠ []) := by
  cases cut with
  | nil => exact wellEnded_singleton.mp ended
  | cons r cut =>
    obtain ⟨free, ending, -, -⟩ := wellEnded_cons₂.mp ended
    exact ⟨free, Or.inl ending⟩

lemma joined_cons (p : EndedLine) (cut : List EndedLine) :
    joined (p :: cut) = p.line ++ (p.ending ++ joined cut) := by
  simp [joined]

/-- A text starts with a line feed only if its first line is empty and ends in it. -/
lemma WellEnded.head_of_lineFeed {q : EndedLine} {cut : List EndedLine}
    (ended : WellEnded (q :: cut)) (feed : (joined (q :: cut)).head? = some '\n') :
    q.line = [] ∧ q.ending = "\n".toList := by
  obtain ⟨free, ending⟩ := ended.head
  rw [joined_cons] at feed
  have empty : q.line = [] := by
    by_contra visible
    obtain ⟨c, l, line⟩ := List.exists_cons_of_ne_nil visible
    rw [line] at feed free
    exact (breakFree_cons.mp free).1.1 (Option.some.inj feed)
  have cases_ending : q.ending = "\n".toList ∨ q.ending = "\r\n".toList ∨
      q.ending = "\r".toList := by
    simpa [breaks, empty] using ending
  rw [empty, List.nil_append] at feed
  rcases cases_ending with same | pair | lone
  · exact ⟨empty, same⟩
  · rw [pair] at feed
    cases feed
  · rw [lone] at feed
    cases feed

/-! ## Both directions -/

theorem laidOut_joined {cut : List EndedLine} (ended : WellEnded cut) :
    LaidOut (cut.map EndedLine.line) (joined cut) := by
  induction cut with
  | nil => exact .nil
  | cons p cut ih =>
    rw [joined_cons]
    cases cut with
    | nil =>
      obtain ⟨free, ending | ⟨missing, visible⟩⟩ := wellEnded_singleton.mp ended
      · exact .line free ending (fun _ => nofun) .nil
      · rw [missing]
        simpa [joined] using LaidOut.last free visible
    | cons q cut =>
      obtain ⟨free, ending, apart, rest⟩ := wellEnded_cons₂.mp ended
      refine .line free ending ?_ (ih rest)
      intro lone feed
      exact apart lone (rest.head_of_lineFeed feed)

theorem exists_wellEnded {ls : List Text} {s : Text} (laid : LaidOut ls s) :
    ∃ cut, WellEnded cut ∧ cut.map EndedLine.line = ls ∧ joined cut = s := by
  induction laid with
  | nil => exact ⟨[], wellEnded_nil, rfl, rfl⟩
  | @last l free visible =>
    refine ⟨[⟨l, []⟩], wellEnded_singleton.mpr ⟨free, Or.inr ⟨rfl, visible⟩⟩, rfl, ?_⟩
    simp [joined]
  | @line l b s ls free ending apart rest ih =>
    obtain ⟨cut, ended, rfl, rfl⟩ := ih
    refine ⟨⟨l, b⟩ :: cut, ?_, rfl, joined_cons ⟨l, b⟩ cut⟩
    cases cut with
    | nil => exact wellEnded_singleton.mpr ⟨free, Or.inl ending⟩
    | cons q cut =>
      refine wellEnded_cons₂.mpr ⟨free, ending, ?_, ended⟩
      rintro lone ⟨empty, feed⟩
      refine apart lone ?_
      rw [joined_cons, empty, feed]
      rfl

lemma map_number_ofText (t : Text) :
    (Document.ofText t).lines.map Line.number =
      List.range' 1 (Document.ofText t).lines.length := by
  refine List.ext_getElem (by simp) ?_
  intro i h₁ h₂
  simp [Document.ofText, Nat.add_comm]

/-- Splitting numbers the lines from one and loses nothing: the text is its lines, free of breaks,
with a break after each, of which only the last can be missing, after a line that is not empty. It
gives back the lines of every text that is put together in this way, unless a carriage return comes
before an empty line that ends in a line feed. -/
theorem splitting_inverts_joining :
    (∀ content : Text,
      (Document.ofText content).lines.map Line.number =
          List.range' 1 (Document.ofText content).lines.length ∧
        (∀ l ∈ (Document.ofText content).lines, '\n' ∉ l.raw ∧ '\r' ∉ l.raw) ∧
        ∃ cut, WellEnded cut ∧ cut.map EndedLine.line = (Document.ofText content).rawLines ∧
          joined cut = content) ∧
    ∀ cut, WellEnded cut →
      (Document.ofText (joined cut)).rawLines = cut.map EndedLine.line := by
  constructor
  · intro content
    have laid := laidOut_splitLines content
    rw [← Document.rawLines_ofText] at laid
    refine ⟨map_number_ofText content, ?_, exists_wellEnded laid⟩
    intro l mem
    exact laid.breakFree l.raw (List.mem_map_of_mem mem)
  · intro cut ended
    rw [Document.rawLines_ofText]
    exact (laidOut_joined ended).splitLines_eq

/-- All three breaks, two of them around an empty line, and a last line without one. -/
def mixedBreaks : List EndedLine :=
  [⟨"class A".toList, "\r".toList⟩, ⟨[], "\r\n".toList⟩, ⟨"\x7b".toList, "\n".toList⟩,
    ⟨"\x7d".toList, []⟩]

theorem mixed_breaks_split :
    WellEnded mixedBreaks ∧ joined mixedBreaks = "class A\r\r\n\x7b\n\x7d".toList ∧
      (Document.ofText "class A\r\r\n\x7b\n\x7d".toList).rawLines =
        ["class A".toList, [], "\x7b".toList, "\x7d".toList] := by
  have ended : WellEnded mixedBreaks := by
    simp [mixedBreaks, wellEnded_cons₂, wellEnded_singleton, BreakFree, breaks, EndedLine.Apart]
  have text : joined mixedBreaks = "class A\r\r\n\x7b\n\x7d".toList := by decide
  have lines := splitting_inverts_joining.2 mixedBreaks ended
  rw [text] at lines
  exact ⟨ended, text, lines⟩

end StyleGate
