import StyleGate.Proofs.Rule.Spacing

/-!
# The line on which a body ends

The scan of lines ends a body where the counts of all lines from its start are level. The lines may
close more than they open, though: the scope around a method without a body closes before the next
body opens, or one line closes a body and the scope around it. Then the depth is below zero, and a
line can bring it back to zero that closes nothing. This is the only way in which a line without a
closing brace is named as the end of a body.
-/

namespace StyleGate

namespace Braces

lemma between_succ {lines : List Text} {i e : Nat} {l : Text} (le : i ≤ e)
    (line : lines[e]? = some l) : between lines i (e + 1) = between lines i e ++ [l] := by
  have last : between lines e (e + 1) = [l] := by
    rw [between, Nat.add_sub_cancel_left, List.take_one, List.head?_drop, line]
    rfl
  rw [between_append lines le (Nat.le_succ e), last]

lemma mem_close_iff_closing (l : Text) : '}' ∈ l ↔ 0 < closing l := by
  rw [closing, List.count_pos_iff]

/-- Before the end of a body, lines that opened a brace are not level. -/
lemma ClosesAt.not_balanced_before {lines : List Text} {i e : Nat} (closes : ClosesAt lines i e) :
    ¬ Balanced (between lines i e) := by
  by_cases start : i = e
  · subst start
    rw [between, Nat.sub_self, List.take_zero]
    exact fun balanced => not_opens_nil balanced.1
  · have le := closes.le
    have last : e - 1 + 1 = e := by omega
    have earlier := closes.first (e - 1) (by omega) (by omega)
    rwa [last] at earlier

/-- The lines from `i` up to line `e` close more than they open, and line `e`, which is `l`, opens
just as many braces as are missing. -/
def Repays (lines : List Text) (i e : Nat) (l : Text) : Prop :=
  net (between lines i e) < 0 ∧ net (between lines i e) + opening l = 0

theorem ClosesAt.mem_close_iff {lines : List Text} {i e : Nat} {l : Text}
    (closes : ClosesAt lines i e) (line : lines[e]? = some l) :
    '}' ∈ l ↔ ¬ Repays lines i e l := by
  obtain ⟨opens, level⟩ := closes.balanced
  rw [between_succ closes.le line] at opens level
  rw [net_append, net_cons, net_nil, Int.add_zero] at level
  rw [mem_close_iff_closing]
  constructor
  · rintro some ⟨-, repaid⟩
    omega
  · intro unpaid
    by_contra none
    refine unpaid ⟨?_, by omega⟩
    by_contra nonneg
    -- Level before this line and level on it: the scan had stopped one line earlier.
    have shut : ¬ Opens [l] := by
      rw [opens_cons]
      exact not_or.mpr ⟨by omega, not_opens_nil⟩
    have before := ((opens_append _ _).mp opens).resolve_right shut
    exact closes.not_balanced_before ⟨before, by omega⟩

lemma ClosesAt.exists_line {lines : List Text} {i e : Nat} (closes : ClosesAt lines i e) :
    ∃ l, lines[e]? = some l ∧ ('}' ∈ l ↔ ¬ Repays lines i e l) := by
  obtain ⟨l, line⟩ : ∃ l, lines[e]? = some l := ⟨_, List.getElem?_eq_getElem closes.lt⟩
  exact ⟨l, line, closes.mem_close_iff line⟩

lemma exists_closesAt_of_bodyEnd {lines : List Text} {i : Nat} {e : Int}
    (ends : bodyEnd lines i = .ok (some e)) : ∃ n : Nat, e = n ∧ ClosesAt lines i n := by
  have position := ends
  rw [bodyEnd_natCast, Except.ok.injEq, Option.map_eq_some_iff] at position
  obtain ⟨close, stops, rfl⟩ := position
  obtain ⟨n, closes, rfl⟩ := closeFrom_drop_eq_some_iff.mp stops
  exact ⟨n, rfl, closes⟩

end Braces

open Braces Rule

/-- A body that opens at or after a line ends on a line that closes a brace, unless that line only
opens the braces that the lines before it have closed too many. The lines that the spacing rule
names are such ends, from the line of a signature. -/
theorem ending_line_closes_unless_repaying (lines : List Text) (start : Nat) (d : Document) :
    (∀ e : Int, bodyEnd lines start = .ok (some e) →
      ∃ (n : Nat) (l : Text), e = n ∧ start ≤ n ∧ lines[n]? = some l ∧
        ('}' ∈ l ↔ ¬ Repays lines start n l)) ∧
    ∀ v ∈ checkSubroutineSpacing d,
      ∃ (i n : Nat) (l : Text), HeadsBody d.rawLines i ∧ v.line = some ((n : Int) + 1) ∧
        d.rawLines[n]? = some l ∧ ('}' ∈ l ↔ ¬ Repays d.rawLines i n l) := by
  constructor
  · intro e ends
    obtain ⟨n, rfl, closes⟩ := exists_closesAt_of_bodyEnd ends
    obtain ⟨l, line, closing⟩ := closes.exists_line
    exact ⟨n, l, rfl, closes.le, line, closing⟩
  · intro v reported
    obtain ⟨i, e, crowds, rfl⟩ := exists_of_mem_checkSubroutineSpacing reported
    obtain ⟨l, line, closing⟩ := (bodyEnd_eq_some_iff.mp crowds.closes).exists_line
    exact ⟨i, e, l, crowds.heads, rfl, line, closing⟩

/-- A method without a body, the last of its scope, and a class after it. -/
def bodilessMethod : List Text :=
  ["public int Area();", "\x7d", "class Box", "\x7b"].map String.toList

/-- The line that opens the class is where the method ends; the rule names it if more follows. -/
theorem ending_line_only_opens :
    bodyEnd bodilessMethod 0 = .ok (some 3) ∧ bodilessMethod[3]? = some ['{'] ∧ '}' ∉ ['{'] ∧
      ∃ v ∈ checkSubroutineSpacing
          (Document.ofText "public int Area();\n\x7d\nclass Box\n\x7b\nint width;\n\x7d\n".toList),
        v.line = some 4 := by
  decide

/-- An ordinary method, and code right after it. -/
def ordinaryMethod : Document :=
  Document.ofText "public void Run()\n\x7b\n\x7d\nint x;\n".toList

/-- There the lines before have closed one brace too many, and the line opens one. The end of an
ordinary method closes its body. -/
theorem ending_lines_of_two_methods :
    (bodyEnd bodilessMethod 0 = .ok (some 3) ∧ Repays bodilessMethod 0 3 ['{']) ∧
      spacingViolation 2 ∈ checkSubroutineSpacing ordinaryMethod ∧
      ∃ i, HeadsBody ordinaryMethod.rawLines i ∧ ¬ Repays ordinaryMethod.rawLines i 2 ['}'] := by
  obtain ⟨body, rule⟩ := ending_line_closes_unless_repaying bodilessMethod 0 ordinaryMethod
  constructor
  · have ends : bodyEnd bodilessMethod 0 = .ok (some 3) := by decide
    obtain ⟨n, l, same, -, line, closes⟩ := body 3 ends
    obtain rfl : n = 3 := by omega
    obtain rfl : ['{'] = l := Option.some.inj line
    have onlyOpens : '}' ∉ ['{'] := by decide
    exact ⟨ends, not_not.mp (mt closes.mpr onlyOpens)⟩
  · have reported : spacingViolation 2 ∈ checkSubroutineSpacing ordinaryMethod := by decide
    obtain ⟨i, n, l, heads, named, line, closes⟩ := rule _ reported
    obtain rfl : n = 2 := by
      have := Option.some.inj named
      omega
    obtain rfl : ['}'] = l := Option.some.inj line
    exact ⟨reported, i, heads, closes.mp (by decide)⟩

end StyleGate
