import StyleGate.Proofs.Braces.BodyEnd

/-!
# Lines against characters

A body is opened by a brace and closed by the brace that matches it, which reading character by
character finds. The scan of lines sees a depth only where a line ends. It never stops before the
line of the matching brace, and it stops there exactly if the rest of that line opens as many braces
as it closes. This needs that nothing closes before the first brace opens.
-/

namespace StyleGate.Braces

/-! ## Reading characters -/

/-- The characters of lines, each with the number of its line. -/
def placed (line : Nat) : List Text → List (Nat × Char)
  | [] => []
  | l :: ls => l.map (line, ·) ++ placed (line + 1) ls

/-- A closing brace: the number of its line, and the characters after it. -/
structure Match where
  line : Nat
  after : List (Nat × Char)
  deriving DecidableEq, Repr

/-- Reads character by character, with the number of braces open, up to the brace that closes the
first one. While none is open, a closing brace closes nothing. -/
def matchFrom (depth : Nat) : List (Nat × Char) → Option Match
  | [] => none
  | (line, c) :: cs =>
    if c = '{' then matchFrom (depth + 1) cs
    else if c = '}' then (if depth = 1 then some ⟨line, cs⟩ else matchFrom (depth - 1) cs)
    else matchFrom depth cs

/-- What follows the brace on its own line. -/
def Match.rest (m : Match) : Text := (m.after.filter fun (line, _) => line == m.line).map Prod.snd

/-- If a brace opens, none closes before the first one that does. -/
def OpensFirst (s : Text) : Prop := '{' ∈ s → '}' ∉ s.takeWhile (· != '{')

instance (s : Text) : Decidable (OpensFirst s) :=
  inferInstanceAs (Decidable ('{' ∈ s → '}' ∉ s.takeWhile (· != '{')))

/-- Opening braces minus closing ones. -/
def excess (s : Text) : Int := opening s - closing s

lemma excess_nil : excess [] = 0 := rfl

lemma excess_append (s t : Text) : excess (s ++ t) = excess s + excess t := by
  simp only [excess, opening, closing, List.count_append]
  omega

lemma excess_open (s : Text) : excess ('{' :: s) = excess s + 1 := by
  simp [excess, opening, closing]
  omega

lemma excess_close (s : Text) : excess ('}' :: s) = excess s - 1 := by
  simp [excess, opening, closing]
  omega

lemma excess_other {c : Char} (notOpen : c ≠ '{') (notClose : c ≠ '}') (s : Text) :
    excess (c :: s) = excess s := by
  simp [excess, opening, closing, notOpen, notClose]

lemma matchFrom_open (depth line : Nat) (cs : List (Nat × Char)) :
    matchFrom depth ((line, '{') :: cs) = matchFrom (depth + 1) cs := rfl

lemma matchFrom_close_last (line : Nat) (cs : List (Nat × Char)) :
    matchFrom 1 ((line, '}') :: cs) = some ⟨line, cs⟩ := rfl

lemma matchFrom_close {depth : Nat} (several : depth ≠ 1) (line : Nat) (cs : List (Nat × Char)) :
    matchFrom depth ((line, '}') :: cs) = matchFrom (depth - 1) cs := by
  simp [matchFrom, several]

lemma matchFrom_other {c : Char} (notOpen : c ≠ '{') (notClose : c ≠ '}') (depth line : Nat)
    (cs : List (Nat × Char)) : matchFrom depth ((line, c) :: cs) = matchFrom depth cs := by
  simp [matchFrom, notOpen, notClose]

/-- One line, read with braces open: either the match is on it, or it leaves braces open, as many as
the counts of the line say. -/
lemma matchFrom_line {depth : Nat} (inside : 0 < depth) (line : Nat) (l : Text)
    (rest : List (Nat × Char)) :
    (∃ front tail, l = front ++ '}' :: tail ∧ depth + excess front = 1 ∧
      matchFrom depth (l.map (line, ·) ++ rest) = some ⟨line, tail.map (line, ·) ++ rest⟩) ∨
    ∃ next : Nat, 0 < next ∧ next = depth + excess l ∧
      matchFrom depth (l.map (line, ·) ++ rest) = matchFrom next rest := by
  induction l generalizing depth with
  | nil => exact Or.inr ⟨depth, inside, by rw [excess_nil]; omega, rfl⟩
  | cons c l ih =>
    rw [List.map_cons, List.cons_append]
    by_cases opens : c = '{'
    · subst opens
      rw [matchFrom_open, excess_open]
      rcases ih (show 0 < depth + 1 by omega) with ⟨front, tail, rfl, level, found⟩ |
        ⟨next, positive, level, found⟩
      · refine Or.inl ⟨'{' :: front, tail, rfl, ?_, found⟩
        rw [excess_open]
        omega
      · exact Or.inr ⟨next, positive, by omega, found⟩
    · by_cases closes : c = '}'
      · subst closes
        by_cases last : depth = 1
        · subst last
          exact Or.inl ⟨[], l, rfl, by rw [excess_nil]; rfl, matchFrom_close_last line _⟩
        · rw [matchFrom_close last, excess_close]
          rcases ih (show 0 < depth - 1 by omega) with ⟨front, tail, rfl, level, found⟩ |
            ⟨next, positive, level, found⟩
          · refine Or.inl ⟨'}' :: front, tail, rfl, ?_, found⟩
            rw [excess_close]
            omega
          · exact Or.inr ⟨next, positive, by omega, found⟩
      · rw [matchFrom_other opens closes, excess_other opens closes]
        rcases ih inside with ⟨front, tail, rfl, level, found⟩ | unmatched
        · refine Or.inl ⟨c :: front, tail, rfl, ?_, found⟩
          rw [excess_other opens closes]
          exact level
        · exact Or.inr unmatched

lemma le_of_mem_placed {line : Nat} {ls : List Text} {c : Nat × Char} (mem : c ∈ placed line ls) :
    line ≤ c.1 := by
  induction ls generalizing line with
  | nil => cases mem
  | cons l ls ih =>
    rcases List.mem_append.mp mem with here | later
    · obtain ⟨_, -, rfl⟩ := List.mem_map.mp here
      exact Nat.le_refl line
    · have := ih later
      omega

/-- What follows a brace on its line ends with the line. -/
lemma rest_placed (line : Nat) (tail : Text) (ls : List Text) :
    (Match.mk line (tail.map (line, ·) ++ placed (line + 1) ls)).rest = tail := by
  have here : (tail.map (line, ·)).filter (fun c => c.1 == line) = tail.map (line, ·) := by
    refine List.filter_eq_self.mpr ?_
    intro c mem
    obtain ⟨_, -, rfl⟩ := List.mem_map.mp mem
    exact beq_self_eq_true line
  have later : (placed (line + 1) ls).filter (fun c => c.1 == line) = [] := by
    refine List.filter_eq_nil_iff.mpr ?_
    intro c mem
    have below := le_of_mem_placed mem
    simp only [beq_iff_eq]
    omega
  rw [Match.rest]
  simp only [List.filter_append, here, later, List.append_nil, List.map_map]
  exact List.map_id tail

/-! ## Inside the body -/

/-- The scan of lines `closes` falls short of no match, and stops on its line exactly if the rest of
that line is level. Without a match it does not stop. -/
def Agrees (closes : Option Close) : Option Match → Prop
  | none => closes = none
  | some m => (∀ close, closes = some close → m.line ≤ close.position) ∧
      ((∃ after, closes = some ⟨m.line, after⟩) ↔ excess m.rest = 0)

lemma position_le_of_closeFrom {position depth : Int} {inside : Bool} {ls : List Text}
    {close : Close} (stops : closeFrom position depth inside ls = some close) :
    position ≤ close.position := by
  obtain ⟨k, -, -, -, rfl⟩ := closeFrom_eq_some_iff.mp stops
  exact Int.le_add_of_nonneg_right (Int.natCast_nonneg k)

/-- The line on which the match is found brings the depth to that of its rest. -/
lemma agrees_of_match {line depth : Nat} {front tail : Text} (level : depth + excess front = 1)
    (ls : List Text) :
    Agrees (closeFrom line depth true ((front ++ '}' :: tail) :: ls))
      (some ⟨line, tail.map (line, ·) ++ placed (line + 1) ls⟩) := by
  have after : depth + excess (front ++ '}' :: tail) = excess tail := by
    rw [excess_append, excess_close]
    omega
  have balanced : BalancedFrom depth true [front ++ '}' :: tail] ↔ excess tail = 0 := by
    simp only [BalancedFrom, true_or, true_and, net_cons, net_nil, Int.add_zero]
    rw [← after]
    rfl
  refine ⟨fun close stops => position_le_of_closeFrom stops, ?_⟩
  rw [rest_placed, ← balanced]
  constructor
  · rintro ⟨rest, stops⟩
    by_contra unbalanced
    rw [closeFrom_cons_of_not_balanced line unbalanced] at stops
    have beyond := position_le_of_closeFrom stops
    simp only at beyond
    omega
  · intro stop
    exact ⟨ls, closeFrom_cons_of_balanced line stop ls⟩

/-- With braces open, and as many as the depth says, both readings go on together line by line. -/
theorem agrees_inside {depth : Nat} (inside : 0 < depth) (line : Nat) (ls : List Text) :
    Agrees (closeFrom line depth true ls) (matchFrom depth (placed line ls)) := by
  induction ls generalizing depth line with
  | nil => rfl
  | cons l ls ih =>
    rcases matchFrom_line inside line l (placed (line + 1) ls) with
      ⟨front, tail, rfl, level, found⟩ | ⟨next, positive, level, found⟩
    · rw [placed, found]
      exact agrees_of_match level ls
    · have unbalanced : ¬ BalancedFrom depth true [l] := by
        rintro ⟨-, stop⟩
        rw [net_cons, net_nil, Int.add_zero] at stop
        have : depth + excess l = 0 := stop
        omega
      have goesOn : closeFrom line depth true (l :: ls) =
          closeFrom ((line + 1 : Nat) : Int) next true ls := by
        rw [closeFrom_cons_of_not_balanced line unbalanced, level]
        rfl
      rw [placed, found, goesOn]
      exact ih positive (line + 1)

/-! ## Before the body -/

lemma matchFrom_braceless {s : Text} (noOpen : '{' ∉ s) (noClose : '}' ∉ s) (depth line : Nat)
    (rest : List (Nat × Char)) :
    matchFrom depth (s.map (line, ·) ++ rest) = matchFrom depth rest := by
  induction s with
  | nil => rfl
  | cons c s ih =>
    rw [List.mem_cons, not_or] at noOpen noClose
    rw [List.map_cons, List.cons_append, matchFrom_other (Ne.symm noOpen.1) (Ne.symm noClose.1)]
    exact ih noOpen.2 noClose.2

lemma matchFrom_never_open {cs : List (Nat × Char)} (never : ∀ c ∈ cs, c.2 ≠ '{') :
    matchFrom 0 cs = none := by
  induction cs with
  | nil => rfl
  | cons c cs ih =>
    have rest := ih fun d mem => never d (List.mem_cons_of_mem c mem)
    have notOpen := never c List.mem_cons_self
    obtain ⟨line, c⟩ := c
    by_cases closes : c = '}'
    · rw [closes, matchFrom_close (by decide)]
      exact rest
    · rw [matchFrom_other notOpen closes]
      exact rest

lemma mem_flatten_of_mem_placed {line : Nat} {ls : List Text} {c : Nat × Char}
    (mem : c ∈ placed line ls) : c.2 ∈ ls.flatten := by
  induction ls generalizing line with
  | nil => cases mem
  | cons l ls ih =>
    rw [List.flatten_cons, List.mem_append]
    rcases List.mem_append.mp mem with here | later
    · obtain ⟨d, there, rfl⟩ := List.mem_map.mp here
      exact Or.inl there
    · exact Or.inr (ih later)

lemma opens_iff_mem_flatten {ls : List Text} : Opens ls ↔ '{' ∈ ls.flatten := by
  simp only [Opens, opening, List.count_pos_iff, List.mem_flatten]

lemma closeFrom_never_open {ls : List Text} (never : '{' ∉ ls.flatten) (position depth : Int) :
    closeFrom position depth false ls = none := by
  rw [← opens_iff_mem_flatten] at never
  cases stops : closeFrom position depth false ls with
  | none => rfl
  | some close =>
    obtain ⟨k, -, ⟨opened, -⟩, -, -⟩ := closeFrom_eq_some_iff.mp stops
    obtain ⟨l, mem, opens⟩ := opened.resolve_left Bool.false_ne_true
    exact absurd ⟨l, List.mem_of_mem_take mem, opens⟩ never

lemma excess_braceless {s : Text} (noOpen : '{' ∉ s) (noClose : '}' ∉ s) : excess s = 0 := by
  rw [excess, opening, closing, List.count_eq_zero.mpr noOpen, List.count_eq_zero.mpr noClose]
  rfl

/-- The line on which the body opens is read as if it began after the brace. -/
lemma closeFrom_enter {lead : Text} (noOpen : '{' ∉ lead) (noClose : '}' ∉ lead) (more : Text)
    (position : Int) (ls : List Text) :
    closeFrom position 0 false ((lead ++ '{' :: more) :: ls) =
      closeFrom position 1 true (more :: ls) := by
  have opens : 0 < opening (lead ++ '{' :: more) := List.count_pos_iff.mpr (by simp)
  have level : (0 : Int) + excess (lead ++ '{' :: more) = 1 + excess more := by
    rw [excess_append, excess_braceless noOpen noClose, excess_open]
    omega
  simp only [closeFrom, opens, decide_true, Bool.or_true, Bool.true_or]
  rw [← excess, ← excess, level]

lemma closeFrom_skip {l : Text} (noOpen : '{' ∉ l) (noClose : '}' ∉ l) (position : Int)
    (ls : List Text) :
    closeFrom position 0 false (l :: ls) = closeFrom (position + 1) 0 false ls := by
  have shut : ¬ 0 < opening l := by simpa [opening] using noOpen
  have level : (0 : Int) + excess l = 0 := by rw [excess_braceless noOpen noClose, Int.add_zero]
  simp only [closeFrom, shut, decide_false, Bool.or_false, Bool.false_and]
  rw [← excess, level]
  rfl

lemma takeWhile_unopened {front : Text} (noOpen : '{' ∉ front) (back : Text) :
    (front ++ '{' :: back).takeWhile (· != '{') = front := by
  have kept : ∀ c ∈ front, (c != '{') = true := by
    intro c mem
    exact bne_iff_ne.mpr fun same => noOpen (same ▸ mem)
  rw [List.takeWhile_append_of_pos kept, List.takeWhile_cons_of_neg (by simp), List.append_nil]

lemma opensFirst_iff {front : Text} (noOpen : '{' ∉ front) (back : Text) :
    OpensFirst (front ++ '{' :: back) ↔ '}' ∉ front := by
  rw [OpensFirst, takeWhile_unopened noOpen]
  exact forall_prop_of_true (by simp)

/-- What is in front of a text in which a brace opens, and opens none, closes none either. -/
lemma opensFirst_append {s t : Text} (noOpen : '{' ∉ s) (opens : '{' ∈ t) :
    OpensFirst (s ++ t) ↔ '}' ∉ s ∧ OpensFirst t := by
  obtain ⟨front, back, rfl, shut⟩ := List.eq_append_cons_of_mem opens
  have noOpen : '{' ∉ s ++ front := by simpa using ⟨noOpen, shut⟩
  rw [← List.append_assoc, opensFirst_iff noOpen, opensFirst_iff shut, List.mem_append, not_or]

theorem agrees_of_opensFirst {ls : List Text} (first : OpensFirst ls.flatten) (line : Nat) :
    Agrees (closeFrom line 0 false ls) (matchFrom 0 (placed line ls)) := by
  induction ls generalizing line with
  | nil => rfl
  | cons l ls ih =>
    by_cases opens : '{' ∈ l
    · obtain ⟨lead, more, rfl, noOpen⟩ := List.eq_append_cons_of_mem opens
      have noClose : '}' ∉ lead := by
        rw [List.flatten_cons, List.append_assoc, List.cons_append] at first
        exact (opensFirst_iff noOpen _).mp first
      have entered : matchFrom 0 (placed line ((lead ++ '{' :: more) :: ls)) =
          matchFrom 1 (placed line (more :: ls)) := by
        rw [placed, List.map_append, List.append_assoc, matchFrom_braceless noOpen noClose]
        rfl
      rw [closeFrom_enter noOpen noClose, entered]
      exact agrees_inside Nat.one_pos line (more :: ls)
    · by_cases later : '{' ∈ ls.flatten
      · obtain ⟨noClose, first⟩ := (opensFirst_append opens later).mp first
        rw [closeFrom_skip opens noClose, placed, matchFrom_braceless opens noClose]
        exact ih first (line + 1)
      · have never : '{' ∉ (l :: ls).flatten := by simp [opens, later]
        have unmatched : matchFrom 0 (placed line (l :: ls)) = none := by
          refine matchFrom_never_open fun c mem same => never ?_
          exact same ▸ mem_flatten_of_mem_placed mem
        rw [closeFrom_never_open never, unmatched]
        rfl

/-! ## Every scan -/

/-- The brace that closes the body, read character by character. -/
def matching (lines : List Text) (start : Nat) : Option Match :=
  matchFrom 0 (placed start (lines.drop start))

/-- From a start after which nothing closes before the first brace opens, a body without a matching
brace never closes by lines. Otherwise it closes by lines on the line of that brace or further down,
and on that line exactly if as many braces open as close in the rest of it. -/
theorem bodyEnd_against_matching (lines : List Text) (start : Nat)
    (first : OpensFirst (lines.drop start).flatten) :
    (matching lines start = none ∨ '{' ∉ (lines.drop start).flatten →
      bodyEnd lines start = .ok none) ∧
    ∀ m, matching lines start = some m →
      (∀ e, bodyEnd lines start = .ok (some e) → m.line ≤ e) ∧
      (bodyEnd lines start = .ok (some m.line) ↔ m.rest.count '{' = m.rest.count '}') := by
  have agrees := agrees_of_opensFirst first start
  rw [bodyEnd_natCast]
  constructor
  · rintro (unmatched | never)
    · rw [matching] at unmatched
      rw [unmatched] at agrees
      rw [show closeFrom start 0 false (lines.drop start) = none from agrees]
      rfl
    · rw [closeFrom_never_open never]
      rfl
  · intro m found
    rw [matching] at found
    rw [found] at agrees
    obtain ⟨notBefore, stops⟩ := agrees
    have level : excess m.rest = 0 ↔ m.rest.count '{' = m.rest.count '}' := by
      rw [excess, opening, closing]
      omega
    simp only [Except.ok.injEq, Option.map_eq_some_iff]
    constructor
    · rintro e ⟨close, stopped, rfl⟩
      exact notBefore close stopped
    · rw [← level, ← stops]
      constructor
      · rintro ⟨⟨position, after⟩, stopped, rfl⟩
        exact ⟨after, stopped⟩
      · rintro ⟨after, stopped⟩
        exact ⟨_, stopped, rfl⟩

/-- The lines of a method whose first branch closes and opens on one line. -/
def branchingBody : List Text :=
  ["public void Run()".toList, "\x7b".toList, "if (ready) \x7b Go(); \x7d \x7d else \x7b".toList,
    "\x7d \x7b \x7d".toList]

/-- The match stands before a brace that opens, so the scan of lines goes on to the next line. -/
theorem bodyEnd_past_else :
    OpensFirst (branchingBody.drop 0).flatten ∧
      ∃ m, matching branchingBody 0 = some m ∧ m.line = 2 ∧ m.rest = " else \x7b".toList ∧
        bodyEnd branchingBody 0 ≠ .ok (some 2) ∧ bodyEnd branchingBody 0 = .ok (some 3) := by
  have first : OpensFirst (branchingBody.drop 0).flatten := by decide
  obtain ⟨-, matched⟩ := bodyEnd_against_matching branchingBody 0 first
  refine ⟨first, _, rfl, rfl, by decide, ?_, by decide⟩
  obtain ⟨-, stops⟩ := matched _ rfl
  exact fun stopped => absurd (stops.mp stopped) (by decide)

end StyleGate.Braces
