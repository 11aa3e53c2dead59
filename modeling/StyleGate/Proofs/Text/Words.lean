import StyleGate.Proofs.Text.Runs

/-!
# Words of a text

The words of a text are what is left of it between the characters that are no word characters. They
are its word runs, in order. A run can also be told by its place: word characters, and no word
character right before or right after them. Every run ends before the next one starts, so searching
for a run finds the leftmost one that is accepted.
-/

namespace StyleGate.Text

def words (s : Text) : List Text := (s.splitOnP fun c => !isWord c).filter fun w => !w.isEmpty

lemma words_across {c : Char} (hc : isWord c = false) (a b : Text) :
    words (a ++ c :: b) = words a ++ words b := by
  rw [words, List.splitOnP_append_cons a b (by simp [hc]), List.filter_append]
  rfl

lemma words_solid {w : Text} (solid : ∀ c ∈ w, isWord c = true) :
    words w = if w = [] then [] else [w] := by
  have whole : (w.splitOnP fun c => !isWord c) = [w] :=
    List.splitOnP_eq_singleton fun c hc => by rw [solid c hc, Bool.not_true]
  rw [words, whole]
  by_cases empty : w = []
  · simp [empty]
  · simp [empty]

lemma words_reverse {seen : Text} (solid : ∀ c ∈ seen, isWord c = true) :
    words seen.reverse = if seen = [] then [] else [seen.reverse] := by
  rw [words_solid fun c hc => solid c (List.mem_reverse.mp hc)]
  simp only [List.reverse_eq_nil_iff]

lemma map_fst_runsFrom {seen : Text} (solid : ∀ c ∈ seen, isWord c = true) (s : Text) :
    (runsFrom seen s).map Prod.fst = words (seen.reverse ++ s) := by
  induction s generalizing seen with
  | nil =>
    rw [List.append_nil, words_reverse solid, runsFrom]
    split
    · rfl
    · rfl
  | cons c s ih =>
    by_cases hc : isWord c = true
    · rw [runsFrom, if_pos hc, ih (List.forall_mem_cons.mpr ⟨hc, solid⟩), List.reverse_cons,
        List.append_assoc, List.singleton_append]
    · rw [runsFrom, if_neg hc, words_across (Bool.eq_false_iff.mpr hc), words_reverse solid,
        List.map_append, ih (List.forall_mem_nil _)]
      split
      · rfl
      · rfl

/-- The runs are the words. -/
theorem map_fst_runs (s : Text) : (runs s).map Prod.fst = words s :=
  map_fst_runsFrom (List.forall_mem_nil _) s

/-- A search that looks at the runs alone takes the first word that is accepted. -/
theorem findRun?_eq_find?_words (accepts : Text → Bool) (s : Text) :
    findRun? (fun w _ => accepts w) s = (words s).find? accepts := by
  rw [findRun?_eq, ← map_fst_runs, List.find?_map]
  rfl

/-! ## Words in their places -/

/-- In the text `a ++ (w ++ r)` the part `w` is a whole word. -/
structure WholeWord (a w r : Text) : Prop where
  visible : w ≠ []
  solid : ∀ c ∈ w, isWord c = true
  before : ∀ c ∈ a.getLast?, isWord c = false
  after : Stops isWord r

namespace WholeWord

variable {a w r : Text}

lemma eq_takeWhile (whole : WholeWord a w r) : w = (w ++ r).takeWhile isWord :=
  (takeWhile_stretch whole.solid whole.after).symm

/-- Nothing but word characters before a whole word is nothing. -/
lemma front_eq_nil (whole : WholeWord a w r) (solid : ∀ c ∈ a, isWord c = true) : a = [] := by
  by_contra visible
  have last := List.getLast_mem visible
  have other := whole.before _ (List.getLast?_eq_some_getLast visible)
  rw [solid _ last] at other
  cases other

/-- Where word characters come first, a whole word is all of them, or it comes later. -/
lemma first_or_later {u t : Text} (whole : WholeWord a w r) (solid : ∀ c ∈ u, isWord c = true)
    (stop : Stops isWord t) (text : u ++ t = a ++ (w ++ r)) :
    (a = [] ∧ w = u ∧ r = t) ∨ ∃ b, a = u ++ b ∧ b ≠ [] ∧ t = b ++ (w ++ r) := by
  rcases List.append_eq_append_iff.mp text with ⟨b, rfl, rest⟩ | ⟨v, rfl, rest⟩
  · refine Or.inr ⟨b, rfl, ?_, rest⟩
    rintro rfl
    -- The word would start where the word characters have stopped.
    obtain ⟨c, w', rfl⟩ := List.exists_cons_of_ne_nil whole.visible
    have other : isWord c = false := stop c (by rw [rest]; rfl)
    rw [whole.solid c List.mem_cons_self] at other
    cases other
  · obtain rfl := whole.front_eq_nil fun c hc => solid c (List.mem_append_left v hc)
    have word : w = v := by
      rw [whole.eq_takeWhile, rest]
      exact takeWhile_stretch solid stop
    subst word
    exact Or.inl ⟨rfl, rfl, List.append_cancel_left rest⟩

/-- What stands before a character that is no word character does not touch a later word. -/
lemma across_iff {c : Char} (hc : isWord c = false) (u : Text) :
    WholeWord (u ++ c :: a) w r ↔ WholeWord a w r := by
  have last : (∀ d ∈ (u ++ c :: a).getLast?, isWord d = false) ↔
      ∀ d ∈ a.getLast?, isWord d = false := by
    rw [List.getLast?_append, List.getLast?_cons]
    cases a.getLast? with
    | none => simp [hc]
    | some d => simp
  exact ⟨fun ⟨v, s, b, e⟩ => ⟨v, s, last.mp b, e⟩, fun ⟨v, s, b, e⟩ => ⟨v, s, last.mpr b, e⟩⟩

lemma exists_iff {u t : Text} (solid : ∀ c ∈ u, isWord c = true) (stop : Stops isWord t) :
    (∃ a, WholeWord a w r ∧ u ++ t = a ++ (w ++ r)) ↔
      (u ≠ [] ∧ w = u ∧ r = t) ∨ ∃ a, WholeWord a w r ∧ t.tail = a ++ (w ++ r) := by
  constructor
  · rintro ⟨a, whole, text⟩
    rcases whole.first_or_later solid stop text with ⟨-, rfl, rfl⟩ | ⟨b, rfl, later, rfl⟩
    · exact Or.inl ⟨whole.visible, rfl, rfl⟩
    · obtain ⟨c, b, rfl⟩ := List.exists_cons_of_ne_nil later
      exact Or.inr ⟨b, (across_iff (stop c rfl) u).mp whole, rfl⟩
  · rintro (⟨visible, rfl, rfl⟩ | ⟨a, whole, rest⟩)
    · exact ⟨[], ⟨visible, solid, by simp, stop⟩, rfl⟩
    · cases t with
      | nil =>
        rw [List.tail_nil, eq_comm, List.append_eq_nil_iff, List.append_eq_nil_iff] at rest
        exact False.elim (whole.visible rest.2.1)
      | cons c s =>
        refine ⟨u ++ c :: a, (across_iff (stop c rfl) u).mpr whole, ?_⟩
        rw [List.append_assoc, List.cons_append, ← rest, List.tail_cons]

end WholeWord

lemma mem_runsFrom_iff {seen : Text} (solid : ∀ c ∈ seen, isWord c = true) (s w r : Text) :
    (w, r) ∈ runsFrom seen s ↔ ∃ a, WholeWord a w r ∧ seen.reverse ++ s = a ++ (w ++ r) := by
  induction s generalizing seen with
  | nil =>
    have none : ¬ ∃ a, WholeWord a w r ∧ [] = a ++ (w ++ r) := by
      rintro ⟨a, whole, text⟩
      simp [whole.visible] at text
    rw [WholeWord.exists_iff (by simpa using solid) (by simp [Stops]), List.tail_nil,
      or_iff_left none, runsFrom]
    by_cases empty : seen = []
    · simp [empty]
    · simp [empty]
  | cons c s ih =>
    by_cases hc : isWord c = true
    · rw [runsFrom, if_pos hc, ih (List.forall_mem_cons.mpr ⟨hc, solid⟩), List.reverse_cons,
        List.append_assoc, List.singleton_append]
    · rw [WholeWord.exists_iff (by simpa using solid) (stops_cons (Bool.eq_false_iff.mpr hc) s),
        runsFrom, if_neg hc, List.mem_append, ih (List.forall_mem_nil _)]
      by_cases empty : seen = []
      · simp [empty]
      · simp [empty]

/-- The runs of a text are its whole words, each with what follows it. -/
theorem mem_runs_iff (s w r : Text) :
    (w, r) ∈ runs s ↔ ∃ a, WholeWord a w r ∧ s = a ++ (w ++ r) :=
  mem_runsFrom_iff (List.forall_mem_nil _) s w r

lemma pairwise_ended (R : Text × Text → Text × Text → Prop) (seen r : Text) :
    (if seen = [] then [] else [(seen.reverse, r)]).Pairwise R := by
  split
  · exact List.Pairwise.nil
  · exact List.pairwise_singleton _ _

/-- A run ends before the next one starts. -/
lemma runsFrom_ascending (seen s : Text) :
    (runsFrom seen s).Pairwise fun p q => q.1.length + q.2.length < p.2.length := by
  induction s generalizing seen with
  | nil => exact pairwise_ended _ seen []
  | cons c s ih =>
    rw [runsFrom]
    split
    · exact ih (c :: seen)
    · refine List.pairwise_append.mpr ⟨pairwise_ended _ seen (c :: s), ih [], ?_⟩
      rintro p first ⟨w, r⟩ later
      obtain ⟨a, -, text⟩ := (mem_runs_iff s w r).mp later
      have size := congrArg List.length text
      split at first
      · cases first
      · rw [List.mem_singleton.mp first]
        simp only [List.length_append, List.length_cons] at size ⊢
        omega

/-! ## Searching -/

/-- The word `w` stands in `s`, is accepted there, and no whole word before it is. -/
def FirstWord (accepts : Text → Text → Prop) (s w : Text) : Prop :=
  ∃ a r, WholeWord a w r ∧ accepts w r ∧ s = a ++ (w ++ r) ∧
    ∀ a' w' r', WholeWord a' w' r' → accepts w' r' → s = a' ++ (w' ++ r') → a.length ≤ a'.length

lemma FirstWord.unique {accepts : Text → Text → Prop} {s v w : Text}
    (hv : FirstWord accepts s v) (hw : FirstWord accepts s w) : v = w := by
  obtain ⟨a, r, whole, accepted, rfl, least⟩ := hv
  obtain ⟨a', r', whole', accepted', text, least'⟩ := hw
  have before : a.length = a'.length :=
    Nat.le_antisymm (least a' w r' whole' accepted' text)
      (least' a v r whole accepted rfl)
  have rest := (List.append_inj text before).2
  rw [whole.eq_takeWhile, rest, ← whole'.eq_takeWhile]

theorem firstWord_of_findRun? {accepts : Text → Text → Bool} {s w : Text}
    (found : findRun? accepts s = some w) :
    FirstWord (fun w r => accepts w r = true) s w := by
  rw [findRun?_eq, Option.map_eq_some_iff] at found
  obtain ⟨⟨w, r⟩, found, rfl⟩ := found
  obtain ⟨accepted, before, after, split, rejected⟩ := List.find?_eq_some_iff_append.mp found
  obtain ⟨a, whole, text⟩ := (mem_runs_iff s w r).mp (List.mem_of_find?_eq_some found)
  refine ⟨a, r, whole, accepted, text, ?_⟩
  intro a' w' r' whole' accepted' text'
  have mem := (mem_runs_iff s w' r').mpr ⟨a', whole', text'⟩
  have order := runsFrom_ascending [] s
  rw [← runs, split, List.pairwise_append] at order
  rw [split, List.mem_append, List.mem_cons] at mem
  have size := congrArg List.length (text.symm.trans text')
  simp only [List.length_append] at size
  rcases mem with early | same | later
  · have := rejected _ early
    simp [accepted'] at this
  · cases same
    omega
  · have := (List.pairwise_cons.mp order.2.1).1 _ later
    simp only at this
    omega

theorem findRun?_eq_some_iff {accepts : Text → Text → Bool} {s w : Text} :
    findRun? accepts s = some w ↔ FirstWord (fun w r => accepts w r = true) s w := by
  constructor
  · exact firstWord_of_findRun?
  · intro first
    have ⟨a, r, whole, accepted, text, _⟩ := first
    have some : (findRun? accepts s).isSome = true := by
      rw [isSome_findRun?, List.any_eq_true]
      exact ⟨(w, r), (mem_runs_iff s w r).mpr ⟨a, whole, text⟩, accepted⟩
    obtain ⟨v, found⟩ := Option.isSome_iff_exists.mp some
    rw [found, (firstWord_of_findRun? found).unique first]

end StyleGate.Text
