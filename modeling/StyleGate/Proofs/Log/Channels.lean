import Mathlib.Data.List.Find
import Mathlib.Data.List.Induction
import Mathlib.Tactic.Common
import StyleGate.Log.State

/-!
# The tree of channels

A channel stands below the nearest channel in use that its name continues, and names get shorter on
the way up, so the bounded way that the program goes is the whole way. A name that continues one
below the program's channel by a dot and one more part is below it too, whatever is in use.
-/

namespace StyleGate.Log

variable {s : State} {channel above : String}

/-- The channel right above. -/
def State.above? (s : State) (channel : String) : Option String :=
  (beginnings channel).find? s.inUse

/-- The program's channel, and every channel that has it above. -/
inductive State.Descends (s : State) : String → Prop
  | root : s.Descends rootChannel
  | under {channel above : String} (next : s.above? channel = some above)
      (descends : s.Descends above) : s.Descends channel

/-! ## Names get shorter -/

lemma lt_of_mem_cutPlaces {bound p : Nat} {places : List Nat} (mem : p ∈ cutPlaces bound places) :
    p < bound := by
  induction places generalizing bound with
  | nil => cases mem
  | cons q places ih =>
    rw [cutPlaces] at mem
    split at mem
    · exact ih mem
    · split at mem
      · cases mem
      · rcases List.mem_cons.mp mem with rfl | later
        · omega
        · have := ih later
          omega

lemma length_lt_of_mem_beginnings (mem : above ∈ beginnings channel) :
    above.length < channel.length := by
  obtain ⟨p, cut, rfl⟩ := List.mem_map.mp mem
  have short := lt_of_mem_cutPlaces cut
  rw [String.length_ofList, List.length_take, ← String.length_toList (s := channel)]
  omega

lemma length_lt_of_above? (next : s.above? channel = some above) :
    above.length < channel.length :=
  length_lt_of_mem_beginnings (List.mem_of_find?_eq_some next)

lemma State.lineageFrom_succ (s : State) (depth : Nat) (channel : String) :
    s.lineageFrom (depth + 1) channel = channel :: match s.above? channel with
      | some above => s.lineageFrom depth above
      | none => [] := rfl

lemma root_mem_lineageFrom_iff {depth : Nat} (enough : channel.length < depth) :
    rootChannel ∈ s.lineageFrom depth channel ↔ s.Descends channel := by
  induction depth generalizing channel with
  | zero => omega
  | succ depth ih =>
    rw [State.lineageFrom_succ, List.mem_cons]
    constructor
    · rintro (rfl | higher)
      · exact .root
      · cases next : s.above? channel with
        | none => simp [next] at higher
        | some above =>
          have shorter := length_lt_of_above? next
          rw [next] at higher
          exact .under next ((ih (by omega)).mp higher)
    · intro descends
      cases descends with
      | root => exact Or.inl rfl
      | under next descends =>
        have shorter := length_lt_of_above? next
        rw [next]
        exact Or.inr ((ih (by omega)).mpr descends)

theorem State.inTree_iff (s : State) (channel : String) :
    s.inTree channel = true ↔ s.Descends channel := by
  rw [State.inTree, List.contains_iff_mem, State.lineage]
  exact root_mem_lineageFrom_iff (Nat.lt_succ_self _)

/-! ## Taking a channel into use -/

/-- A channel that is taken into use has only longer names below it. -/
lemma State.above?_use {used : String} (short : channel.length ≤ used.length) :
    ({ s with channels := used :: s.channels } : State).above? channel = s.above? channel := by
  refine List.find?_congr ?_
  intro above mem
  have other : above ≠ used := by
    rintro rfl
    have := length_lt_of_mem_beginnings mem
    omega
  simp [State.inUse, other]

lemma State.lineageFrom_use {used : String} (depth : Nat) (short : channel.length ≤ used.length) :
    ({ s with channels := used :: s.channels } : State).lineageFrom depth channel =
      s.lineageFrom depth channel := by
  induction depth generalizing channel with
  | zero => rfl
  | succ depth ih =>
    rw [lineageFrom_succ, lineageFrom_succ, State.above?_use short]
    cases next : s.above? channel with
    | none => rfl
    | some above =>
      have shorter := length_lt_of_above? next
      simp only [ih (show above.length ≤ used.length by omega)]

lemma State.emit_use (s : State) (time : String) (r : Record) :
    ({ s with channels := r.channel :: s.channels } : State).emit time r = s.emit time r := by
  have lineage : ({ s with channels := r.channel :: s.channels } : State).lineage r.channel =
      s.lineage r.channel := State.lineageFrom_use _ (Nat.le_refl _)
  simp only [State.emit, State.passes, State.effectiveLevel, State.inTree, lineage]
  rfl

/-- What becomes of a record does not depend on whether its channel was in use. -/
theorem State.send_snd (s : State) (time : String) (r : Record) :
    (s.send time r).2 = s.emit time r := by
  by_cases used : s.inUse r.channel = true
  · simp only [State.send, used, if_true]
  · simp only [State.send, used, Bool.false_eq_true, if_false]
    exact s.emit_use time r

/-! ## Dotted names -/

/-- One step over a name: the places of the dots so far, last first, and the next place. -/
def noteDot (seen : List Nat × Nat) (c : Char) : List Nat × Nat :=
  (if c == '.' then seen.2 :: seen.1 else seen.1, seen.2 + 1)

lemma foldl_noteDot (name : Text) : name.foldl noteDot ([], 0) = (dotPlaces name, name.length) := by
  have counted (rest : Text) (seen : List Nat × Nat) :
      (rest.foldl noteDot seen).2 = seen.2 + rest.length := by
    induction rest generalizing seen with
    | nil => rfl
    | cons c rest ih =>
      rw [List.foldl_cons, ih, noteDot, List.length_cons]
      omega
  have places : (name.foldl noteDot ([], 0)).1 = dotPlaces name := rfl
  exact Prod.ext places (by rw [counted, Nat.zero_add])

lemma dotPlaces_concat (name : Text) (c : Char) :
    dotPlaces (name ++ [c]) =
      if c = '.' then name.length :: dotPlaces name else dotPlaces name := by
  have whole := foldl_noteDot (name ++ [c])
  rw [List.foldl_append, foldl_noteDot name, List.foldl_cons, List.foldl_nil, noteDot] at whole
  simp only [beq_iff_eq] at whole
  exact (congrArg Prod.fst whole).symm

lemma dotPlaces_append_plain (name : Text) {part : Text} (plain : '.' ∉ part) :
    dotPlaces (name ++ part) = dotPlaces name := by
  induction part using List.reverseRecOn with
  | nil => rw [List.append_nil]
  | append_singleton part c ih =>
    rw [List.mem_append, not_or, List.mem_singleton] at plain
    rw [← List.append_assoc, dotPlaces_concat, if_neg (Ne.symm plain.2)]
    exact ih plain.1

lemma lt_of_mem_dotPlaces {name : Text} {p : Nat} (mem : p ∈ dotPlaces name) : p < name.length := by
  induction name using List.reverseRecOn with
  | nil => cases mem
  | append_singleton name c ih =>
    rw [List.length_append, List.length_singleton]
    rw [dotPlaces_concat] at mem
    split at mem
    · rcases List.mem_cons.mp mem with rfl | earlier
      · omega
      · have := ih earlier
        omega
    · have := ih mem
      omega

/-- Places below two bounds are cut in the same way by both. -/
lemma cutPlaces_congr {bound bound' : Nat} {places : List Nat} (below : ∀ p ∈ places, p < bound)
    (below' : ∀ p ∈ places, p < bound') : cutPlaces bound places = cutPlaces bound' places := by
  cases places with
  | nil => rfl
  | cons p places =>
    have first : ¬ bound ≤ p := Nat.not_le.mpr (below p List.mem_cons_self)
    have first' : ¬ bound' ≤ p := Nat.not_le.mpr (below' p List.mem_cons_self)
    rw [cutPlaces, cutPlaces, if_neg first, if_neg first']

/-- The name ends with a character other than a dot. -/
def Whole (name : Text) : Prop := ∃ front c, name = front ++ [c] ∧ c ≠ '.'

lemma cutPlaces_child {name part : Text} (whole : Whole name) (plain : '.' ∉ part) :
    cutPlaces (name ++ ['.'] ++ part).length (dotPlaces (name ++ ['.'] ++ part)) =
      name.length :: cutPlaces name.length (dotPlaces name) := by
  obtain ⟨front, c, rfl, notDot⟩ := whole
  have own : dotPlaces (front ++ [c]) = dotPlaces front := by rw [dotPlaces_concat, if_neg notDot]
  have far : ¬ (front ++ [c] ++ ['.'] ++ part).length ≤ (front ++ [c]).length := by
    simp only [List.length_append, List.length_singleton]
    omega
  have last : (front ++ [c]).length = front.length + 1 := by simp
  rw [dotPlaces_append_plain _ plain, dotPlaces_concat, if_pos rfl, own, cutPlaces, if_neg far,
    if_neg (by simp)]
  -- The place right before the new dot is not that of a dot, so nothing is left out.
  congr 1
  refine cutPlaces_congr ?_ ?_
  · intro p mem
    have := lt_of_mem_dotPlaces mem
    omega
  · intro p mem
    have := lt_of_mem_dotPlaces mem
    omega

/-- With one part more, a name begins with itself and with all that it began with before. -/
lemma beginnings_child {name part : String} (whole : Whole name.toList)
    (plain : '.' ∉ part.toList) :
    beginnings (name ++ "." ++ part) = name :: beginnings name := by
  have text : (name ++ "." ++ part).toList = name.toList ++ ['.'] ++ part.toList := by
    rw [String.toList_append, String.toList_append]
    rfl
  rw [beginnings, beginnings, text, cutPlaces_child whole plain, List.map_cons, List.append_assoc,
    List.take_left, String.ofList_toList]
  congr 1
  refine List.map_congr_left fun p mem => ?_
  have := lt_of_mem_cutPlaces mem
  rw [List.take_append_of_le_length (by omega)]

/-- A channel with one part more than one below the program's is below it too. -/
theorem State.Descends.child {name part : String} (descends : s.Descends name)
    (whole : Whole name.toList) (plain : '.' ∉ part.toList) :
    s.Descends (name ++ "." ++ part) := by
  have next : s.above? (name ++ "." ++ part) =
      if s.inUse name then some name else s.above? name := by
    rw [State.above?, beginnings_child whole plain, List.find?_cons]
    cases s.inUse name with
    | true => rfl
    | false => rfl
  by_cases used : s.inUse name = true
  · exact .under (next.trans (if_pos used)) descends
  · rw [if_neg used] at next
    cases descends with
    | root => exact absurd rfl used
    | under higher descends => exact .under (next.trans higher) descends

/-- The name of the program's channel with more parts. -/
def dotted (parts : List String) : String :=
  parts.foldl (fun name part => name ++ "." ++ part) rootChannel

lemma whole_child {name part : String} (plain : '.' ∉ part.toList) (present : part ≠ "") :
    Whole (name ++ "." ++ part).toList := by
  have some : part.toList ≠ [] := by simpa using present
  refine ⟨(name ++ ".").toList ++ part.toList.dropLast, part.toList.getLast some, ?_, ?_⟩
  · rw [String.toList_append, List.append_assoc, List.dropLast_concat_getLast some]
  · intro dot
    exact plain (dot ▸ List.getLast_mem some)

theorem State.descends_dotted (s : State) {parts : List String}
    (plain : ∀ part ∈ parts, part ≠ "" ∧ '.' ∉ part.toList) : s.Descends (dotted parts) := by
  have both : s.Descends (dotted parts) ∧ Whole (dotted parts).toList := by
    induction parts using List.reverseRecOn with
    | nil => exact ⟨.root, "sharpchec".toList, 'k', by decide, by decide⟩
    | append_singleton parts part ih =>
      obtain ⟨descends, whole⟩ := ih fun p mem => plain p (List.mem_append_left _ mem)
      obtain ⟨present, dotless⟩ := plain part (by simp)
      have last : dotted (parts ++ [part]) = dotted parts ++ "." ++ part := by
        rw [dotted, List.foldl_append]
        rfl
      rw [last]
      exact ⟨descends.child whole dotless, whole_child dotless present⟩
  exact both.1

end StyleGate.Log
