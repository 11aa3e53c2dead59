import StyleGate.Proofs.Log.Registry

/-!
# Names that are no levels

A level can be asked for by any text. A text that names no level asks for that of information, with
two exceptions: the names of a layout and of a table of styles stand for things that are no levels,
and then the call fails. Which text decides is settled before: that of the call, if it has one that
is not empty, then that of the environment.
-/

namespace StyleGate.Log

open Config

/-- What a level is asked for by: a text or nothing. -/
def asking : Option String → Value
  | some name => .ofScalar (.text name)
  | none => .null

/-- The text that decides on the level, in upper case. An empty one counts as none in the call, but
not in the environment. -/
def decidingName (e : Environment) (given : Option String) : Text :=
  Text.upper (((given.filter (· != "")).or e.level).getD "INFO").toList

/-- The names that stand for something other than a level. -/
def takenNames : List Text := ["BASIC_FORMAT".toList, "_STYLES".toList]

lemma resolve_asking (e : Environment) (given : Option String) :
    resolve (asking given) e.level = ofName (decidingName e given) := by
  cases given with
  | none => rfl
  | some name =>
    by_cases empty : name = ""
    · subst empty
      rfl
    · have present : (asking (some name)).truthy = true := bne_iff_ne.mpr empty
      have layer : (asking (some name)).layer = .scalar (.text name) := rfl
      have kept : (some name).filter (· != "") = some name :=
        Option.filter_some_pos (bne_iff_ne.mpr empty)
      simp only [resolve, layer, present, decidingName, kept, Option.some_or, Option.getD_some,
        Bool.not_true, Bool.false_eq_true, if_false]

lemma ofName_of_mem_levelNumbers {name : Text} {n : Int} (named : (name, n) ∈ levelNumbers) :
    ofName name = .ok n := by
  simp only [levelNumbers, List.mem_cons, List.not_mem_nil, or_false, Prod.mk.injEq] at named
  rcases named with ⟨rfl, rfl⟩ | ⟨rfl, rfl⟩ | ⟨rfl, rfl⟩ | ⟨rfl, rfl⟩ | ⟨rfl, rfl⟩ | ⟨rfl, rfl⟩ |
    ⟨rfl, rfl⟩ | ⟨rfl, rfl⟩
  all_goals rfl

lemma exists_error_of_mem_takenNames {name : Text} (taken : name ∈ takenNames) :
    ∃ cause, ofName name = .error cause := by
  simp only [takenNames, List.mem_cons, List.not_mem_nil, or_false] at taken
  rcases taken with rfl | rfl
  · exact ⟨.namesText, rfl⟩
  · exact ⟨.namesTable, rfl⟩

/-- Every other text asks for information. -/
lemma ofName_of_unknown {name : Text} (unknown : name ∉ levelNumbers.map Prod.fst)
    (free : name ∉ takenNames) : ofName name = .ok info := by
  have absent : levelNumbers.lookup name = none := by
    rw [List.lookup_eq_none_iff]
    intro entry mem
    refine bne_iff_ne.mpr ?_
    rintro rfl
    exact unknown (List.mem_map_of_mem mem)
  have layout : ¬ name = "BASIC_FORMAT".toList := fun same => free (by simp [takenNames, same])
  have styles : ¬ name = "_STYLES".toList := fun same => free (by simp [takenNames, same])
  simp only [ofName, absent, beq_iff_eq, layout, styles, if_false]

lemma exists_ofName_iff {name : Text} :
    (∃ level, ofName name = .ok level) ↔ name ∉ takenNames := by
  constructor
  · rintro ⟨level, resolved⟩ taken
    obtain ⟨cause, failed⟩ := exists_error_of_mem_takenNames taken
    simp [failed] at resolved
  · intro free
    by_cases known : name ∈ levelNumbers.map Prod.fst
    · obtain ⟨⟨_, n⟩, named, rfl⟩ := List.mem_map.mp known
      exact ⟨n, ofName_of_mem_levelNumbers named⟩
    · exact ⟨info, ofName_of_unknown known free⟩

/-- Whatever the state, a call for a level by its name returns exactly if the name that decides is
not taken by something else. Then the level is the one that the name has, and that of information
if it has none. -/
theorem level_name_tolerated_unless_taken (e : Environment) (given : Option String) (s : State) :
    ((∃ next, configure e (asking given) s = .ok next) ↔ decidingName e given ∉ takenNames) ∧
    ∀ next, configure e (asking given) s = .ok next →
      (∀ n, (decidingName e given, n) ∈ levelNumbers → next.level = n) ∧
      (decidingName e given ∉ levelNumbers.map Prod.fst → next.level = info) := by
  have returns : (∃ next, configure e (asking given) s = .ok next) ↔
      ∃ level, ofName (decidingName e given) = .ok level := by
    simp only [configure_eq_ok_iff, resolve_asking]
    constructor
    · rintro ⟨next, level, resolved, -⟩
      exact ⟨level, resolved⟩
    · rintro ⟨level, resolved⟩
      exact ⟨_, level, resolved, rfl⟩
  refine ⟨returns.trans exists_ofName_iff, ?_⟩
  intro next returned
  have free := (returns.trans exists_ofName_iff).mp ⟨next, returned⟩
  obtain ⟨level, resolved, rfl⟩ := configure_eq_ok_iff.mp returned
  simp only [resolve_asking] at resolved
  constructor
  · intro n named
    exact Except.ok.inj (resolved.symm.trans (ofName_of_mem_levelNumbers named))
  · intro unknown
    exact Except.ok.inj (resolved.symm.trans (ofName_of_unknown unknown free))

/-- A word that is no level, and an empty one that leaves the level to an environment which spells
it with a dotless letter. -/
theorem level_of_chatty_and_of_environment :
    (∃ next, configure {} (asking (some "Chatty")) {} = .ok next ∧ next.level = 20) ∧
    ∃ next, configure { level := some "warnıng" } (asking (some "")) {} = .ok next ∧
      next.level = 30 := by
  obtain ⟨chatty, levels⟩ := level_name_tolerated_unless_taken {} (some "Chatty") {}
  obtain ⟨dotless, named⟩ :=
    level_name_tolerated_unless_taken { level := some "warnıng" } (some "") {}
  obtain ⟨next, returned⟩ := chatty.mpr (by decide)
  obtain ⟨next', returned'⟩ := dotless.mpr (by decide)
  exact ⟨⟨next, returned, (levels next returned).2 (by decide)⟩,
    next', returned', (named next' returned').1 30 (by decide)⟩

/-- The name of the layout is given as a level, and the call fails. -/
theorem layout_name_not_tolerated :
    ¬ ∃ next, configure {} (asking (some "basic_format")) {} = .ok next := by
  rintro ⟨next, returned⟩
  exact nomatch returned

end StyleGate.Log
