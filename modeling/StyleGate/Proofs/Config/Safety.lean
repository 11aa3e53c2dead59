import Mathlib.Data.List.Forall2
import StyleGate.Log.Level
import StyleGate.Proofs.Analysis.Catalogue
import StyleGate.Proofs.Config.Selection
import StyleGate.Proofs.Config.Spelling

/-!
# What a validated configuration is safe for

Validation, the selection of rules and the choice of a level read the same values, each by rules of
its own. Once validation has no error, selection fails on nothing and leaves out the listed rules,
and the level is the one that is named. About the list of disabled rules validation has one error
for each entry that is no number of a rule, in the order of the entries. It has no answer at all if
one of its errors has to show what cannot be spelled: a number that is too long, or a value whose
members stand inside one another too deeply.
-/

namespace StyleGate.Config

/-- What validation answers, where so many levels are left for spelling: a message for each
complaint. -/
def errors (depth : Nat) (fields : Fields) : Except SpellingError (List String) :=
  (complaints fields).mapM (Complaint.message depth)

/-! ## The list of disabled rules -/

/-- The fields have a mapping of rules, and the mapping has this list of disabled ones. -/
def DisabledList (fields : Fields) (items : List Value) : Prop :=
  ∃ rules, (field? fields "rules").map Value.layer = some (.map rules) ∧
    (field? rules "disabled").map Value.layer = some (.list items)

/-- The field is absent or null. -/
def Unset (fields : Fields) (name : String) : Prop :=
  (field? fields name).map Value.layer = none ∨
    (field? fields name).map Value.layer = some (.scalar .null)

/-- The list of disabled rules has a member that is equal to the number of the rule. -/
def Disables (fields : Fields) (r : Rule) : Prop :=
  ∃ items, DisabledList fields items ∧
    ∃ item ∈ items, ∃ s, item.layer = .scalar s ∧ s.same (.int r.number) = true

variable {depth : Nat} {fields : Fields} {items : List Value}

lemma DisabledList.rulesComplaints_eq (list : DisabledList fields items) :
    rulesComplaints fields = items.zipIdx.filterMap fun p => memberComplaint? p.2 p.1 := by
  obtain ⟨rules, mapping, listed⟩ := list
  rw [rulesComplaints, mapping]
  change disabledComplaints (field? rules "disabled") = _
  rw [disabledComplaints, listed]
  change (items.mapIdx memberComplaint?).filterMap id = _
  rw [List.mapIdx_eq_zipIdx_map, List.filterMap_map]
  rfl

/-- What is wrong with an entry is complained about. -/
lemma DisabledList.exists_index (list : DisabledList fields items) {item : Value}
    (mem : item ∈ items) :
    ∃ index, ∀ c, memberComplaint? index item = some c → c ∈ complaints fields := by
  obtain ⟨index, inside, rfl⟩ := List.getElem_of_mem mem
  refine ⟨index, fun c found => List.mem_append_right _ ?_⟩
  rw [list.rulesComplaints_eq]
  refine List.mem_filterMap.mpr ⟨(items[index], index), ?_, found⟩
  exact List.mk_mem_zipIdx_iff_getElem?.mpr (List.getElem?_eq_getElem inside)

lemma mem_disabledNumbers_iff {n : Int} : n ∈ disabledNumbers fields ↔
    ∃ items, DisabledList fields items ∧ ∃ item ∈ items, item.layer = .scalar (.int n) := by
  constructor
  · intro mem
    unfold disabledNumbers at mem
    split at mem
    · next rules mapping =>
      unfold listedNumbers at mem
      split at mem
      · next items listed =>
        obtain ⟨item, inside, whole⟩ := List.mem_filterMap.mp mem
        refine ⟨items, ⟨rules, mapping, listed⟩, item, inside, ?_⟩
        unfold wholeNumber? at whole
        split at whole
        · next layer =>
          cases whole
          exact layer
        · cases whole
      · cases mem
    · cases mem
  · rintro ⟨items, ⟨rules, mapping, listed⟩, item, inside, layer⟩
    rw [disabledNumbers, mapping]
    change n ∈ listedNumbers (field? rules "disabled")
    rw [listedNumbers, listed]
    exact List.mem_filterMap.mpr ⟨item, inside, by rw [wholeNumber?, layer]⟩

/-- A valid list holds whole numbers, so nothing else can be equal to the number of a rule. -/
lemma disables_iff (valid : complaints fields = []) {r : Rule} :
    Disables fields r ↔ (r.number : Int) ∈ disabledNumbers fields := by
  rw [mem_disabledNumbers_iff]
  constructor
  · rintro ⟨items, list, item, inside, s, scalar, same⟩
    obtain ⟨index, raised⟩ := list.exists_index inside
    have accepted : memberComplaint? index item = none := by
      rw [Option.eq_none_iff_forall_ne_some]
      intro c found
      have mem := raised c found
      rw [valid] at mem
      cases mem
    obtain ⟨n, int⟩ := exists_int_of_memberComplaint? accepted
    -- a float or a truth value would be the same key as well, but no such entry is accepted
    have equal : n = r.number := by
      rw [scalar] at int
      cases int
      simpa [Scalar.same, Scalar.integer?] using same
    exact ⟨items, list, item, inside, equal ▸ int⟩
  · rintro ⟨items, list, item, inside, int⟩
    exact ⟨items, list, item, inside, _, int, by simp [Scalar.same, Scalar.integer?]⟩

/-! ## Selection -/

theorem exists_enabledRules_of_valid (valid : complaints fields = []) :
    ∃ rules, enabledRules fields = .ok rules ∧
      rules.Pairwise (fun r s => r.number < s.number) ∧ ∀ r, r ∈ rules ↔ ¬ Disables fields r := by
  refine ⟨_, enabledRules_of_valid valid, Rule.all_ascending.filter _, fun r => ?_⟩
  rw [List.mem_filter, decide_eq_true_iff, disables_iff valid]
  exact and_iff_right (Rule.mem_all r)

/-- There is no list of disabled rules. -/
def ListsNothing (fields : Fields) : Prop :=
  Unset fields "rules" ∨
    ∃ rules, (field? fields "rules").map Value.layer = some (.map rules) ∧ Unset rules "disabled"

lemma ListsNothing.disabledNumbers_eq (nothing : ListsNothing fields) :
    disabledNumbers fields = [] := by
  rcases nothing with (absent | null) | ⟨rules, mapping, absent | null⟩
  · rw [disabledNumbers, absent]
  · rw [disabledNumbers, null]
  · rw [disabledNumbers, mapping]
    change listedNumbers (field? rules "disabled") = []
    rw [listedNumbers, absent]
  · rw [disabledNumbers, mapping]
    change listedNumbers (field? rules "disabled") = []
    rw [listedNumbers, null]

lemma enabledRules_of_listsNothing (valid : complaints fields = [])
    (nothing : ListsNothing fields) : enabledRules fields = .ok Rule.all := by
  rw [enabledRules_of_valid valid, nothing.disabledNumbers_eq]
  rfl

/-! ## The level -/

/-- The levels that a configuration can name, with their numbers. -/
def namedLevels : List (String × Int) :=
  levelNames.filterMap fun name => (Log.levelNumbers.lookup name.toList).map fun n => (name, n)

example : namedLevels =
    [("DEBUG", 10), ("INFO", 20), ("WARNING", 30), ("ERROR", 40), ("CRITICAL", 50)] := rfl

lemma mem_namedLevels_iff {name : String} {level : Int} : (name, level) ∈ namedLevels ↔
    name ∈ levelNames ∧ Log.levelNumbers.lookup name.toList = some level := by
  simp only [namedLevels, List.mem_filterMap, Option.map_eq_some_iff, Prod.mk.injEq]
  constructor
  · rintro ⟨name, mem, level, found, rfl, rfl⟩
    exact ⟨mem, found⟩
  · rintro ⟨mem, found⟩
    exact ⟨name, mem, level, found, rfl, rfl⟩

lemma ofName_of_mem_namedLevels {name : String} {level : Int}
    (mem : (name, level) ∈ namedLevels) : Log.ofName name.toList = .ok level := by
  rw [Log.ofName, (mem_namedLevels_iff.mp mem).2]

lemma exists_level_of_namesLevel {s : String} (known : namesLevel s = true) :
    ∃ name level, (name, level) ∈ namedLevels ∧ Text.upper s.toList = name.toList := by
  obtain ⟨name, mem, same⟩ := List.any_eq_true.mp known
  have numbered : ∀ name ∈ levelNames, (Log.levelNumbers.lookup name.toList).isSome := by decide
  obtain ⟨level, found⟩ := Option.isSome_iff_exists.mp (numbered name mem)
  exact ⟨name, level, mem_namedLevels_iff.mpr ⟨mem, found⟩, (beq_iff_eq.mp same).symm⟩

/-- A level that validation accepts is the one that is named, whatever the environment says. -/
theorem resolve_of_valid (valid : complaints fields = []) {v : Value}
    (asked : field? fields "log_level" = some v) :
    ∃ s name level, v.layer = .scalar (.text s) ∧ (name, level) ∈ namedLevels ∧
      Text.upper s.toList = name.toList ∧ ∀ named, Log.resolve v named = .ok level := by
  have accepted : levelComplaints fields = [] := by
    simp only [complaints, List.append_eq_nil_iff] at valid
    exact valid.1.2
  rw [levelComplaints, asked, Option.map_some] at accepted
  split at accepted
  · contradiction
  · rename_i s layer
    have layer : v.layer = .scalar (.text s) := Option.some.inj layer
    have known : namesLevel s = true := by
      by_contra unknown
      rw [if_neg unknown] at accepted
      cases accepted
    obtain ⟨name, level, mem, upper⟩ := exists_level_of_namesLevel known
    refine ⟨s, name, level, layer, mem, upper, fun named => ?_⟩
    -- an empty name would leave the level to the environment
    have present : v.truthy = true := by
      rw [Value.truthy, layer]
      refine bne_iff_ne.mpr ?_
      rintro rfl
      exact absurd known (by decide)
    simp only [Log.resolve, layer, present, Bool.not_true, Bool.false_eq_true, if_false, upper]
    exact ofName_of_mem_namedLevels mem
  · cases accepted

/-! ## Errors about entries -/

/-- The entry is no number of a rule: no whole number, which truth values are not either, or a whole
number out of range. -/
def offends (v : Value) : Bool :=
  match v.layer with
  | .scalar (.int n) => n < 1 || 10 < n
  | _ => true

/-- The error about the entry with this index. -/
inductive EntryError (depth index : Nat) (v : Value) : String → Prop
  | outOfRange {n : Int} {shown : String} (number : v.layer = .scalar (.int n))
      (spelled : spellInt n = .ok shown) :
      EntryError depth index v
        ("rules.disabled[" ++ toString index ++ "]: rule " ++ shown ++ " out of range 1..10")
  | notNumber {shown : String} (other : ∀ n, v.layer ≠ .scalar (.int n))
      (spelled : v.spelling depth = .ok shown) :
      EntryError depth index v
        ("rules.disabled[" ++ toString index ++ "]: " ++ shown ++ " is not a rule number")

/-- The error is about an entry of the list of disabled rules. -/
def aboutEntry (text : String) : Bool := "rules.disabled[".toList.isPrefixOf text.toList

/-- The complaint is about an entry of the list of disabled rules. -/
def Complaint.ofEntry : Complaint → Bool
  | .notRuleNumber _ _ => true
  | .noSuchRule _ _ => true
  | _ => false

lemma isSome_ofNumber?_iff {n : Int} : (Rule.ofNumber? n).isSome = true ↔ ¬ (n < 1 ∨ 10 < n) := by
  rw [Rule.ofNumber?, List.find?_isSome]
  simp only [Rule.all, List.mem_cons, List.not_mem_nil, or_false, exists_eq_or_imp,
    exists_eq_left, Rule.number, beq_iff_eq]
  omega

lemma memberComplaint?_of_range {v : Value} {n : Int} (number : v.layer = .scalar (.int n))
    (range : n < 1 ∨ 10 < n) (index : Nat) :
    memberComplaint? index v = some (.noSuchRule index n) := by
  have unknown : ¬ (Rule.ofNumber? n).isSome = true := fun known =>
    isSome_ofNumber?_iff.mp known range
  rw [memberComplaint?, number]
  exact if_neg unknown

lemma spellInt_of_spellingWithin {n : Int} {shown : String}
    (spelled : (Scalar.int n).spellingWithin depth = .ok shown) : spellInt n = .ok shown := by
  unfold Scalar.spellingWithin at spelled
  split at spelled
  · cases spelled
  · exact spelled

lemma message_eq_ok {x : Except SpellingError String} {tell : String → String} {text : String}
    (told : (do return tell (← x)) = .ok text) : ∃ shown, x = .ok shown ∧ tell shown = text := by
  cases x with
  | error e => cases told
  | ok shown => exact ⟨shown, rfl, Except.ok.inj told⟩

/-- One entry: nothing to complain about, or one complaint, which is spelled as the error. -/
lemma memberComplaint?_cases (depth index : Nat) (v : Value) :
    (offends v = false ∧ memberComplaint? index v = none) ∨
      (offends v = true ∧ ∃ c, memberComplaint? index v = some c ∧ c.ofEntry = true ∧
        ∀ text, c.message depth = .ok text → EntryError depth index v text) := by
  by_cases whole : ∃ n, v.layer = .scalar (.int n)
  · obtain ⟨n, number⟩ := whole
    have offending : offends v = (decide (n < 1) || decide (10 < n)) := by rw [offends, number]
    by_cases range : n < 1 ∨ 10 < n
    · have complaint := memberComplaint?_of_range number range index
      refine Or.inr ⟨by simpa [offending] using range, _, complaint, rfl, ?_⟩
      intro text told
      obtain ⟨shown, spelled, rfl⟩ := message_eq_ok told
      have last : " out of range 1.." ++ toString Rule.count = " out of range 1..10" := by
        decide +kernel
      rw [String.append_assoc, last]
      exact .outOfRange number (spellInt_of_spellingWithin spelled)
    · refine Or.inl ⟨by simpa [offending] using range, ?_⟩
      rw [memberComplaint?, number]
      exact if_pos (isSome_ofNumber?_iff.mpr range)
  · have other : ∀ n, v.layer ≠ .scalar (.int n) := not_exists.mp whole
    have complaint : memberComplaint? index v = some (.notRuleNumber index v) := by
      unfold memberComplaint?
      split
      · next n number => exact absurd number (other n)
      · rfl
    have offending : offends v = true := by
      unfold offends
      split
      · next n number => exact absurd number (other n)
      · rfl
    refine Or.inr ⟨offending, _, complaint, rfl, ?_⟩
    intro text told
    obtain ⟨shown, spelled, rfl⟩ := message_eq_ok told
    exact .notNumber other spelled

/-- One error for each entry that offends, in the order of the entries. -/
lemma forall₂_entryError {entries : List (Value × Nat)} {texts : List String}
    (told : List.Forall₂ (fun c text => Complaint.message depth c = .ok text)
      (entries.filterMap fun p => memberComplaint? p.2 p.1) texts) :
    List.Forall₂ (fun p text => EntryError depth p.2 p.1 text)
      (entries.filter fun p => offends p.1) texts := by
  induction entries generalizing texts with
  | nil =>
    cases told
    exact .nil
  | cons p entries ih =>
    rcases memberComplaint?_cases depth p.2 p.1 with
      ⟨fine, none⟩ | ⟨offending, c, some, -, error⟩
    · simp only [List.filterMap_cons, none] at told
      rw [List.filter_cons_of_neg (by simp [fine])]
      exact ih told
    · simp only [List.filterMap_cons, some] at told
      rw [List.filter_cons_of_pos (by simp [offending])]
      obtain ⟨text, rest, first, later, rfl⟩ := List.forall₂_cons_left_iff.mp told
      exact .cons (error text first) (ih later)

/-- The errors about entries can be told from the others by how they start. -/
lemma ofEntry_iff_aboutEntry {c : Complaint} {text : String}
    (told : c.message depth = .ok text) :
    c.ofEntry = true ↔ aboutEntry text = true := by
  cases c with
  | notRuleNumber index got =>
    obtain ⟨shown, -, rfl⟩ := message_eq_ok told
    refine iff_of_true rfl (List.isPrefixOf_iff_prefix.mpr ?_)
    simp only [String.toList_append, List.append_assoc]
    exact List.prefix_append _ _
  | noSuchRule index number =>
    obtain ⟨shown, -, rfl⟩ := message_eq_ok told
    refine iff_of_true rfl (List.isPrefixOf_iff_prefix.mpr ?_)
    simp only [String.toList_append, List.append_assoc]
    exact List.prefix_append _ _
  | colourNotBool got =>
    obtain ⟨shown, -, rfl⟩ := message_eq_ok told
    refine iff_of_false nofun ?_
    rw [aboutEntry, String.toList_append]
    exact Bool.false_ne_true
  | missingVersion | unknownLevel | rulesNotMapping | disabledNotList =>
    cases told
    exact iff_of_false nofun (by decide +kernel)

lemma DisabledList.filter_ofEntry (list : DisabledList fields items) :
    (complaints fields).filter Complaint.ofEntry =
      items.zipIdx.filterMap fun p => memberComplaint? p.2 p.1 := by
  have version : (versionComplaints fields).filter Complaint.ofEntry = [] := by
    unfold versionComplaints
    split
    · rfl
    · rfl
  have colour : (colourComplaints fields).filter Complaint.ofEntry = [] := by
    unfold colourComplaints
    repeat' split
    all_goals rfl
  have level : (levelComplaints fields).filter Complaint.ofEntry = [] := by
    unfold levelComplaints
    repeat' split
    all_goals rfl
  have entries : ∀ c ∈ rulesComplaints fields, c.ofEntry = true := by
    intro c mem
    rw [list.rulesComplaints_eq] at mem
    obtain ⟨p, -, found⟩ := List.mem_filterMap.mp mem
    rcases memberComplaint?_cases 0 p.2 p.1 with ⟨-, none⟩ | ⟨-, d, some, ofEntry, -⟩
    · rw [none] at found
      cases found
    · rw [some] at found
      cases found
      exact ofEntry
  rw [complaints, List.filter_append, List.filter_append, List.filter_append, version, colour,
    level, List.filter_eq_self.mpr entries, list.rulesComplaints_eq]
  rfl

theorem DisabledList.forall₂_errors (list : DisabledList fields items) {texts : List String}
    (answer : errors depth fields = .ok texts) :
    List.Forall₂ (fun p text => EntryError depth p.2 p.1 text)
      (items.zipIdx.filter fun p => offends p.1) (texts.filter aboutEntry) := by
  have told := mapM_eq_ok_iff.mp answer
  have entries := List.rel_filter (fun _ _ spelled => ofEntry_iff_aboutEntry spelled) told
  rw [list.filter_ofEntry] at entries
  exact forall₂_entryError entries

/-- An entry that is too long to be spelled leaves validation without an answer. -/
theorem DisabledList.not_errors_of_huge (list : DisabledList fields items) {item : Value}
    (mem : item ∈ items) {n : Int} (number : item.layer = .scalar (.int n)) (huge : Huge n) :
    ¬ ∃ texts, errors depth fields = .ok texts := by
  have range : n < 1 ∨ 10 < n := by
    have long : 10 < Nat.pow 10 mostDigits := by decide +kernel
    rw [Huge] at huge
    omega
  obtain ⟨index, raised⟩ := list.exists_index mem
  intro answered
  have complaint := raised _ (memberComplaint?_of_range number range index)
  exact (exists_messages_iff depth _).mp answered _ complaint (Or.inr ⟨n, rfl, huge⟩)

/-! ## Validated configurations -/

/-- A configuration without errors is safe for what reads it later: the rules that stay enabled are
those that the list of disabled ones does not have as members, in ascending order, and a level is
the one that it names. For every list of disabled rules there is one error for each entry that is no
number of a rule, in the order of the entries, exactly if every complaint can be spelled with the
levels that are left. -/
theorem validated_config_safe (depth : Nat) (fields : Fields) :
    (errors depth fields = .ok [] →
      (∃ rules, enabledRules fields = .ok rules ∧
        rules.Pairwise (fun r s => r.number < s.number) ∧
          ∀ r, r ∈ rules ↔ ¬ Disables fields r) ∧
      (ListsNothing fields → enabledRules fields = .ok Rule.all) ∧
      ∀ v, field? fields "log_level" = some v →
        ∃ s name level, v.layer = .scalar (.text s) ∧ (name, level) ∈ namedLevels ∧
          Text.upper s.toList = name.toList ∧ ∀ named, Log.resolve v named = .ok level) ∧
    ∀ items, DisabledList fields items →
      ((∃ texts, errors depth fields = .ok texts ∧
        List.Forall₂ (fun p text => EntryError depth p.2 p.1 text)
          (items.zipIdx.filter fun p => offends p.1) (texts.filter aboutEntry)) ↔
        ∀ c ∈ complaints fields, ¬ c.Unspellable depth) := by
  constructor
  · intro accepted
    have valid : complaints fields = [] := eq_nil_of_mapM accepted
    exact ⟨exists_enabledRules_of_valid valid, enabledRules_of_listsNothing valid,
      fun v => resolve_of_valid valid⟩
  · intro items list
    rw [← exists_messages_iff]
    constructor
    · rintro ⟨texts, answer, -⟩
      exact ⟨texts, answer⟩
    · rintro ⟨texts, answer⟩
      exact ⟨texts, answer, list.forall₂_errors answer⟩

/-- Two rules are disabled, and the level is named in lower case. -/
def twoDisabled : Fields :=
  [(.text "version", .ofScalar (.int 1)), (.text "log_level", .ofScalar (.text "debug")),
    (.text "rules", ⟨#[.map [(.text "disabled", 1)], .list [2, 3], .scalar (.int 7),
      .scalar (.int 4)], 0⟩)]

/-- Of three entries the first is a truth value and the last is out of range. -/
def twoOffending : Fields :=
  [(.text "version", .ofScalar (.int 1)),
    (.text "rules", ⟨#[.map [(.text "disabled", 1)], .list [2, 3, 4], .scalar (.bool true),
      .scalar (.int 5), .scalar (.int 11)], 0⟩)]

/-- The rules that are left in one, and the two errors of the other. -/
theorem two_disabled_and_two_offending :
    (errors freshDepth twoDisabled = .ok [] ∧ ∃ rules, enabledRules twoDisabled = .ok rules ∧
      ∀ r, r ∈ rules ↔ ¬ Disables twoDisabled r) ∧
    ∃ items, DisabledList twoOffending items ∧
      (items.zipIdx.filter fun p => offends p.1).map Prod.snd = [0, 2] ∧
      ∃ texts, errors freshDepth twoOffending = .ok texts ∧
        (texts.filter aboutEntry).length = 2 := by
  have accepted : errors freshDepth twoDisabled = .ok [] := rfl
  obtain ⟨⟨rules, enabled, -, left⟩, -, -⟩ :=
    (validated_config_safe freshDepth twoDisabled).1 accepted
  have list : DisabledList twoOffending _ := ⟨_, rfl, rfl⟩
  have told : errors freshDepth twoOffending = .ok
      ["rules.disabled[0]: True is not a rule number",
        "rules.disabled[2]: rule 11 out of range 1..10"] := by decide +kernel
  have spelled := (exists_messages_iff freshDepth (complaints twoOffending)).mp ⟨_, told⟩
  obtain ⟨texts, answer, each⟩ :=
    ((validated_config_safe freshDepth twoOffending).2 _ list).mpr spelled
  exact ⟨⟨accepted, rules, enabled, left⟩, _, list, rfl, texts, answer, each.length_eq.symm⟩

/-- The one entry of the list is a number of four thousand hexadecimal digits. -/
def overlongEntry : Fields :=
  [(.text "version", .ofScalar (.int 1)),
    (.text "rules", ⟨#[.map [(.text "disabled", 1)], .list [2],
      .scalar (.int (Nat.pow 16 4000 - 1 : Nat))], 0⟩)]

/-- The entry is out of range, but there is no error that says so. -/
theorem overlong_entry_not_answered : ¬ ∀ items, DisabledList overlongEntry items →
    ∃ texts, errors freshDepth overlongEntry = .ok texts ∧
      List.Forall₂ (fun p text => EntryError freshDepth p.2 p.1 text)
        (items.zipIdx.filter fun p => offends p.1) (texts.filter aboutEntry) := by
  intro answered
  have list : DisabledList overlongEntry _ := ⟨_, rfl, rfl⟩
  obtain ⟨texts, answer, -⟩ := answered _ list
  have huge : Huge (Nat.pow 16 4000 - 1 : Nat) := by
    rw [Huge, Int.natAbs_natCast]
    decide +kernel
  exact list.not_errors_of_huge (List.mem_singleton_self _) rfl huge ⟨texts, answer⟩

end StyleGate.Config
