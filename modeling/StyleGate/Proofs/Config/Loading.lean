import StyleGate.Config.File
import StyleGate.Proofs.Config.Spelling
import StyleGate.Proofs.Files.Overlong
import StyleGate.Proofs.Yaml.Reading
import StyleGate.Proofs.Yaml.Stream

/-!
# Loading a configuration

Loading looks for a file, reads it and checks what it holds. It is settled when it gives settings
about which there is nothing to complain or rejects the file. What keeps it from that is said of the
world and of the content alone: a path that is too long to be looked up, a content that the reader
gives up for anything but a rule of YAML, or a complaint that cannot be spelled. Whatever reader of
YAML is used, as long as it is lawful, a content that is not UTF-8 never gives settings.
-/

namespace StyleGate.Config

variable {support : Support} {w : World} {path : Option Path} {p : Path} {content : ByteArray}
  {label : String}

/-- Settings with nothing to complain about, or a rejection. -/
def Settled (result : Except LoadError Settings) : Prop :=
  (∃ s, result = .ok s ∧ complaints s = []) ∨
    ∃ label reason, result = .error (.rejected label reason)

lemma settled_rejected (label : String) (reason : Rejection) :
    Settled (.error (.rejected label reason)) := Or.inr ⟨label, reason, rfl⟩

lemma not_settled_error {e : LoadError} (other : ∀ label reason, e ≠ .rejected label reason) :
    ¬ Settled (.error e) := by
  rintro (⟨s, given, -⟩ | ⟨label, reason, given⟩)
  · cases given
  · exact other label reason (Except.error.inj given)

/-! ## Searching the places -/

/-- The place is reached: there is nothing at the places before it. -/
def Reached (w : World) (p : Path) : Prop :=
  ∃ before after, places w = before ++ p :: after ∧ ∀ q ∈ before, w.entry? q = .ok none

/-- One step of the search. -/
def probe (w : World) (found : Option Path) (place : Path) : Except PathFault (Option Path) := do
  match found with
  | some p => return some p
  | none => return if (← w.entry? place).isSome then some place else none

lemma find_eq (w : World) : find w = (places w).foldlM (probe w) none := rfl

lemma foldlM_probe_some (w : World) (p : Path) (l : List Path) :
    l.foldlM (probe w) (some p) = .ok (some p) := by
  induction l with
  | nil => rfl
  | cons q l ih => exact ih

lemma probe_absent (absent : w.entry? p = .ok none) : probe w none p = .ok none := by
  rw [probe, absent]
  rfl

lemma foldlM_probe_absent {l : List Path} (absent : ∀ q ∈ l, w.entry? q = .ok none) :
    l.foldlM (probe w) none = .ok none := by
  induction l with
  | nil => rfl
  | cons q l ih =>
    rw [List.foldlM_cons, probe_absent (absent q List.mem_cons_self)]
    exact ih fun r mem => absent r (List.mem_cons_of_mem q mem)

lemma find_of_reached (reached : Reached w p) :
    ∃ after : List Path, find w = (probe w none p >>= after.foldlM (probe w)) := by
  obtain ⟨before, after, split, absent⟩ := reached
  refine ⟨after, ?_⟩
  rw [find_eq, split, List.foldlM_append, foldlM_probe_absent absent]
  rfl

lemma find_refused {f : PathFault} (reached : Reached w p) (refused : w.entry? p = .error f) :
    find w = .error f := by
  obtain ⟨after, found⟩ := find_of_reached reached
  rw [found, probe, refused]
  rfl

lemma find_found {entry : Entry} (reached : Reached w p) (there : w.entry? p = .ok (some entry)) :
    find w = .ok (some p) := by
  obtain ⟨after, found⟩ := find_of_reached reached
  rw [found, probe, there]
  exact foldlM_probe_some w p after

/-- Either there is nothing at any place, or the search stops at a place that is refused or at which
there is something. -/
lemma absent_or_reached (w : World) : (∀ q ∈ places w, w.entry? q = .ok none) ∨
    ∃ p, Reached w p ∧ (w.Overlong p ∨ ∃ entry, w.entry? p = .ok (some entry)) := by
  classical
  cases first : (places w).find? fun q => decide (w.entry? q ≠ .ok none) with
  | none =>
    left
    simpa using first
  | some p =>
    obtain ⟨stops, before, after, split, absent⟩ := List.find?_eq_some_iff_append.mp first
    refine Or.inr ⟨p, ⟨before, after, split, by simpa using absent⟩, ?_⟩
    cases found : w.entry? p with
    | error f => exact Or.inl ((w.entry?_eq_error_iff p).mp ⟨f, found⟩)
    | ok entry =>
      cases entry with
      | none => simp [found] at stops
      | some entry => exact Or.inr ⟨entry, rfl⟩

/-! ## Which content is read -/

/-- The content of the given file, of the first place at which there is anything, or the bundled
one. -/
inductive Reads (w : World) : Option Path → ByteArray → Prop
  | given {p : Path} {content : ByteArray} (holds : w.HoldsFile p content) :
      Reads w (some p) content
  | found {p : Path} {content : ByteArray} (reached : Reached w p)
      (holds : w.HoldsFile p content) : Reads w none content
  | bundled (absent : ∀ q ∈ places w, w.entry? q = .ok none) : Reads w none defaultBytes

/-- A path that has to be looked up is too long. -/
inductive Refused (w : World) : Option Path → Prop
  | given {p : Path} (overlong : w.Overlong p) : Refused w (some p)
  | found {p : Path} (reached : Reached w p) (overlong : w.Overlong p) : Refused w none

lemma load_none_found {entry : Entry} (reached : Reached w p)
    (there : w.entry? p = .ok (some entry)) :
    load support w none = loadFrom support w (.file p) := by
  rw [load, choose, find_found reached there]
  rfl

lemma loadFrom_holdsFile (holds : w.HoldsFile p content) :
    loadFrom support w (.file p) = read support ((Source.file p).label w) content := by
  rw [loadFrom, (w.entry?_eq_file_iff p content).mpr holds]

theorem load_of_refused (refused : Refused w path) :
    load support w path = .error .unknowable := by
  cases refused with
  | given overlong =>
    obtain ⟨f, failed⟩ := (w.entry?_eq_error_iff _).mpr overlong
    simp only [load, choose, loadFrom, failed]
  | found reached overlong =>
    obtain ⟨f, failed⟩ := (w.entry?_eq_error_iff _).mpr overlong
    rw [load, choose, find_refused reached failed]
    rfl

theorem load_of_reads (reads : Reads w path content) :
    ∃ label, load support w path = read support label content := by
  cases reads with
  | given holds => exact ⟨_, loadFrom_holdsFile holds⟩
  | found reached holds =>
    have there := (w.entry?_eq_file_iff _ _).mpr holds
    exact ⟨_, (load_none_found reached there).trans (loadFrom_holdsFile holds)⟩
  | bundled absent =>
    refine ⟨w.bundledName, ?_⟩
    rw [load, choose, find_eq, foldlM_probe_absent absent]
    rfl

/-- A path that is not refused and holds no file is rejected. -/
lemma loadFrom_file_cases (support : Support) (w : World) (p : Path) :
    w.Overlong p ∨ (∃ content, w.HoldsFile p content) ∨
      Settled (loadFrom support w (.file p)) := by
  cases found : w.entry? p with
  | error f => exact Or.inl ((w.entry?_eq_error_iff p).mp ⟨f, found⟩)
  | ok entry =>
    rcases entry with _ | ⟨content⟩ | _
    · rw [loadFrom, found]
      exact Or.inr (Or.inr (settled_rejected _ _))
    · exact Or.inr (Or.inl ⟨content, (w.entry?_eq_file_iff p content).mp found⟩)
    · rw [loadFrom, found]
      exact Or.inr (Or.inr (settled_rejected _ _))

theorem load_cases (support : Support) (w : World) (path : Option Path) :
    Refused w path ∨ (∃ content, Reads w path content) ∨ Settled (load support w path) := by
  cases path with
  | some p =>
    rcases loadFrom_file_cases support w p with overlong | ⟨content, holds⟩ | settled
    · exact Or.inl (.given overlong)
    · exact Or.inr (Or.inl ⟨content, .given holds⟩)
    · exact Or.inr (Or.inr settled)
  | none =>
    rcases absent_or_reached w with absent | ⟨p, reached, overlong | ⟨entry, there⟩⟩
    · exact Or.inr (Or.inl ⟨defaultBytes, .bundled absent⟩)
    · exact Or.inl (.found reached overlong)
    · rcases loadFrom_file_cases support w p with overlong | ⟨content, holds⟩ | settled
      · exact Or.inl (.found reached overlong)
      · exact Or.inr (Or.inl ⟨content, .found reached holds⟩)
      · rw [load_none_found reached there]
        exact Or.inr (Or.inr settled)

/-! ## What a content leads to -/

/-- A fault that is not the breaking of a rule of YAML. -/
def Foreign : Yaml.Fault → Prop
  | .malformed _ => False
  | .unprintable => False
  | _ => True

/-- A content that is neither settings nor rejected: the reader gives it up for a foreign fault, or
it is a mapping with a complaint that cannot be spelled. -/
inductive Escapes (support : Support) (content : ByteArray) : Prop
  | unread {f : Yaml.Fault} (failed : support.yaml (.ofBytes content) = .error f)
      (foreign : Foreign f)
  | unspelled {v : Value} {fields : Fields} {c : Complaint}
      (read : support.yaml (.ofBytes content) = .ok (some v)) (mapping : v.layer = .map fields)
      (mem : c ∈ complaints fields) (unspellable : c.Unspellable support.depth)

lemma check_settled_iff (depth : Nat) (label : String) (fields : Fields) :
    Settled (check depth label fields) ↔ ∀ c ∈ complaints fields, ¬ c.Unspellable depth := by
  rw [← exists_messages_iff, check]
  cases messages : (complaints fields).mapM (Complaint.message depth) with
  | error e => exact iff_of_false (not_settled_error nofun) (by simp)
  | ok texts =>
    refine iff_of_true ?_ ⟨texts, rfl⟩
    cases texts with
    | nil => exact Or.inl ⟨fields, rfl, eq_nil_of_mapM messages⟩
    | cons text texts => exact settled_rejected _ _

/-- Nothing in an empty mapping needs to be spelled. -/
lemma not_unspellable_of_empty {c : Complaint} (depth : Nat) (mem : c ∈ complaints []) :
    ¬ c.Unspellable depth := by
  have missing : c = .missingVersion := List.mem_singleton.mp mem
  rw [missing]
  exact id

lemma settled_check_nil (depth : Nat) (label : String) : Settled (check depth label []) :=
  (check_settled_iff depth label []).mpr fun _ => not_unspellable_of_empty depth

lemma settings_some_settled_iff (depth : Nat) (label : String) (v : Value) :
    Settled (settings depth label (some v)) ↔
      ∀ fields, v.layer = .map fields → ∀ c ∈ complaints fields, ¬ c.Unspellable depth := by
  rw [settings, Option.filter_some]
  by_cases present : v.truthy = true
  · rw [if_pos present, Option.map_some]
    cases layer : v.layer with
    | map fields =>
      simp only [Layer.map.injEq, forall_eq']
      exact check_settled_iff depth label fields
    | scalar _ | list _ | set _ | pair _ _ =>
      refine iff_of_true (settled_rejected _ _) fun fields mapping => ?_
      cases mapping
  · rw [if_neg present, Option.map_none]
    refine iff_of_true (settled_check_nil depth label) fun fields mapping => ?_
    have empty : fields = [] := by simpa [Value.truthy, mapping] using present
    rw [empty]
    exact fun c => not_unspellable_of_empty depth

lemma read_settled_iff (label : String) (fits : content.size ≤ sizeLimit) :
    Settled (read support label content) ↔ ¬ Escapes support content := by
  rw [read, if_neg (Nat.not_lt.mpr fits)]
  cases outcome : support.yaml (.ofBytes content) with
  | ok value =>
    have escapes : Escapes support content ↔ ∃ v fields, value = some v ∧ v.layer = .map fields ∧
        ∃ c ∈ complaints fields, c.Unspellable support.depth := by
      constructor
      · rintro (⟨failed, -⟩ | ⟨given, mapping, mem, unspellable⟩)
        · rw [outcome] at failed
          cases failed
        · rw [outcome] at given
          exact ⟨_, _, Except.ok.inj given, mapping, _, mem, unspellable⟩
      · rintro ⟨v, fields, rfl, mapping, c, mem, unspellable⟩
        exact .unspelled outcome mapping mem unspellable
    rw [escapes]
    cases value with
    | none => exact iff_of_true (settled_check_nil support.depth label) (by simp)
    | some v => simpa using settings_some_settled_iff support.depth label v
  | error f =>
    have escapes : Escapes support content ↔ Foreign f := by
      constructor
      · rintro (⟨failed, foreign⟩ | ⟨given, -, -, -⟩)
        · rw [outcome] at failed
          exact Except.error.inj failed ▸ foreign
        · rw [outcome] at given
          cases given
      · exact .unread outcome
    rw [escapes]
    cases f with
    | malformed m => exact iff_of_true (settled_rejected _ _) id
    | unprintable => exact iff_of_true (settled_rejected _ _) id
    | undecodable | noValue | escapeTooLarge | emptyNumber | unknownTruth | notTimestamp | notText
    | tooManyPlaces | tooDeep => exact iff_of_false (not_settled_error nofun) (not_not.mpr trivial)

/-! ## Settings are checked -/

lemma check_cases (depth : Nat) (label : String) (fields : Fields) :
    (∃ e, check depth label fields = .error (.unspellable e)) ∨
      Settled (check depth label fields) := by
  unfold check
  split
  · next e _ => exact Or.inl ⟨e, rfl⟩
  · next spelled => exact Or.inr (Or.inl ⟨fields, rfl, eq_nil_of_mapM spelled⟩)
  · exact Or.inr (settled_rejected _ _)

lemma settings_cases (depth : Nat) (label : String) (value : Option Value) :
    (∃ e, settings depth label value = .error (.unspellable e)) ∨
      Settled (settings depth label value) := by
  unfold settings
  split
  · exact check_cases depth label []
  · next fields _ => exact check_cases depth label fields
  · exact Or.inr (settled_rejected _ _)

/-- Settings come only from a content that fits and has a value. -/
lemma value_of_read {s : Settings} (loaded : read support label content = .ok s) :
    ∃ value, support.yaml (.ofBytes content) = .ok value ∧
      settings support.depth label value = .ok s := by
  unfold read at loaded
  split at loaded
  · cases loaded
  · split at loaded
    · next value given => exact ⟨value, given, loaded⟩
    · cases loaded
    · cases loaded
    · cases loaded

theorem complaints_of_load {s : Settings} (loaded : load support w path = .ok s) :
    complaints s = [] := by
  have settled : Settled (.ok s) := by
    rcases load_cases support w path with refused | ⟨content, reads⟩ | settled
    · rw [load_of_refused refused] at loaded
      cases loaded
    · obtain ⟨label, same⟩ : ∃ label, load support w path = read support label content :=
        load_of_reads reads
      obtain ⟨value, -, given⟩ := value_of_read (same.symm.trans loaded)
      rcases settings_cases support.depth label value with ⟨e, unspellable⟩ | settled
      · rw [given] at unspellable
        cases unspellable
      · exact given ▸ settled
    · exact loaded ▸ settled
  rcases settled with ⟨s, same, none⟩ | ⟨label, reason, same⟩
  · cases same
    exact none
  · cases same

/-! ## Bytes that are not UTF-8 -/

section

variable (lawful : Yaml.Lawful support.yaml)

include lawful

lemma exists_text_of_read {s : Settings} (loaded : read support label content = .ok s) :
    ∃ t : Text, content = t.utf8Encode ∧ ∀ c ∈ t, Yaml.isAllowed c = true := by
  obtain ⟨value, given, -⟩ := value_of_read loaded
  obtain ⟨clean, allowed⟩ := lawful.whole _ value given
  obtain ⟨t, rfl⟩ := Yaml.Stream.exists_text_of_clean clean
  rw [Yaml.Stream.ofBytes_utf8Encode] at allowed
  refine ⟨t, rfl, fun c mem => ?_⟩
  rcases ((Text.unified_iff t _).mpr rfl).mem mem with rfl | mem
  · rfl
  · exact allowed c mem

lemma read_of_short (short : content.size < Yaml.Stream.chunkSize) (bad : ¬ content.IsValidUTF8) :
    read support label content = .error (.faulty .undecodable) := by
  have fits : content.size ≤ sizeLimit := Nat.le_trans (Nat.le_of_lt short) (by decide)
  rw [read, if_neg (Nat.not_lt.mpr fits), Yaml.Stream.ofBytes_of_short short bad, lawful.prompt]

lemma not_isValidUTF8_of_read
    (failed : read support label content = .error (.faulty .undecodable)) :
    ¬ content.IsValidUTF8 := by
  have given : support.yaml (.ofBytes content) = .error .undecodable := by
    unfold read at failed
    split at failed
    · cases failed
    · split at failed
      · next value _ =>
        rcases settings_cases support.depth label value with ⟨e, unspellable⟩ | settled
        · rw [failed] at unspellable
          cases unspellable
        · rw [failed] at settled
          exact absurd settled (not_settled_error nofun)
      · cases failed
      · cases failed
      · next f _ _ given =>
        cases failed
        exact given
  exact Yaml.Stream.not_isValidUTF8_of_undecodable (lawful.decoded _ given)

end

/-! ## Every load -/

/-- A world with one file, which holds one byte that starts no character. -/
def strayWorld : World := World.oneFile "c.yaml" [0xff].toByteArray

lemma holdsFile_strayWorld : strayWorld.HoldsFile (.ofString "c.yaml") [0xff].toByteArray := by
  have path : Path.ofString "c.yaml" = ⟨0, ["c.yaml"]⟩ := by decide +kernel
  rw [path]
  exact World.holdsFile_oneFile _ (by decide) (by decide) (by decide)

lemma not_isValidUTF8_stray : ¬ ([0xff].toByteArray).IsValidUTF8 := by decide +kernel

end StyleGate.Config
