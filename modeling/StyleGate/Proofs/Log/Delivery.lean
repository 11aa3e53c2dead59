import Mathlib.Tactic.Common
import StyleGate.Log.State

/-!
# Delivery of the report

A process configures logging and sends records in any order. The form of its records is that of the
first successful configuration and its levels are those of the last one, whatever fails or is sent
between them. The channel of the report then lets information pass at every level but zero: a level
of zero is taken over from above, and above the program's channels only warnings pass.
-/

namespace StyleGate.Log

open Config

/-! ## Runs -/

/-- What a process does with logging. -/
inductive Step where
  | configure (environment : Environment) (asked : Value)
  | send (time : String) (record : Record)

/-- A configuration that fails leaves the state as it was. -/
def State.step (s : State) : Step → State
  | .configure e asked =>
    match configure e asked s with
    | .ok next => next
    | .error _ => s
  | .send time r => (s.send time r).1

def State.run (s : State) (steps : List Step) : State := steps.foldl State.step s

/-- The form and the level that a successful configuration asks for. -/
def Step.settles : Step → List (Format × Int)
  | .configure e asked =>
    match resolve asked e.level with
    | .ok level => [(e.chosenFormat, level)]
    | .error _ => []
  | .send _ _ => []

/-- What a run's successful configurations ask for, in their order. -/
def settled (steps : List Step) : List (Format × Int) := steps.flatMap Step.settles

/-- The first configuration settles the form of records, the last one both levels. -/
structure State.Follows (s : State) (asked : List (Format × Int)) : Prop where
  sink : s.sink = asked.head?.map Prod.fst
  level : s.level = (asked.getLast?.map Prod.snd).getD 0
  reportLevel : s.reportLevel = min ((asked.getLast?.map Prod.snd).getD 0) info

theorem configure_eq_ok_iff {e : Environment} {asked : Value} {s next : State} :
    configure e asked s = .ok next ↔ ∃ level, resolve asked e.level = .ok level ∧
      next = { s with
        sink := some (s.sink.getD e.chosenFormat), level := level,
        reportLevel := min level info } := by
  unfold configure
  cases resolve asked e.level with
  | error cause => simp [bind, Except.bind]
  | ok level =>
    simp only [bind, Except.bind, pure, Except.pure, Except.ok.injEq, exists_eq_left']
    exact eq_comm

lemma State.follows_nil : State.Follows {} [] := ⟨rfl, rfl, rfl⟩

/-- Sending takes a channel into use and changes nothing else. -/
lemma State.Follows.send {s : State} {asked : List (Format × Int)} (h : s.Follows asked)
    (time : String) (r : Record) : (s.send time r).1.Follows asked := by
  obtain ⟨sink, level, reportLevel⟩ := h
  unfold State.send
  by_cases used : s.inUse r.channel = true
  · simp only [used, if_true]
    exact ⟨sink, level, reportLevel⟩
  · simp only [used]
    exact ⟨sink, level, reportLevel⟩

lemma State.Follows.step {s : State} {asked : List (Format × Int)} (h : s.Follows asked)
    (step : Step) : (s.step step).Follows (asked ++ step.settles) := by
  cases step with
  | send time r => simpa [State.step, Step.settles] using h.send time r
  | configure e value =>
    cases resolved : resolve value e.level with
    | error cause =>
      have fails : configure e value s = .error cause := by
        simp [configure, resolved, bind, Except.bind]
      simpa [State.step, Step.settles, resolved, fails] using h
    | ok level =>
      have succeeds : configure e value s = .ok { s with
          sink := some (s.sink.getD e.chosenFormat), level := level,
          reportLevel := min level info } :=
        configure_eq_ok_iff.mpr ⟨level, resolved, rfl⟩
      simp only [State.step, Step.settles, resolved, succeeds]
      refine ⟨?_, by simp, by simp⟩
      rw [h.sink]
      cases asked with
      | nil => rfl
      | cons first rest => rfl

theorem State.Follows.run {s : State} {asked : List (Format × Int)} (h : s.Follows asked)
    (steps : List Step) : (s.run steps).Follows (asked ++ settled steps) := by
  induction steps generalizing s asked with
  | nil => simpa [State.run, settled] using h
  | cons step steps ih =>
    have rest := ih (h.step step)
    rw [List.append_assoc] at rest
    exact rest

/-! ## The level zero -/

/-- The name of the level zero, in any mixture of cases. -/
def NamesZero (name : String) : Prop := Text.upper name.toList = "NOTSET".toList

/-- The level asked for is zero: the number itself, its name, or nothing where the environment has
its name. -/
def AsksForZero (e : Environment) (asked : Value) : Prop :=
  asked.layer = .scalar (.int 0) ∨ asked.layer = .scalar (.bool false) ∨
  (∃ name, asked.layer = .scalar (.text name) ∧ NamesZero name) ∨
  (asked.truthy = false ∧ ∃ name, e.level = some name ∧ NamesZero name)

lemma ofName_eq_zero_iff (name : Text) : ofName name = .ok 0 ↔ name = "NOTSET".toList := by
  constructor
  · intro h
    rw [ofName] at h
    split at h
    next n found =>
      obtain ⟨front, back, split, -⟩ := List.lookup_eq_some_iff.mp found
      have mem : (name, 0) ∈ levelNumbers := by
        rw [split, ← Except.ok.inj h]
        exact List.mem_append_right front List.mem_cons_self
      -- all other names have a number above zero
      simpa [levelNumbers, critical, error, warning, info, debug] using mem
    next =>
      repeat' split at h
      all_goals simp [info] at h
  · rintro rfl
    rfl

lemma ofName_upper_eq_zero_iff (name : String) :
    ofName (Text.upper name.toList) = .ok 0 ↔ NamesZero name := ofName_eq_zero_iff _

lemma ofName_environment_eq_zero_iff (named : Option String) :
    ofName (Text.upper (named.getD "INFO").toList) = .ok 0 ↔
      ∃ name, named = some name ∧ NamesZero name := by
  rw [ofName_upper_eq_zero_iff]
  cases named with
  | none =>
    have default : ¬ NamesZero "INFO" := by
      unfold NamesZero
      decide
    simp [default]
  | some name => simp

theorem resolve_eq_zero_iff (e : Environment) (asked : Value) :
    resolve asked e.level = .ok 0 ↔ AsksForZero e asked := by
  unfold resolve AsksForZero Value.truthy
  rw [← ofName_environment_eq_zero_iff]
  generalize ofName (Text.upper (e.level.getD "INFO").toList) = environment
  -- A number is taken as it is; of the rest, the absent values leave it to the environment.
  cases asked.layer with
  | list items => cases items <;> simp
  | map entries => cases entries <;> simp
  | set members => cases members <;> simp
  | pair first second => simp
  | scalar content =>
    cases content with
    | bool b => cases b <;> simp [Scalar.truthy]
    | int n => by_cases zero : n = 0 <;> simp [Scalar.truthy, zero]
    | float x => by_cases zero : (x != 0.0) = false <;> simp [Scalar.truthy, zero]
    | bytes bs => cases bs <;> simp [Scalar.truthy]
    | text name =>
      have nameless : ¬ NamesZero "" := by
        unfold NamesZero
        decide
      by_cases empty : name = ""
      · simp [Scalar.truthy, empty, nameless]
      · simp [Scalar.truthy, empty, ofName_upper_eq_zero_iff]
    | _ => simp [Scalar.truthy]

/-! ## The channel of the report -/

lemma State.lineage_report (s : State) :
    s.lineage reportChannel = [reportChannel, rootChannel] := by
  have above : beginnings reportChannel = [rootChannel] := by decide
  have top : beginnings rootChannel = [] := by decide
  have used : s.inUse rootChannel = true := rfl
  -- Two of the steps that the length of the name allows are enough.
  have depth : reportChannel.length = 16 + 1 := by decide
  rw [State.lineage, depth, State.lineageFrom, above, List.find?_cons_of_pos used]
  change reportChannel :: s.lineageFrom (16 + 1) rootChannel = _
  rw [State.lineageFrom, top, List.find?_nil]

lemma State.effectiveLevel_report (s : State) :
    s.effectiveLevel reportChannel =
      if s.reportLevel ≠ 0 then s.reportLevel else if s.level ≠ 0 then s.level else warning := by
  have report : s.ownLevel reportChannel = s.reportLevel := rfl
  have root : s.ownLevel rootChannel = s.level := rfl
  rw [State.effectiveLevel, State.lineage_report]
  by_cases own : s.reportLevel = 0
  · by_cases above : s.level = 0
    · simp [report, root, own, above]
    · simp [report, root, own, above]
  · simp [report, own]

/-- The record by which a line of the report is sent. -/
def reportRecord (message : String) : Record := ⟨reportChannel, info, message⟩

/-- Both levels come from one: zero for both lets only warnings pass, and no other level is above
that of information for the report. -/
lemma State.passes_report {s : State} {level : Int} (own : s.level = level)
    (report : s.reportLevel = min level info) (message : String) :
    s.passes (reportRecord message) = true ↔ level ≠ 0 := by
  have positive : (0 : Int) < info := by decide
  have passes : s.passes (reportRecord message) = true ↔ s.effectiveLevel reportChannel ≤ info := by
    rw [State.passes, Bool.and_eq_true, decide_eq_true_iff, decide_eq_true_iff]
    exact and_iff_right positive
  rw [passes, s.effectiveLevel_report, own, report]
  by_cases zero : level = 0
  · subst zero
    decide
  · have lower : min level info ≠ 0 := by omega
    have below : min level info ≤ info := by omega
    simp only [lower, ne_eq, not_false_eq_true, if_true, below, zero]

lemma State.send_report {s : State} {format : Format} (sink : s.sink = some format)
    (time message : String) :
    (s.send time (reportRecord message)).2 =
      if s.passes (reportRecord message) then
        some ⟨.stdout, (reportRecord message).render format time ++ "\n"⟩
      else none := by
  have used : s.inUse reportChannel = true := rfl
  have inTree : s.inTree reportChannel = true := by
    rw [State.inTree, State.lineage_report]
    decide
  simp only [State.send, reportRecord, used, if_true, State.emit, sink, inTree]
  by_cases passes : s.passes ⟨reportChannel, info, message⟩ = true
  · simp [passes]
  · simp [passes]

lemma State.Follows.send_report {s : State} {earlier : List (Format × Int)} {last : Format × Int}
    (h : s.Follows (earlier ++ [last])) (time message : String) :
    ∃ format, (earlier ++ [last]).head?.map Prod.fst = some format ∧
      (s.send time (reportRecord message)).2 =
        if last.2 = 0 then none
        else some ⟨.stdout, (reportRecord message).render format time ++ "\n"⟩ := by
  obtain ⟨sink, own, report⟩ := h
  simp only [List.getLast?_append, List.getLast?_singleton, Option.some_or, Option.map_some,
    Option.getD_some] at own report
  obtain ⟨format, first⟩ : ∃ format, (earlier ++ [last]).head?.map Prod.fst = some format := by
    cases earlier with
    | nil => exact ⟨_, rfl⟩
    | cons head tail => exact ⟨_, rfl⟩
  rw [first] at sink
  have passes := State.passes_report own report message
  refine ⟨format, first, ?_⟩
  rw [State.send_report sink]
  by_cases zero : last.2 = 0
  · rw [if_pos zero, if_neg fun passed => passes.mp passed zero]
  · rw [if_neg zero, if_pos (passes.mpr zero)]

/-- After a configuration that succeeds, whatever the process did before, a line of the report goes
to standard output once, in the form of the first successful configuration, unless the level asked
for is zero. Then it goes nowhere. -/
theorem report_delivered_unless_zero (steps : List Step) (e : Environment) (asked : Value)
    (returned : ∃ next, configure e asked (State.run {} steps) = .ok next) (time message : String) :
    ∃ format, (settled (steps ++ [.configure e asked])).head?.map Prod.fst = some format ∧
      (¬ AsksForZero e asked →
        ((State.run {} (steps ++ [.configure e asked])).send time (reportRecord message)).2 =
          some ⟨.stdout, (reportRecord message).render format time ++ "\n"⟩) ∧
      (AsksForZero e asked →
        ((State.run {} (steps ++ [.configure e asked])).send time (reportRecord message)).2 =
          none) := by
  obtain ⟨next, succeeds⟩ := returned
  obtain ⟨level, resolved, -⟩ := configure_eq_ok_iff.mp succeeds
  have all : settled (steps ++ [.configure e asked]) =
      settled steps ++ [(e.chosenFormat, level)] := by
    simp [settled, Step.settles, resolved]
  have zero : AsksForZero e asked ↔ level = 0 := by
    rw [← resolve_eq_zero_iff, resolved, Except.ok.injEq]
  have follows := State.follows_nil.run (steps ++ [.configure e asked])
  rw [List.nil_append, all] at follows
  obtain ⟨format, first, sent⟩ := follows.send_report time message
  refine ⟨format, by rw [all]; exact first, ?_, ?_⟩
  · intro nonzero
    rw [sent, if_neg (mt zero.mpr nonzero)]
  · intro isZero
    rw [sent, if_pos (zero.mp isZero)]

/-- After a call that fails, one for the highest level. -/
theorem report_delivered_after_failure :
    (∃ next, configure {} (Value.ofScalar (.int 50))
      (State.run {} [.configure {} (Value.ofScalar (.text "basic_format"))]) = .ok next) ∧
    ((State.run {} [.configure {} (Value.ofScalar (.text "basic_format")),
      .configure {} (Value.ofScalar (.int 50))]).send "" (reportRecord "Success")).2 =
        some ⟨.stdout, "Success\n"⟩ := by
  have returned : ∃ next, configure {} (Value.ofScalar (.int 50))
      (State.run {} [.configure {} (Value.ofScalar (.text "basic_format"))]) = .ok next :=
    ⟨_, rfl⟩
  have nonzero : ¬ AsksForZero {} (Value.ofScalar (.int 50)) := by
    rw [← resolve_eq_zero_iff]
    decide
  obtain ⟨format, first, delivered, -⟩ := report_delivered_unless_zero _ _ _ returned "" "Success"
  obtain rfl : Format.plain = format := Option.some.inj first
  exact ⟨returned, delivered nonzero⟩

/-- The level that is called not set is zero, and takes the report away with it. -/
theorem report_silenced_by_notset :
    ∃ s, configure {} (Value.ofScalar (.text "NOTSET")) {} = .ok s ∧
      (s.send "" (reportRecord "--- Analysis Report ---")).2 = none := by
  refine ⟨{ sink := some .plain }, rfl, ?_⟩
  decide

end StyleGate.Log
