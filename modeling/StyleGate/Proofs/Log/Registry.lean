import StyleGate.Proofs.Log.Channels
import StyleGate.Proofs.Log.Delivery

/-!
# The registry behind the state of logging

The state of logging is kept in pieces: a flag, two levels, a list of handlers and whether records
go further up. A configuration changes them one after the other and may fail between two changes,
and a record is written by every handler that it meets on its way up. The pieces never come apart: a
call that fails has changed nothing, and every run leaves them as one state of the program says.
-/

namespace StyleGate.Log

open Config

/-! ## What stands for a level -/

/-- What a level is asked for by, once names are looked up. -/
inductive Candidate where
  | number (n : Int)
  | text (s : String)
  | table
  deriving DecidableEq, Repr

/-- The layout of records that is used where no other is chosen. -/
def basicLayout : String := "%(levelname)s:%(name)s:%(message)s"

/-- What a name in upper case stands for. -/
def meaning (name : Text) : Candidate :=
  match levelNumbers.lookup name with
  | some n => .number n
  | none =>
    if name == "BASIC_FORMAT".toList then .text basicLayout
    else if name == "_STYLES".toList then .table
    else .number info

/-- What the level that is asked for stands for. -/
def candidate (asked : Value) (named : Option String) : Except LevelError Candidate :=
  match asked.layer with
  | .scalar (.int n) => .ok (.number n)
  | .scalar (.bool b) => .ok (.number (if b then 1 else 0))
  | layer =>
    if !asked.truthy then .ok (meaning (Text.upper (named.getD "INFO").toList))
    else match layer with
      | .scalar (.text s) => .ok (meaning (Text.upper s.toList))
      | _ => .error .notAName

/-- The level that a channel can be set to: a text has to name one. -/
def Candidate.level : Candidate → Except LevelError Int
  | .number n => .ok n
  | .text s =>
    match levelNumbers.lookup s.toList with
    | some n => .ok n
    | none => .error .namesText
  | .table => .error .namesTable

/-- The lower of a candidate and the level of information, which only a number has. -/
def Candidate.lowered : Candidate → Except LevelError Candidate
  | .number n => .ok (.number (min n info))
  | .text _ => .error .namesText
  | .table => .error .namesTable

/-! ## One call -/

structure Registry where
  /-- A call has come to its end before. -/
  configured : Bool := false
  level : Int := 0
  reportLevel : Int := 0
  /-- The handlers of the program's channel, each with the form in which it writes. -/
  handlers : List Format := []
  /-- Records go further up from the program's channel. -/
  propagates : Bool := true
  /-- The channels in use besides the program's and that of the report. -/
  channels : List String := []
  deriving DecidableEq, Repr

/-- A computation on the registry. What it did before it failed stays done. -/
abbrev Call := EStateM LevelError Registry

def setLevel (c : Candidate) : Call Unit := do
  let n ← MonadExcept.ofExcept c.level
  modify fun m => { m with level := n }

def setReportLevel (c : Candidate) : Call Unit := do
  let n ← MonadExcept.ofExcept c.level
  modify fun m => { m with reportLevel := n }

/-- A configuration, one change after the other. -/
def setUp (e : Environment) (asked : Value) : Call Unit := do
  let c ← MonadExcept.ofExcept (candidate asked e.level)
  setLevel c
  setReportLevel (← MonadExcept.ofExcept c.lowered)
  if (← get).configured then return
  modify fun m => { m with configured := true }
  modify fun m => { m with handlers := m.handlers ++ [e.chosenFormat] }
  modify fun m => { m with propagates := false }

/-- The level of what a name means is the level of the name. -/
lemma level_meaning (name : Text) : (meaning name).level = ofName name := by
  rw [meaning, ofName]
  cases levelNumbers.lookup name with
  | some n => rfl
  | none =>
    dsimp only
    split
    · rfl
    · split
      · rfl
      · rfl

lemma candidate_level (asked : Value) (named : Option String) :
    (candidate asked named >>= Candidate.level) = resolve asked named := by
  rw [candidate, resolve]
  by_cases present : asked.truthy = true
  · simp only [present, Bool.not_true, Bool.false_eq_true, if_false]
    cases asked.layer with
    | scalar content =>
      cases content with
      | text s => exact level_meaning _
      | _ => rfl
    | _ => rfl
  · simp only [present, Bool.not_false, if_true]
    cases asked.layer with
    | scalar content =>
      cases content with
      | int n => rfl
      | bool b => rfl
      | _ => exact level_meaning _
    | _ => exact level_meaning _

lemma meaning_cases (name : Text) :
    (∃ n, meaning name = .number n) ∨ meaning name = .text basicLayout ∨ meaning name = .table := by
  rw [meaning]
  cases levelNumbers.lookup name with
  | some n => exact Or.inl ⟨n, rfl⟩
  | none =>
    by_cases layout : (name == "BASIC_FORMAT".toList) = true
    · exact Or.inr (Or.inl (if_pos layout))
    · by_cases styles : (name == "_STYLES".toList) = true
      · exact Or.inr (Or.inr ((if_neg layout).trans (if_pos styles)))
      · exact Or.inl ⟨info, (if_neg layout).trans (if_neg styles)⟩

lemma candidate_cases {asked : Value} {named : Option String} {c : Candidate}
    (found : candidate asked named = .ok c) : (∃ n, c = .number n) ∨ ∃ name, c = meaning name := by
  rw [candidate] at found
  split at found
  · exact Or.inl ⟨_, (Except.ok.inj found).symm⟩
  · exact Or.inl ⟨_, (Except.ok.inj found).symm⟩
  · split at found
    · exact Or.inr ⟨_, (Except.ok.inj found).symm⟩
    · split at found
      · exact Or.inr ⟨_, (Except.ok.inj found).symm⟩
      · cases found

/-- The only text that a name stands for is not the name of a level, so what passes for a level is a
number. -/
lemma number_of_candidate {asked : Value} {named : Option String} {c : Candidate} {n : Int}
    (found : candidate asked named = .ok c) (level : c.level = .ok n) : c = .number n := by
  have number : ∃ k, c = .number k := by
    rcases candidate_cases found with number | ⟨name, rfl⟩
    · exact number
    · rcases meaning_cases name with number | text | table
      · exact number
      · rw [text, show (Candidate.text basicLayout).level = .error .namesText by decide] at level
        cases level
      · rw [table] at level
        cases level
  obtain ⟨k, rfl⟩ := number
  cases level
  rfl

/-- What a call leaves behind if it comes to its end. -/
def Registry.settledBy (m : Registry) (format : Format) (level : Int) : Registry :=
  if m.configured then { m with level := level, reportLevel := min level info }
  else { m with
    configured := true, level := level, reportLevel := min level info,
    handlers := m.handlers ++ [format], propagates := false }

/-- A call fails before its first change. -/
theorem setUp_of_error {e : Environment} {asked : Value} {cause : LevelError}
    (failed : resolve asked e.level = .error cause) (m : Registry) :
    setUp e asked m = .error cause m := by
  rw [← candidate_level] at failed
  cases found : candidate asked e.level with
  | error cause' =>
    rw [found] at failed
    cases failed
    rw [setUp, found]
    rfl
  | ok c =>
    rw [found] at failed
    have refused : c.level = .error cause := failed
    have stuck : setLevel c m = .error cause m := by
      rw [setLevel, refused]
      rfl
    rw [setUp, found]
    change EStateM.bind (setLevel c) _ m = _
    rw [EStateM.bind, stuck]

theorem setUp_of_ok {e : Environment} {asked : Value} {level : Int}
    (resolved : resolve asked e.level = .ok level) (m : Registry) :
    setUp e asked m = .ok () (m.settledBy e.chosenFormat level) := by
  rw [← candidate_level] at resolved
  cases found : candidate asked e.level with
  | error cause =>
    rw [found] at resolved
    cases resolved
  | ok c =>
    rw [found] at resolved
    obtain rfl := number_of_candidate found resolved
    obtain ⟨configured, _, _, _, _, _⟩ := m
    rw [setUp, found]
    cases configured with
    | true => rfl
    | false => rfl

/-! ## Records -/

/-- The state that a registry keeps. -/
def Registry.state (m : Registry) : State := ⟨m.handlers.head?, m.level, m.reportLevel, m.channels⟩

/-- The handlers that a record meets on its way up. Only the program's channel has handlers, and
only there the way can end early. -/
def Registry.met (m : Registry) : List String → List Format
  | [] => []
  | channel :: higher =>
    if channel = rootChannel then m.handlers ++ (if m.propagates then m.met higher else [])
    else m.met higher

/-- What is written of a record: by every handler that it meets, and by a last resort if it meets
none. -/
def Registry.writes (m : Registry) (time : String) (r : Record) : List Write :=
  if !m.state.passes r then []
  else match m.met (m.state.lineage r.channel) with
    | [] => if warning ≤ r.level then [⟨.stderr, r.message ++ "\n"⟩] else []
    | formats => formats.map fun format => ⟨.stdout, r.render format time ++ "\n"⟩

def Registry.send (m : Registry) (time : String) (r : Record) : Registry × List Write :=
  let m := if m.state.inUse r.channel then m else { m with channels := r.channel :: m.channels }
  (m, m.writes time r)

/-! ## Runs -/

/-- A call that fails leaves behind what it has done. -/
def Registry.step (m : Registry) : Step → Registry
  | .configure e asked =>
    match setUp e asked m with
    | .ok _ next => next
    | .error _ next => next
  | .send time r => (m.send time r).1

def Registry.run (m : Registry) (steps : List Step) : Registry := steps.foldl Registry.step m

/-- The call that a step is, if it comes to its end. -/
def Registry.returns (m : Registry) : Step → List (Environment × Value)
  | .configure e asked =>
    match setUp e asked m with
    | .ok _ _ => [(e, asked)]
    | .error _ _ => []
  | .send _ _ => []

/-- The calls of a run that come to their end, in their order. -/
def Registry.returned (m : Registry) : List Step → List (Environment × Value)
  | [] => []
  | step :: steps => m.returns step ++ (m.step step).returned steps

/-- The pieces of the registry after these calls have come to their end. -/
structure Registry.Follows (m : Registry) (calls : List (Environment × Value)) : Prop where
  configured : m.configured = !calls.isEmpty
  handlers : m.handlers = (calls.head?.map fun call => call.1.chosenFormat).toList
  propagates : m.propagates = calls.isEmpty
  level : ∀ call, calls.getLast? = some call → resolve call.2 call.1.level = .ok m.level
  reportLevel : calls ≠ [] → m.reportLevel = min m.level info

lemma Registry.follows_nil : Registry.Follows {} [] :=
  ⟨rfl, rfl, rfl, nofun, nofun⟩

lemma Registry.Follows.settledBy {m : Registry} {calls : List (Environment × Value)}
    (h : m.Follows calls) {e : Environment} {asked : Value} {level : Int}
    (resolved : resolve asked e.level = .ok level) :
    (m.settledBy e.chosenFormat level).Follows (calls ++ [(e, asked)]) := by
  have last (call : Environment × Value) (is : (calls ++ [(e, asked)]).getLast? = some call) :
      resolve call.2 call.1.level = .ok level := by
    rw [List.getLast?_concat] at is
    cases is
    exact resolved
  cases calls with
  | nil =>
    have fresh : m.configured = false := h.configured
    have bare : m.handlers = [] := h.handlers
    rw [Registry.settledBy, if_neg (ne_true_of_eq_false fresh)]
    exact ⟨rfl, by simp [bare], rfl, last, fun _ => rfl⟩
  | cons first rest =>
    have used : m.configured = true := h.configured
    rw [Registry.settledBy, if_pos used]
    exact ⟨used, h.handlers, h.propagates, last, fun _ => rfl⟩

lemma Registry.Follows.send {m : Registry} {calls : List (Environment × Value)}
    (h : m.Follows calls) (time : String) (r : Record) : (m.send time r).1.Follows calls := by
  by_cases used : m.state.inUse r.channel = true
  · simp only [Registry.send, used, if_true]
    exact h
  · simp only [Registry.send, used, Bool.false_eq_true, if_false]
    exact ⟨h.configured, h.handlers, h.propagates, h.level, h.reportLevel⟩

lemma Registry.Follows.step {m : Registry} {calls : List (Environment × Value)}
    (h : m.Follows calls) (step : Step) : (m.step step).Follows (calls ++ m.returns step) := by
  cases step with
  | send time r =>
    rw [Registry.returns, List.append_nil]
    exact h.send time r
  | configure e asked =>
    cases resolved : resolve asked e.level with
    | error cause =>
      simp only [Registry.step, Registry.returns, setUp_of_error resolved, List.append_nil]
      exact h
    | ok level =>
      simp only [Registry.step, Registry.returns, setUp_of_ok resolved]
      exact h.settledBy resolved

theorem Registry.Follows.run {m : Registry} {calls : List (Environment × Value)}
    (h : m.Follows calls) (steps : List Step) :
    (m.run steps).Follows (calls ++ m.returned steps) := by
  induction steps generalizing m calls with
  | nil => rwa [Registry.returned, List.append_nil]
  | cons step steps ih =>
    rw [Registry.returned, ← List.append_assoc]
    exact ih (h.step step)

/-! ## The state of the program -/

/-- The registry in which a state is kept. -/
def State.registry (s : State) : Registry :=
  ⟨s.sink.isSome, s.level, s.reportLevel, s.sink.toList, s.sink.isNone, s.channels⟩

lemma State.state_registry (s : State) : s.registry.state = s := by
  obtain ⟨sink, _, _, _⟩ := s
  cases sink with
  | none => rfl
  | some format => rfl

lemma State.met_registry (s : State) (lineage : List String) :
    s.registry.met lineage = if rootChannel ∈ lineage then s.sink.toList else [] := by
  induction lineage with
  | nil => rfl
  | cons channel higher ih =>
    by_cases root : channel = rootChannel
    · subst root
      simp only [Registry.met, if_true, List.mem_cons, true_or, ih]
      cases sink : s.sink with
      | none => simp [State.registry, sink]
      | some format => simp [State.registry, sink]
    · simp only [Registry.met, root, if_false, ih, List.mem_cons, Ne.symm root, false_or]

lemma State.writes_registry (s : State) (time : String) (r : Record) :
    s.registry.writes time r = (s.emit time r).toList := by
  rw [Registry.writes, s.state_registry, s.met_registry, State.emit]
  by_cases passes : s.passes r = true
  · have inTree : s.inTree r.channel = decide (rootChannel ∈ s.lineage r.channel) := by
      rw [State.inTree, List.contains_eq_mem]
    simp only [passes, inTree, Bool.not_true, Bool.false_eq_true, if_false]
    by_cases root : rootChannel ∈ s.lineage r.channel
    · cases s.sink with
      | none =>
        by_cases loud : warning ≤ r.level
        · simp [root, loud]
        · simp [root, loud]
      | some format => simp [root]
    · by_cases loud : warning ≤ r.level
      · simp [root, loud]
      · simp [root, loud]
  · simp [passes]

lemma State.send_registry (s : State) (time : String) (r : Record) :
    s.registry.send time r = ((s.send time r).1.registry, (s.send time r).2.toList) := by
  by_cases used : s.inUse r.channel = true
  · simp only [Registry.send, State.send, s.state_registry, used, if_true, s.writes_registry]
  · simp only [Registry.send, State.send, s.state_registry, used, Bool.false_eq_true, if_false]
    exact Prod.ext rfl (State.writes_registry { s with channels := r.channel :: s.channels } time r)

lemma State.step_registry (s : State) (step : Step) :
    s.registry.step step = (s.step step).registry := by
  cases step with
  | send time r => rw [Registry.step, s.send_registry, State.step]
  | configure e asked =>
    cases resolved : resolve asked e.level with
    | error cause =>
      have fails : configure e asked s = .error cause := by
        rw [configure, resolved]
        rfl
      simp only [Registry.step, State.step, setUp_of_error resolved, fails]
    | ok level =>
      have succeeds : configure e asked s = .ok { s with
          sink := some (s.sink.getD e.chosenFormat), level := level,
          reportLevel := min level info } := configure_eq_ok_iff.mpr ⟨level, resolved, rfl⟩
      simp only [Registry.step, State.step, setUp_of_ok resolved, succeeds]
      obtain ⟨sink, _, _, _⟩ := s
      cases sink with
      | none => rfl
      | some format => rfl

theorem State.run_registry (s : State) (steps : List Step) :
    s.registry.run steps = (s.run steps).registry := by
  induction steps generalizing s with
  | nil => rfl
  | cons step steps ih =>
    rw [Registry.run, List.foldl_cons, s.step_registry]
    exact ih (s.step step)

/-! ## Every run -/

/-- With a handler that ends the way, a record from below the program's channel is written by it or
not at all. -/
lemma State.emit_of_descends {s : State} {format : Format} (sink : s.sink = some format)
    {r : Record} (descends : s.Descends r.channel) (time : String) :
    s.emit time r = none ∨ s.emit time r = some ⟨.stdout, r.render format time ++ "\n"⟩ := by
  rw [State.emit]
  by_cases passes : s.passes r = true
  · simp [passes, sink, (s.inTree_iff r.channel).mpr descends]
  · simp [passes]

lemma State.target_of_unset {s : State} (unset : s.sink = none) {time : String} {r : Record}
    {w : Write} (written : s.emit time r = some w) : w.target = .stderr := by
  simp only [State.emit, unset] at written
  split at written
  · cases written
  · split at written
    · cases written
      rfl
    · cases written

/-- A run settles logging once. Before any call has come to its end there is no handler and nothing
is written to standard output. From the first that does, there is one handler, in the form of that
call, records go no further up, and those from below the program's channel are written to standard
output, once or not at all; the levels are those of the last call that came to its end. A call that
fails leaves the registry as it was, and the registry is at every point that of the program's own
state, with the same writes. -/
theorem logging_lifecycle (steps : List Step) :
    let m := Registry.run {} steps
    let calls := Registry.returned {} steps
    (calls = [] → m.handlers = [] ∧ m.propagates = true ∧
      ∀ time r, ∀ w ∈ (m.send time r).2, w.target ≠ .stdout) ∧
    (∀ first last, calls.head? = some first → calls.getLast? = some last →
      m.handlers = [first.1.chosenFormat] ∧ m.propagates = false ∧
      resolve last.2 last.1.level = .ok m.level ∧ m.reportLevel = min m.level info ∧
      ∀ time r, m.state.Descends r.channel → (m.send time r).2 = [] ∨
        (m.send time r).2 = [⟨.stdout, r.render first.1.chosenFormat time ++ "\n"⟩]) ∧
    (∀ e asked cause after, setUp e asked m = .error cause after → after = m) ∧
    (∀ parts : List String, (∀ part ∈ parts, part ≠ "" ∧ '.' ∉ part.toList) →
      m.state.Descends (dotted parts)) ∧
    m = (State.run {} steps).registry ∧
    ∀ time r, (m.send time r).2 = ((State.run {} steps).send time r).2.toList := by
  intro m calls
  have follows : m.Follows calls := Registry.follows_nil.run steps
  have kept : m = (State.run {} steps).registry := State.run_registry {} steps
  have state : m.state = State.run {} steps := by rw [kept, State.state_registry]
  have sent (time : String) (r : Record) :
      (m.send time r).2 = ((State.run {} steps).emit time r).toList := by
    rw [kept, State.send_registry, State.send_snd]
  have sink : (State.run {} steps).sink = m.handlers.head? := by rw [← state]; rfl
  refine ⟨?_, ?_, ?_, fun parts plain => m.state.descends_dotted plain, kept, ?_⟩
  · intro none
    have bare : m.handlers = [] := by rw [follows.handlers, none]; rfl
    refine ⟨bare, by rw [follows.propagates, none]; rfl, ?_⟩
    intro time r w written
    rw [sent, Option.mem_toList] at written
    rw [bare] at sink
    rw [State.target_of_unset sink written]
    decide
  · intro first last isFirst isLast
    have one : m.handlers = [first.1.chosenFormat] := by rw [follows.handlers, isFirst]; rfl
    have some : calls ≠ [] := by
      rintro none
      rw [none] at isFirst
      cases isFirst
    refine ⟨one, ?_, follows.level last isLast, follows.reportLevel some, ?_⟩
    · rw [follows.propagates]
      exact List.isEmpty_eq_false_iff.mpr some
    · intro time r descends
      rw [state] at descends
      rw [one] at sink
      rw [sent]
      rcases State.emit_of_descends sink descends time with dropped | written
      · exact Or.inl (by rw [dropped]; rfl)
      · exact Or.inr (by rw [written]; rfl)
  · intro e asked cause after failed
    cases resolved : resolve asked e.level with
    | error cause' =>
      rw [setUp_of_error resolved] at failed
      cases failed
      rfl
    | ok level =>
      rw [setUp_of_ok resolved] at failed
      cases failed
  · intro time r
    rw [sent, State.send_snd]

/-- A call for a text that is no level, one that asks for JSON, one for a table, and one for the
highest level without asking for a form. -/
def fourCalls : List Step :=
  [.configure {} (Value.ofScalar (.text "basic_format")),
    .configure { format := some "JSON" } (Value.ofScalar (.text "debug")),
    .configure {} (Value.ofScalar (.text "_styles")),
    .configure {} (Value.ofScalar (.int 50))]

/-- The first of them settles nothing, and after all of them the form is that of the second and the
level that of the last. -/
theorem lifecycle_of_four_calls :
    (∀ time r, ∀ w ∈ ((Registry.run {} (fourCalls.take 1)).send time r).2, w.target ≠ .stdout) ∧
    (Registry.run {} fourCalls).handlers = [.json] ∧
    (Registry.run {} fourCalls).propagates = false ∧
    (Registry.run {} fourCalls).level = 50 ∧ (Registry.run {} fourCalls).reportLevel = 20 ∧
    (∀ cause after, setUp {} (Value.ofScalar (.text "basic_format")) (Registry.run {} fourCalls) =
      .error cause after → after = Registry.run {} fourCalls) ∧
    ∀ time r, r.channel = "sharpcheck.rules.spacing" →
      ((Registry.run {} fourCalls).send time r).2 = [] ∨
      ((Registry.run {} fourCalls).send time r).2 = [⟨.stdout, r.render .json time ++ "\n"⟩] := by
  obtain ⟨before, -⟩ := logging_lifecycle (fourCalls.take 1)
  obtain ⟨-, -, silent⟩ := before rfl
  obtain ⟨-, after, fails, dots, -⟩ := logging_lifecycle fourCalls
  obtain ⟨handlers, ends, level, reportLevel, written⟩ := after
    ({ format := some "JSON" }, Value.ofScalar (.text "debug")) ({}, Value.ofScalar (.int 50)) rfl
    rfl
  have highest : (Registry.run {} fourCalls).level = 50 := (Except.ok.inj level).symm
  rw [highest] at reportLevel
  refine ⟨silent, handlers, ends, highest, reportLevel, fails _ _, ?_⟩
  intro time r spacing
  refine written time r ?_
  rw [spacing]
  exact dots ["rules", "spacing"] (by decide)

end StyleGate.Log
