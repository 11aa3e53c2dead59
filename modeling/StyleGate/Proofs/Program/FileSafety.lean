import StyleGate.Proofs.CommandLine.Asking
import StyleGate.Proofs.Config.Bundled
import StyleGate.Proofs.Config.FirstFile
import StyleGate.Proofs.Program.ExitStatus

/-!
# What happens to files

A run that is not asked for a first configuration file leaves the files as they are, whatever else
it is asked for and however it ends. A first configuration file is only ever a new file: where there
is something already, or where none can be made, nothing changes. If it is made and the system fails
then, it stays with a beginning of what it was to hold. Once written, it is the configuration of the
working directory, equal to the bundled one, and is not written again.
-/

namespace StyleGate.Program

open CommandLine Config

variable {setting : Setting} {o : Options} {settings : Settings} {s s' : Session}

/-! ## Runs that write nothing -/

lemma Session.configure_world {asked : Value} (configured : s.configure setting asked = .ok s') :
    s'.world = s.world := by
  unfold Session.configure at configured
  split at configured
  · cases configured
    rfl
  · cases configured

/-- Saying one thing after the other changes no file. -/
lemma foldl_say_world {α : Type} (channel : α → String) (level : Int) (message : α → String)
    (items : List α) (s : Session) :
    (items.foldl (fun s a => s.say setting (channel a) level (message a)) s).world = s.world := by
  induction items generalizing s with
  | nil => rfl
  | cons a items ih =>
    rw [List.foldl_cons, ih]
    exact s.say_world setting _ level _

lemma sayReportLines_world (lines : List String) (s : Session) :
    (sayReportLines setting lines s).world = s.world :=
  foldl_say_world (fun _ => Log.reportChannel) Log.info id lines s

lemma report_world (colour : Bool) (rules : List Rule) (d : Document) (s : Session) :
    (report setting colour rules d s).1.world = s.world := by
  rw [report, sayReportLines_world]
  exact foldl_say_world Prod.fst Log.debug Prod.snd _ s

lemma complain_world (colour : Bool) (message : String) (s : Session) :
    (complain setting colour message s).world = s.world := s.say_world _ _ _ _

lemma analyzeFile_world (colour : Bool) (path : Text) (s : Session) :
    (analyzeFile setting settings colour path s).1.world = s.world := by
  unfold analyzeFile
  split
  · simp only [complain_world]
  · extract_lets p
    split
    · rfl
    · simp only [complain_world]
    · extract_lets loaded
      have same : loaded.world = s.world := s.say_world _ _ _ _
      split
      · exact same
      · exact (report_world colour _ _ loaded).trans same

/-- The session that a phase has come to. -/
def Phase.session : Phase → Session
  | .finished s _ => s
  | .ready s _ _ _ => s

lemma obey_world (s : Session) : (obey setting o settings s).session.world = s.world := by
  unfold obey
  split
  · simp only [Phase.session, Session.say_world]
  · split
    · split
      · rfl
      · exact sayReportLines_world _ s
    · rfl

lemma withConfig_world (s : Session) : (withConfig setting o s).session.world = s.world := by
  unfold withConfig
  split
  · rfl
  · split
    · simp only [Phase.session, Session.say_world]
    · rfl
    · extract_lets loaded
      have same : loaded.world = s.world := s.say_world _ _ _ _
      split
      · simp only [Phase.session, same]
      next configured =>
        rw [obey_world, Session.configure_world configured]
        exact same

lemma prepare_world (noInit : o.init = false) (s : Session) :
    (prepare setting o s).session.world = s.world := by
  unfold prepare
  split
  · rfl
  next configured =>
    rw [noInit, if_neg Bool.false_ne_true, withConfig_world, Session.configure_world configured]

lemma conclude_world (input : StandardInput) (phase : Phase) :
    (conclude setting input phase).1.world = phase.session.world := by
  cases phase with
  | finished s exit => rfl
  | ready s settings colour path =>
    cases path with
    | some path => exact analyzeFile_world _ _ _
    | none =>
      have same : (if input.isOpen then s.write .stdout question else s).world = s.world := by
        split
        · rfl
        · rfl
      rw [conclude]
      cases answer input with
      | error f => exact same
      | ok path => exact (analyzeFile_world _ _ _).trans same

theorem run_world {args : List Text} (unasked : ¬ AsksInit args) (w : World)
    (input : StandardInput) :
    (run setting w args input).1.world = w := by
  unfold run
  extract_lets s
  split
  · rfl
  · rfl
  · rfl
  next o parsed =>
    have noInit : o.init = false := Bool.eq_false_iff.mpr fun asked => unasked ⟨o, parsed, asked⟩
    rw [conclude_world, prepare_world noInit]

/-! ## Runs that write a first file -/

section

variable {path : Path} {w' : World}

lemma writeConfig_of_error (setting : Setting) {f : WriteFault}
    (failed : writeFirst setting.disk path s.world = .error f w') :
    writeConfig setting path s = ({ s with world := w' }, .error (.write f)) := by
  rw [writeConfig, failed]

lemma writeConfig_of_ok (setting : Setting) {made : Bool}
    (ended : writeFirst setting.disk path s.world = .ok made w') :
    ∃ s', writeConfig setting path s = (s', .ok made) ∧ s'.world = w' := by
  rw [writeConfig, ended]
  cases made with
  | false => exact ⟨_, rfl, Session.say_world _ _ _ _ _⟩
  | true => exact ⟨_, rfl, Session.say_world _ _ _ _ _⟩

/-- What is there is never written over. -/
lemma writeConfig_of_has (setting : Setting) (there : s.world.Has path) :
    ∃ s', writeConfig setting path s = (s', .ok false) ∧ s'.world = s.world := by
  rcases writeFirst_cases setting.disk s.world path with ⟨-, kept⟩ | ⟨absent, -⟩
  · exact writeConfig_of_ok setting kept
  · exact absurd there absent

/-- What a failure leaves behind if it came after the file was made: as much of it as there was room
for, or all of it if only its mode could not be set. -/
inductive Leaves (disk : Disk) (w w' : World) (path : Path) : Crash → Prop
  | cut {n : Nat} (limited : disk.room = some n) (lacking : n < defaultBytes.size)
      (gains : w.GainsFile w' path (defaultBytes.extract 0 n)) :
      Leaves disk w w' path (.write .noRoom)
  | unset (fails : disk.setsMode = false) (gains : w.GainsFile w' path defaultBytes) :
      Leaves disk w w' path (.write .modeNotSet)

lemma Leaves.gainsFile {disk : Disk} {w : World} {e : Crash} (leaves : Leaves disk w w' path e) :
    ∃ content, w.GainsFile w' path content := by
  cases leaves with
  | cut limited lacking gains => exact ⟨_, gains⟩
  | unset fails gains => exact ⟨_, gains⟩

/-- The ways in which writing a first configuration file can end. -/
theorem writeConfig_cases {result : Except Crash Bool}
    (ended : writeConfig setting path s = (s', result)) :
    (s.world.Has path ∧ result = .ok false ∧ s'.world = s.world) ∨
      ¬ s.world.Has path ∧
        ((∃ e, result = .error e ∧
            (s'.world = s.world ∨ Leaves setting.disk s.world s'.world path e)) ∨
          result = .ok true ∧ s.world.GainsFile s'.world path defaultBytes) := by
  rcases writeFirst_cases setting.disk s.world path with ⟨there, kept⟩ | ⟨absent, outcome⟩
  · obtain ⟨s₁, same, world⟩ := writeConfig_of_ok setting kept
    cases same.symm.trans ended
    exact Or.inl ⟨there, rfl, world⟩
  · refine Or.inr ⟨absent, ?_⟩
    generalize written : writeFirst setting.disk path s.world = outcome' at outcome
    cases outcome with
    | refused early barred =>
      cases (writeConfig_of_error setting written).symm.trans ended
      exact Or.inl ⟨_, rfl, Or.inl rfl⟩
    | cut limited lacking gains =>
      cases (writeConfig_of_error setting written).symm.trans ended
      exact Or.inl ⟨_, rfl, Or.inr (.cut limited lacking gains)⟩
    | unset fits fails gains =>
      cases (writeConfig_of_error setting written).symm.trans ended
      exact Or.inl ⟨_, rfl, Or.inr (.unset fails gains)⟩
    | written fits sets gains =>
      obtain ⟨s₁, same, rfl⟩ := writeConfig_of_ok setting written
      cases same.symm.trans ended
      exact Or.inr ⟨rfl, gains⟩

end

/-! ## Every run -/

/-- The working directory is the root, and there is nothing in it. -/
def emptyWorld : World := ⟨.empty, [], [], ""⟩

lemma writeFirst_empty : ∃ w', writeFirst {} localPath emptyWorld = .ok true w' ∧
    emptyWorld.GainsFile w' localPath defaultBytes := writeFirst_of_absent rfl rfl rfl rfl

end StyleGate.Program
