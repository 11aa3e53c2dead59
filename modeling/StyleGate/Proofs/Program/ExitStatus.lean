import StyleGate.Program
import StyleGate.Proofs.Analysis.Selection
import StyleGate.Proofs.Config.FirstFile
import StyleGate.Proofs.Config.Loading
import StyleGate.Proofs.Config.Safety
import StyleGate.Proofs.Log.Delivery
import StyleGate.Proofs.SourceFile.Loading

/-!
# The exit status of a run

A run that gets as far as its configuration and its file exits with a status that these two decide:
two if one of them is refused, zero if the configuration was all that was asked about, and otherwise
one or zero as the full report has a violation of a rule that is not disabled, or none. What is said
on the way, in which colour and from which level on, does not enter it. A run that has to ask for
its path and cannot read the answer has no exit status.
-/

namespace StyleGate.Program

open CommandLine Config

variable {setting : Setting} {support : Support} {w : World} {args : List Text}
  {input : StandardInput} {o : Options} {settings : Settings}

/-! ## What a run keeps -/

@[simp] lemma Session.say_world (s : Session) (setting : Setting) (channel : String) (level : Int)
    (message : String) : (s.say setting channel level message).world = s.world := by
  rw [Session.say]
  split
  · rfl
  · rfl

lemma Session.configure_of_resolve (setting : Setting) {asked : Value} {level : Int} (s : Session)
    (resolved : Log.resolve asked setting.environment.level = .ok level) :
    ∃ next, s.configure setting asked = .ok next ∧ next.world = s.world := by
  obtain ⟨log, succeeds⟩ : ∃ log, Log.configure setting.environment asked s.log = .ok log :=
    ⟨_, Log.configure_eq_ok_iff.mpr ⟨level, resolved, rfl⟩⟩
  exact ⟨{ s with log := log }, by rw [Session.configure, succeeds], rfl⟩

/-! ## The level of a valid configuration -/

/-- A valid configuration asks for a level by a name that has one, or leaves it to the
environment. -/
lemma exists_level_of_valid (valid : complaints settings = []) {named : Option String}
    (started : ∃ level, Log.resolve .null named = .ok level) :
    ∃ level, Log.resolve (askedLevel settings) named = .ok level := by
  cases found : field? settings "log_level" with
  | none =>
    rw [askedLevel, found]
    exact started
  | some v =>
    obtain ⟨s, name, level, -, -, -, resolved⟩ := resolve_of_valid valid found
    rw [askedLevel, found]
    exact ⟨level, resolved named⟩

/-! ## The decision -/

/-- The path to analyze: the one that is given, else the answer to the question. -/
def chosenPath (o : Options) (input : StandardInput) : Except InputFault Text :=
  match o.path with
  | some path => .ok path
  | none => answer input

/-- A run gets to its path, with these settings. -/
structure Reaches (support : Support) (w : World) (o : Options) (settings : Settings) : Prop where
  loaded : load support w (configPath o) = .ok settings
  validate : o.validate = false
  showRules : o.showRules = false

/-- A run gets to its path and cannot read it. -/
structure Unanswered (support : Support) (w : World) (o : Options) (input : StandardInput)
    (f : InputFault) : Prop where
  reaches : ∃ settings, Reaches support w o settings
  failed : chosenPath o input = .error f

/-- Two configurations differ at most in what does not decide a run: both are refused, or both list
the same rules as disabled. -/
inductive Alike : Except LoadError Settings → Except LoadError Settings → Prop
  | rejected {label label' : String} {reason reason' : Rejection} :
      Alike (.error (.rejected label reason)) (.error (.rejected label' reason'))
  | loaded {settings settings' : Settings}
      (listed : disabledNumbers settings' = disabledNumbers settings) :
      Alike (.ok settings) (.ok settings')

/-- The exit status, by what the configuration and the file turn out to be. -/
inductive ExitsWith (support : Support) (w : World) (o : Options) (input : StandardInput) :
    Nat → Prop
  | rejected {label : String} {reason : Rejection}
      (refused : load support w (configPath o) = .error (.rejected label reason)) :
      ExitsWith support w o input 2
  | told {settings : Settings} (loaded : load support w (configPath o) = .ok settings)
      (asked : o.validate = true ∨ o.showRules = true) : ExitsWith support w o input 0
  | pathless {settings : Settings} (reaches : Reaches support w o settings)
      (empty : chosenPath o input = .ok []) : ExitsWith support w o input 2
  | unread {settings : Settings} {path : Text} {e : SourceFile.Error}
      (reaches : Reaches support w o settings) (chosen : chosenPath o input = .ok path)
      (given : path ≠ []) (failed : SourceFile.load w (.ofText path) = .error e)
      (declared : e.Declared) : ExitsWith support w o input 2
  | faulted {settings : Settings} {path : Text} {d : Document}
      (reaches : Reaches support w o settings) (chosen : chosenPath o input = .ok path)
      (given : path ≠ []) (read : SourceFile.load w (.ofText path) = .ok d)
      (fault : ∃ v ∈ (analyze d).violations, v.rule ∉ disabledNumbers settings) :
      ExitsWith support w o input 1
  | passed {settings : Settings} {path : Text} {d : Document}
      (reaches : Reaches support w o settings) (chosen : chosenPath o input = .ok path)
      (given : path ≠ []) (read : SourceFile.load w (.ofText path) = .ok d)
      (faultless : ∀ v ∈ (analyze d).violations, v.rule ∈ disabledNumbers settings) :
      ExitsWith support w o input 0

/-! ## The file -/

lemma analyzeFile_nil (colour : Bool) (s : Session) :
    (analyzeFile setting settings colour [] s).2 = .ok 2 := rfl

lemma analyzeFile_unread {colour : Bool} {path : Text} {s : Session} {e : SourceFile.Error}
    (given : path ≠ []) (failed : SourceFile.load s.world (.ofText path) = .error e)
    (declared : e.Declared) : (analyzeFile setting settings colour path s).2 = .ok 2 := by
  have nonempty : path.isEmpty = false := List.isEmpty_eq_false_iff.mpr given
  cases e with
  | unknowable q => exact False.elim declared
  | notFound _ | tooLarge _ _ | undecodable _ _ =>
    simp only [analyzeFile, nonempty, Bool.false_eq_true, if_false, failed]
    rfl

lemma analyzeFile_read {colour : Bool} {path : Text} {s : Session} {d : Document}
    (valid : complaints settings = []) (given : path ≠ [])
    (read : SourceFile.load s.world (.ofText path) = .ok d) :
    (analyzeFile setting settings colour path s).2 =
      .ok (analyzeWith (Rule.all.filter fun r => (r.number : Int) ∉ disabledNumbers settings)
        d).exitStatus := by
  have nonempty : path.isEmpty = false := List.isEmpty_eq_false_iff.mpr given
  simp only [analyzeFile, nonempty, Bool.false_eq_true, if_false, read,
    enabledRules_of_valid valid]
  rfl

lemma exitStatus_eq (numbers : List Int) (d : Document) :
    (analyzeWith (Rule.all.filter fun r => (r.number : Int) ∉ numbers) d).exitStatus =
      if ∃ v ∈ (analyze d).violations, v.rule ∉ numbers then 1 else 0 := by
  have kept := violations_analyzeWith_filter (fun n => n ∉ numbers) d
  rw [Report.exitStatus, Report.passed, kept]
  by_cases fault : ∃ v ∈ (analyze d).violations, v.rule ∉ numbers
  · rw [if_pos fault, if_neg]
    simpa using fault
  · rw [if_neg fault, if_pos]
    simpa using fault

/-! ## The whole run -/

lemma withConfig_rejected (setting : Setting) {s : Session} {label : String} {reason : Rejection}
    (refused : load setting.support s.world (configPath o) = .error (.rejected label reason)) :
    ∃ s', withConfig setting o s = .finished s' (.ok 2) := by
  rw [load] at refused
  cases chosen : choose s.world (configPath o) with
  | error f =>
    rw [chosen] at refused
    cases refused
  | ok source =>
    rw [chosen] at refused
    have refused : loadFrom setting.support s.world source = .error (.rejected label reason) :=
      refused
    refine ⟨s.say setting cliChannel Log.error ("Config error: " ++ reason.message label), ?_⟩
    rw [withConfig, chosen]
    simp only [refused]
    rfl

lemma withConfig_loaded {s : Session} {level : Int}
    (loaded : load setting.support s.world (configPath o) = .ok settings)
    (resolved : Log.resolve (askedLevel settings) setting.environment.level = .ok level) :
    ∃ s', s'.world = s.world ∧ withConfig setting o s = obey setting o settings s' := by
  rw [load] at loaded
  cases chosen : choose s.world (configPath o) with
  | error f =>
    rw [chosen] at loaded
    cases loaded
  | ok source =>
    rw [chosen] at loaded
    have loaded : loadFrom setting.support s.world source = .ok settings := loaded
    obtain ⟨next, configured, world⟩ := Session.configure_of_resolve setting (s.say setting
      configChannel Log.debug ("Loaded config from " ++ source.label s.world)) resolved
    refine ⟨next, by rw [world, Session.say_world], ?_⟩
    rw [withConfig, chosen]
    simp only [loaded, configured]

lemma conclude_told (asked : o.validate = true ∨ o.showRules = true)
    (valid : complaints settings = []) (s : Session) :
    (conclude setting input (obey setting o settings s)).2 = .ok 0 := by
  by_cases validate : o.validate = true
  · simp only [obey, validate, if_true]
    rfl
  · have shows : o.showRules = true := asked.resolve_left validate
    simp only [obey, validate, shows, enabledRules_of_valid valid]
    rfl

lemma conclude_unanswered {f : InputFault} (settings : Settings) (s : Session)
    (validate : o.validate = false) (showRules : o.showRules = false)
    (failed : chosenPath o input = .error f) :
    (conclude setting input (obey setting o settings s)).2 = .error (.input f) := by
  simp only [obey, validate, showRules, Bool.false_eq_true, if_false]
  rw [chosenPath] at failed
  cases path : o.path with
  | some path =>
    rw [path] at failed
    cases failed
  | none =>
    rw [path] at failed
    have failed : answer input = .error f := failed
    simp only [conclude, failed]

lemma conclude_reaches {path : Text} (settings : Settings) (s : Session)
    (validate : o.validate = false) (showRules : o.showRules = false)
    (chosen : chosenPath o input = .ok path) :
    ∃ s' colour, s'.world = s.world ∧ (conclude setting input (obey setting o settings s)).2 =
      (analyzeFile setting settings colour path s').2 := by
  simp only [obey, validate, showRules, Bool.false_eq_true, if_false]
  rw [chosenPath] at chosen
  cases given : o.path with
  | some path =>
    rw [given] at chosen
    cases chosen
    exact ⟨s, _, rfl, rfl⟩
  | none =>
    rw [given] at chosen
    have chosen : answer input = .ok path := chosen
    simp only [conclude, chosen]
    refine ⟨_, _, ?_, rfl⟩
    split
    · rfl
    · rfl

lemma run_of_parse (w : World) (input : StandardInput) {level : Int} (parsed : parse args = .run o)
    (noInit : o.init = false)
    (started : Log.resolve .null setting.environment.level = .ok level) :
    ∃ s, s.world = w ∧
      run setting w args input = conclude setting input (withConfig setting o s) := by
  obtain ⟨s, configured, world⟩ :=
    Session.configure_of_resolve setting ({ world := w } : Session) started
  refine ⟨s, world, ?_⟩
  rw [run, parsed]
  simp only [prepare, configured, noInit, Bool.false_eq_true, if_false]

/-- A run that is asked for a first configuration file does nothing else. -/
lemma run_init (setting : Setting) (input : StandardInput) {level : Int} {w' : World}
    (parsed : parse args = .run o) (init : o.init = true)
    (started : Log.resolve .null setting.environment.level = .ok level)
    (created : writeFirst setting.disk localPath w = .ok true w') :
    (run setting w args input).2 = .ok 0 ∧ (run setting w args input).1.world = w' := by
  obtain ⟨s, configured, rfl⟩ :=
    Session.configure_of_resolve setting ({ world := w } : Session) started
  rw [run, parsed]
  simp only [prepare, configured, init, if_true, writeConfig]
  change writeFirst setting.disk ⟨0, [fileName]⟩ s.world = _ at created
  simp only [created, conclude]
  exact ⟨rfl, Session.say_world _ _ _ _ _⟩

/-- What is asked of a run: logging can be set up from the environment, and the configuration and,
if it gets so far, the file are read or refused as they should. -/
structure Regular (setting : Setting) (w : World) (o : Options) (input : StandardInput) :
    Prop where
  started : ∃ log, Log.configure setting.environment .null {} = .ok log
  config : ∀ e, load setting.support w (configPath o) = .error e →
    ∃ label reason, e = .rejected label reason
  source : ∀ settings path, Reaches setting.support w o settings → chosenPath o input = .ok path →
    path ≠ [] → SourceFile.Kept (SourceFile.load w (.ofText path))

lemma Regular.exists_level (regular : Regular setting w o input) :
    ∃ level, Log.resolve .null setting.environment.level = .ok level := by
  obtain ⟨log, configured⟩ := regular.started
  obtain ⟨level, resolved, -⟩ := Log.configure_eq_ok_iff.mp configured
  exact ⟨level, resolved⟩

section

variable (regular : Regular setting w o input) (parsed : parse args = .run o)
  (noInit : o.init = false)

include regular parsed noInit

lemma run_rejected {label : String} {reason : Rejection}
    (refused : load setting.support w (configPath o) = .error (.rejected label reason)) :
    (run setting w args input).2 = .ok 2 := by
  obtain ⟨level, resolved⟩ := regular.exists_level
  obtain ⟨s, rfl, ran⟩ := run_of_parse w input parsed noInit resolved
  obtain ⟨s', finished⟩ := withConfig_rejected setting refused
  rw [ran, finished]
  rfl

lemma run_loaded (loaded : load setting.support w (configPath o) = .ok settings) :
    ∃ s, s.world = w ∧
      (run setting w args input).2 = (conclude setting input (obey setting o settings s)).2 := by
  obtain ⟨level, resolved⟩ := regular.exists_level
  obtain ⟨s, rfl, ran⟩ := run_of_parse w input parsed noInit resolved
  obtain ⟨level', asked⟩ := exists_level_of_valid (complaints_of_load loaded) ⟨level, resolved⟩
  obtain ⟨s', world, obeyed⟩ := withConfig_loaded loaded asked
  exact ⟨s', world, by rw [ran, obeyed]⟩

lemma run_reaches {path : Text} (reaches : Reaches setting.support w o settings)
    (chosen : chosenPath o input = .ok path) :
    ∃ s colour, s.world = w ∧ (run setting w args input).2 =
      (analyzeFile setting settings colour path s).2 := by
  obtain ⟨s, rfl, ran⟩ := run_loaded regular parsed noInit reaches.loaded
  obtain ⟨s', colour, world, concluded⟩ :=
    conclude_reaches settings s reaches.validate reaches.showRules chosen
  exact ⟨s', colour, world, ran.trans concluded⟩

/-- Every way to an exit status is taken by the run. -/
theorem run_of_exitsWith {n : Nat} (exits : ExitsWith setting.support w o input n) :
    (run setting w args input).2 = .ok n := by
  cases exits with
  | rejected refused => exact run_rejected regular parsed noInit refused
  | told loaded asked =>
    obtain ⟨s, -, ran⟩ := run_loaded regular parsed noInit loaded
    rw [ran]
    exact conclude_told asked (complaints_of_load loaded) s
  | pathless reaches empty =>
    obtain ⟨s, colour, -, ran⟩ := run_reaches regular parsed noInit reaches empty
    rw [ran]
    exact analyzeFile_nil colour s
  | unread reaches chosen given failed declared =>
    obtain ⟨s, colour, rfl, ran⟩ := run_reaches regular parsed noInit reaches chosen
    rw [ran]
    exact analyzeFile_unread given failed declared
  | faulted reaches chosen given read fault =>
    obtain ⟨s, colour, rfl, ran⟩ := run_reaches regular parsed noInit reaches chosen
    rw [ran, analyzeFile_read (complaints_of_load reaches.loaded) given read, exitStatus_eq,
      if_pos fault]
  | passed reaches chosen given read faultless =>
    obtain ⟨s, colour, rfl, ran⟩ := run_reaches regular parsed noInit reaches chosen
    rw [ran, analyzeFile_read (complaints_of_load reaches.loaded) given read, exitStatus_eq,
      if_neg]
    rintro ⟨v, mem, fault⟩
    exact fault (faultless v mem)

theorem run_of_unanswered {f : InputFault} (unanswered : Unanswered setting.support w o input f) :
    (run setting w args input).2 = .error (.input f) := by
  obtain ⟨settings, reaches⟩ := unanswered.reaches
  obtain ⟨s, -, ran⟩ := run_loaded regular parsed noInit reaches.loaded
  rw [ran]
  exact conclude_unanswered settings s reaches.validate reaches.showRules unanswered.failed

end

/-- One of the ways to an exit status is open to every regular run, unless it cannot read its
path. -/
theorem Regular.exitsWith_or_unanswered (regular : Regular setting w o input) :
    (∃ n, ExitsWith setting.support w o input n) ∨
      ∃ f, Unanswered setting.support w o input f := by
  cases outcome : load setting.support w (configPath o) with
  | error e =>
    obtain ⟨label, reason, rfl⟩ := regular.config e outcome
    exact Or.inl ⟨2, .rejected outcome⟩
  | ok settings =>
    by_cases asked : o.validate = true ∨ o.showRules = true
    · exact Or.inl ⟨0, .told outcome asked⟩
    · rw [not_or, Bool.not_eq_true, Bool.not_eq_true] at asked
      have reaches : Reaches setting.support w o settings := ⟨outcome, asked.1, asked.2⟩
      cases chosen : chosenPath o input with
      | error f => exact Or.inr ⟨f, ⟨settings, reaches⟩, chosen⟩
      | ok path =>
        left
        by_cases empty : path = []
        · exact ⟨2, .pathless reaches (empty ▸ chosen)⟩
        · rcases regular.source settings path reaches chosen empty with
            ⟨d, read⟩ | ⟨e, declared, failed⟩
          · by_cases fault : ∃ v ∈ (analyze d).violations, v.rule ∉ disabledNumbers settings
            · exact ⟨1, .faulted reaches chosen empty read fault⟩
            · refine ⟨0, .passed reaches chosen empty read fun v mem => ?_⟩
              by_contra listed
              exact fault ⟨v, mem, listed⟩
          · exact ⟨2, .unread reaches chosen empty failed declared⟩

/-! ## What the exit status does not depend on -/

section

variable {first second : Except LoadError Settings} {support' : Support} {w' : World}
  {o' : Options}

lemma Alike.error (alike : Alike first second) {label : String} {reason : Rejection}
    (refused : first = .error (.rejected label reason)) :
    ∃ label' reason', second = .error (.rejected label' reason') := by
  cases alike with
  | rejected => exact ⟨_, _, rfl⟩
  | loaded _ => cases refused

lemma Alike.ok (alike : Alike first second) (loaded : first = .ok settings) :
    ∃ settings', second = .ok settings' ∧ disabledNumbers settings' = disabledNumbers settings := by
  cases alike with
  | rejected => cases loaded
  | loaded listed =>
    cases loaded
    exact ⟨_, rfl, listed⟩

/-- Two requests are decided by the same facts. -/
structure SameDecision (support : Support) (w : World) (o : Options) (support' : Support)
    (w' : World) (o' : Options) (input : StandardInput) : Prop where
  config : Alike (load support w (configPath o)) (load support' w' (configPath o'))
  validate : o'.validate = o.validate
  showRules : o'.showRules = o.showRules
  path : o'.path = o.path
  source : ∀ path, chosenPath o input = .ok path →
    SourceFile.load w' (.ofText path) = SourceFile.load w (.ofText path)

variable (same : SameDecision support w o support' w' o' input)

include same

lemma SameDecision.chosenPath_eq : chosenPath o' input = chosenPath o input := by
  rw [chosenPath, same.path, chosenPath]

lemma SameDecision.reaches (reaches : Reaches support w o settings) :
    ∃ settings', Reaches support' w' o' settings' ∧
      disabledNumbers settings' = disabledNumbers settings := by
  obtain ⟨settings', loaded, listed⟩ := same.config.ok reaches.loaded
  exact ⟨settings', ⟨loaded, same.validate.trans reaches.validate,
    same.showRules.trans reaches.showRules⟩, listed⟩

/-- The ways to an exit status are the same for requests that are decided by the same facts. -/
theorem SameDecision.exitsWith {n : Nat} (exits : ExitsWith support w o input n) :
    ExitsWith support' w' o' input n := by
  have path := same.chosenPath_eq
  cases exits with
  | rejected refused =>
    obtain ⟨label', reason', refused'⟩ := same.config.error refused
    exact .rejected refused'
  | told loaded asked =>
    obtain ⟨settings', loaded', -⟩ := same.config.ok loaded
    rw [← same.validate, ← same.showRules] at asked
    exact .told loaded' asked
  | pathless reaches empty =>
    obtain ⟨settings', reaches', -⟩ := same.reaches reaches
    exact .pathless reaches' (path.trans empty)
  | unread reaches chosen given failed declared =>
    obtain ⟨settings', reaches', -⟩ := same.reaches reaches
    have failed' := (same.source _ chosen).trans failed
    exact .unread reaches' (path.trans chosen) given failed' declared
  | faulted reaches chosen given read fault =>
    obtain ⟨settings', reaches', listed⟩ := same.reaches reaches
    rw [← listed] at fault
    exact .faulted reaches' (path.trans chosen) given ((same.source _ chosen).trans read) fault
  | passed reaches chosen given read faultless =>
    obtain ⟨settings', reaches', listed⟩ := same.reaches reaches
    rw [← listed] at faultless
    exact .passed reaches' (path.trans chosen) given ((same.source _ chosen).trans read) faultless

theorem SameDecision.unanswered {f : InputFault} (unanswered : Unanswered support w o input f) :
    Unanswered support' w' o' input f := by
  obtain ⟨settings, reaches⟩ := unanswered.reaches
  obtain ⟨settings', reaches', -⟩ := same.reaches reaches
  exact ⟨⟨settings', reaches'⟩, same.chosenPath_eq.trans unanswered.failed⟩

end

/-! ## A file that is its own configuration -/

/-- A configuration with nothing but a version. -/
def bareConfig : String := "version: 1\n"

def bareGraph : Yaml.Graph where
  nodes := #[⟨.map, .mapping [(1, 2)], ⟨0, 0⟩⟩, ⟨.str, .scalar "version".toList, ⟨0, 0⟩⟩,
    ⟨.int, .scalar ['1'], ⟨0, 9⟩⟩]
  root := 0

def bareValue : Value :=
  ⟨#[.map [(.text "version", 2)], .scalar (.text "version"), .scalar (.int 1)], 0⟩

-- The places of keys are found by hashing, which does not reduce, so lemmas fill the mapping.
lemma value_bareGraph : bareGraph.value = .ok bareValue := by
  have opened : Yaml.Build.make 0 ⟨bareGraph.nodes, #[none, none, none], []⟩ =
      .ok ((), ⟨bareGraph.nodes, #[some (.map []), none, none], [0]⟩) := rfl
  have own : Yaml.Build.makeEntries 0 ⟨bareGraph.nodes, #[some (.map []), none, none], []⟩ =
      .ok ([(.text "version", 2)], ⟨bareGraph.nodes, #[some (.map []),
        some (.scalar (.text "version")), some (.scalar (.int 1))], []⟩) :=
    Yaml.Build.makeEntries_of_makes [("version", 2)] rfl rfl rfl (.cons rfl rfl (.nil _))
      (by decide)
  have filled : Yaml.Build.fillAll 4 ⟨bareGraph.nodes, #[some (.map []), none, none], [0]⟩ =
      .ok ((), ⟨bareGraph.nodes, #[some (.map [(.text "version", 2)]),
        some (.scalar (.text "version")), some (.scalar (.int 1))], []⟩) := by
    rw [Yaml.Build.fillAll_single 3 rfl (Yaml.Build.fill_map rfl own)]
    rfl
  rw [Yaml.Graph.value_of_filled opened filled]
  simp [bareGraph, bareValue]

lemma reads_bareConfig :
    Support.usual.yaml (.ofBytes bareConfig.toByteArray) = .ok (some bareValue) := by
  have allowed : bareConfig.toList.all Yaml.isAllowed = true := by decide +kernel
  have breaks : Text.unifyBreaks bareConfig.toList = bareConfig.toList := by decide +kernel
  have graph : Yaml.Graph.ofStream ⟨bareConfig.toList, .clean⟩ = .ok (some bareGraph) := by
    decide +kernel
  change Yaml.value? (Yaml.Stream.ofBytes bareConfig.toByteArray).screen = _
  rw [← String.utf8Encode_toList, Yaml.Stream.ofBytes_utf8Encode, breaks,
    Yaml.Stream.screen_eq_self allowed, Yaml.value?, graph]
  simp only [bind, Except.bind, value_bareGraph]
  rfl

def bareWorld : World := World.oneFile "c.yaml" bareConfig.toByteArray

lemma holdsFile_bareWorld :
    bareWorld.HoldsFile (.ofText "c.yaml".toList) bareConfig.toByteArray := by
  have path : Path.ofText "c.yaml".toList = ⟨0, ["c.yaml"]⟩ := by decide +kernel
  rw [path]
  exact World.holdsFile_oneFile _ (by decide) (by decide) (by decide)

lemma load_bareWorld : ∃ settings,
    load .usual bareWorld (some (.ofText "c.yaml".toList)) = .ok settings ∧
      disabledNumbers settings = [] := by
  obtain ⟨label, same⟩ := load_of_reads (.given holdsFile_bareWorld)
  rw [same, Config.read, if_neg (by decide), reads_bareConfig]
  exact ⟨_, rfl, rfl⟩

lemma source_bareWorld : SourceFile.load bareWorld (.ofText "c.yaml".toList) =
    .ok (Document.ofText bareConfig.toList) :=
  SourceFile.load_of_decoded holdsFile_bareWorld (by decide)
    (Utf8.decodeMarked_text (by decide) (Or.inl String.utf8Encode_toList.symm))

/-- A request with the file as its configuration. -/
def bareOptions (path : Option Text) (noColour init : Bool) : Options where
  path := path
  config := some "c.yaml".toList
  noColour := noColour
  init := init

lemma regular_bareWorld (environment : Log.Environment) {path : Option Text}
    (noColour init : Bool) (started : ∃ log, Log.configure environment .null {} = .ok log)
    (own : ∀ chosen, chosenPath (bareOptions path noColour init) input = .ok chosen →
      chosen ≠ [] → chosen = "c.yaml".toList) :
    Regular { environment } bareWorld (bareOptions path noColour init) input := by
  refine ⟨started, ?_, fun settings chosen _ path given => ?_⟩
  · intro e failed
    obtain ⟨settings, loaded, -⟩ := load_bareWorld
    cases loaded.symm.trans failed
  · rw [own chosen path given]
    exact Or.inl ⟨_, source_bareWorld⟩

/-! ## The exit status -/

/-- Nothing to read, so that the answer is empty. -/
def noInput : StandardInput := .stream [] false

/-- One byte that starts no character. -/
def strayInput : StandardInput := .stream [[0xff].toByteArray] false

end StyleGate.Program
