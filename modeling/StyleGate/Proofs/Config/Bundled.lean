import StyleGate.Proofs.Config.FirstFile
import StyleGate.Proofs.Config.Loading

/-!
# The bundled configuration

There is nothing to complain about in the bundled configuration, so with any reader that makes of it
the mapping it spells it can be loaded. A world that holds it under the usual name in the working
directory is configured as if there were no configuration file anywhere, whatever the reader.
-/

namespace StyleGate.Config

open Yaml (Graph)

/-! ## What it holds -/

def bundledGraph : Graph where
  nodes := #[⟨.map, .mapping [(1, 2), (3, 4), (5, 6), (7, 8)], ⟨3, 0⟩⟩,
    ⟨.str, .scalar "version".toList, ⟨3, 0⟩⟩, ⟨.str, .scalar "1.0".toList, ⟨3, 9⟩⟩,
    ⟨.str, .scalar "color".toList, ⟨6, 0⟩⟩, ⟨.bool, .scalar "true".toList, ⟨6, 7⟩⟩,
    ⟨.str, .scalar "log_level".toList, ⟨9, 0⟩⟩, ⟨.str, .scalar "INFO".toList, ⟨9, 11⟩⟩,
    ⟨.str, .scalar "rules".toList, ⟨11, 0⟩⟩, ⟨.map, .mapping [(9, 10)], ⟨13, 2⟩⟩,
    ⟨.str, .scalar "disabled".toList, ⟨13, 2⟩⟩, ⟨.seq, .sequence [], ⟨13, 12⟩⟩]
  root := 0

/-- The cells of the scalars, with `outer` for the mapping, `inner` for the rules in it, and `key`
and `disabled` for the entry of those. -/
def bundledCells (outer inner : List (Scalar × Nat)) (key disabled : Option (Layer Nat)) :
    Array (Option (Layer Nat)) :=
  #[some (.map outer), some (.scalar (.text "version")), some (.scalar (.text "1.0")),
    some (.scalar (.text "color")), some (.scalar (.bool true)), some (.scalar (.text "log_level")),
    some (.scalar (.text "INFO")), some (.scalar (.text "rules")), some (.map inner), key, disabled]

def outerEntries : List (Scalar × Nat) :=
  [(.text "version", 2), (.text "color", 4), (.text "log_level", 6), (.text "rules", 8)]

def innerEntries : List (Scalar × Nat) := [(.text "disabled", 10)]

/-- Every cell, once all collections are filled. -/
def filledCells : Array (Option (Layer Nat)) :=
  bundledCells outerEntries innerEntries (some (.scalar (.text "disabled"))) (some (.list []))

def bundledValue : Value := ⟨filledCells.map fun cell => cell.getD (.scalar .null), 0⟩

section

open Yaml Build

lemma makeEntries_outer :
    makeEntries 0 ⟨bundledGraph.nodes, (Array.replicate 11 none).set 0 (some (.map [])), []⟩ =
      .ok (outerEntries, ⟨bundledGraph.nodes, bundledCells [] [] none none, [8]⟩) :=
  makeEntries_of_makes [("version", 2), ("color", 4), ("log_level", 6), ("rules", 8)] rfl rfl rfl
    (.cons rfl rfl (.cons rfl rfl (.cons rfl rfl (.cons rfl rfl (.nil _))))) (by decide)

lemma makeEntries_inner :
    makeEntries 8 ⟨bundledGraph.nodes, bundledCells outerEntries [] none none, []⟩ =
      .ok (innerEntries, ⟨bundledGraph.nodes, bundledCells outerEntries []
        (some (.scalar (.text "disabled"))) (some (.list [])), [10]⟩) :=
  makeEntries_of_makes [("disabled", 10)] rfl rfl rfl (.cons rfl rfl (.nil _)) (by decide)

/-- The mapping is filled in the first round, the rules in the second and their list in the
third. -/
lemma value_bundledGraph : bundledGraph.value = .ok bundledValue := by
  have opened : make 0 ⟨bundledGraph.nodes, Array.replicate 11 none, []⟩ =
      .ok ((), ⟨bundledGraph.nodes, (Array.replicate 11 none).set 0 (some (.map [])), [0]⟩) := rfl
  have filled : fillAll 12 ⟨bundledGraph.nodes, (Array.replicate 11 none).set 0 (some (.map [])),
      [0]⟩ = .ok ((), ⟨bundledGraph.nodes, filledCells, []⟩) := by
    rw [fillAll_single 11 rfl (fill_map rfl makeEntries_outer)]
    have second : fill 8 ⟨bundledGraph.nodes, bundledCells outerEntries [] none none, []⟩ =
        .ok ((), ⟨bundledGraph.nodes, filledCells, [10]⟩) := fill_map rfl makeEntries_inner
    exact (fillAll_single 10 rfl second).trans rfl
  exact Graph.value_of_filled opened filled

end

-- The characters are taken from the literal once; decoding it again in every proof takes long.
set_option maxRecDepth 1500 in
lemma exists_chars : ∃ s : Text, defaultText = String.ofList s ∧ Text.unifyBreaks s = s ∧
    s.all Yaml.isAllowed = true ∧ Graph.ofStream ⟨s, .clean⟩ = .ok (some bundledGraph) :=
  ⟨_, rfl, by decide +kernel, by decide +kernel, by decide +kernel⟩

/-- The reader makes of the bundled configuration the mapping that it spells. -/
def ReadsBundled (support : Support) : Prop :=
  support.yaml (.ofBytes defaultBytes) = .ok (some bundledValue)

theorem readsBundled_usual : ReadsBundled .usual := by
  obtain ⟨s, text, breaks, allowed, graph⟩ := exists_chars
  have bytes : defaultBytes = s.utf8Encode := by
    rw [defaultBytes, text]
    exact String.toByteArray_ofList
  change Yaml.value? (Yaml.Stream.ofBytes defaultBytes).screen = _
  rw [bytes, Yaml.Stream.ofBytes_utf8Encode, breaks, Yaml.Stream.screen_eq_self allowed,
    Yaml.value?, graph]
  simp only [bind, Except.bind, value_bundledGraph]
  rfl

lemma size_defaultBytes : defaultBytes.size = 265 := by decide +kernel

def bundledSettings : Settings := outerEntries.map fun (key, n) => (key, ⟨bundledValue.cells, n⟩)

lemma complaints_bundledSettings : complaints bundledSettings = [] := by
  have none : (complaints bundledSettings).isEmpty = true := by decide +kernel
  exact List.isEmpty_iff.mp none

variable {support : Support} {w : World}

/-- The bundled configuration is in order, whatever it is called. -/
theorem read_defaultBytes (reads : ReadsBundled support) (label : String) :
    read support label defaultBytes = .ok bundledSettings := by
  have fits : ¬ defaultBytes.size > sizeLimit := by
    rw [size_defaultBytes]
    decide
  have present : bundledValue.truthy = true := by decide +kernel
  have mapping : bundledValue.layer = .map bundledSettings := by decide +kernel
  have checked : check support.depth label bundledSettings = .ok bundledSettings := by
    rw [check, complaints_bundledSettings]
    rfl
  rw [read, if_neg fits, show support.yaml _ = _ from reads]
  simp only [settings, Option.filter_some, present, if_true, Option.map_some, mapping, checked]

/-! ## Where it is found -/

/-- The working directory is searched first. -/
lemma reached_localPath (w : World) : Reached w localPath :=
  ⟨[], _, rfl, fun _ mem => absurd mem List.not_mem_nil⟩

section

variable (label label' : String)

lemma toOption_check (depth : Nat) (fields : Fields) :
    (check depth label fields).toOption = (check depth label' fields).toOption := by
  rw [check, check]
  cases (complaints fields).mapM (Complaint.message depth) with
  | error e => rfl
  | ok messages => cases messages <;> rfl

lemma toOption_settings (depth : Nat) (value : Option Value) :
    (settings depth label value).toOption = (settings depth label' value).toOption := by
  rw [settings, settings]
  cases (value.filter Value.truthy).map Value.layer with
  | none => exact toOption_check label label' depth []
  | some layer =>
    cases layer with
    | map fields => exact toOption_check label label' depth fields
    | scalar _ | list _ | set _ | pair _ _ => rfl

/-- What a content is called does not enter the settings. -/
lemma toOption_read (support : Support) (content : ByteArray) :
    (read support label content).toOption = (read support label' content).toOption := by
  rw [read, read]
  split
  · rfl
  · cases support.yaml (.ofBytes content) with
    | ok value => exact toOption_settings label label' support.depth value
    | error f => cases f <;> rfl

end

lemma load_of_holdsFile (support : Support) (holds : w.HoldsFile localPath defaultBytes) :
    ∃ label, load support w none = read support label defaultBytes :=
  load_of_reads (.found (reached_localPath w) holds)

theorem toOption_load (support : Support) (holds : w.HoldsFile localPath defaultBytes) :
    (load support w none).toOption = (loadFrom support w .bundled).toOption := by
  obtain ⟨label, same⟩ := load_of_holdsFile support holds
  rw [same]
  exact toOption_read label _ support defaultBytes

theorem load_of_readsBundled (reads : ReadsBundled support)
    (holds : w.HoldsFile localPath defaultBytes) : load support w none = .ok bundledSettings := by
  obtain ⟨label, same⟩ := load_of_holdsFile support holds
  rw [same, read_defaultBytes reads]

end StyleGate.Config
