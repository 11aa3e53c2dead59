import StyleGate.Proofs.Yaml.Stream
import StyleGate.Proofs.Yaml.Tokens
import StyleGate.Yaml.Value

/-!
# A value is read from the whole stream

Putting nodes together keeps to the ending of the stream like the makers of tokens do, and it gives
a document only after it was told of the end. Making values looks at nodes only. So a stream has a
value only if it ends cleanly, and it is given up for bytes that cannot be decoded only if it ends
in some. This is all that is asked of a reader of YAML elsewhere.
-/

namespace StyleGate.Yaml

namespace Assemble

variable {e : Ending} {α : Type}

/-- The computation keeps to a stream with this ending. -/
abbrev Safe (e : Ending) (m : Assemble α) : Prop :=
  Keeps (fun a : Assembly => a.tokens.Sound e) (Fault.Permitted e) m

/-- The computation only returns what has the property, on a stream with this ending. -/
abbrev Tells (e : Ending) (property : α → Prop) (m : Assemble α) : Prop :=
  Returns (fun a : Assembly => a.tokens.Sound e) property m

section

variable {β : Type} {m : Assemble α} {next : α → Assemble β} {property : β → Prop}

lemma Tells.bind {known : α → Prop} [first : Safe e m] (returns : Tells e known m)
    (rest : ∀ a, known a → Tells e property (next a)) : Tells e property (m >>= next) :=
  Returns.bind first returns rest

lemma Tells.after [first : Safe e m] (rest : ∀ a, Tells e property (next a)) :
    Tells e property (m >>= next) := Returns.after first rest

end

/-! ## Tokens -/

instance safe_tokenize {m : Tokenize α} [h : Tokenize.Safe e m] : Safe e (tokenize m) :=
  h.zoom Assembly.tokens (fun a t => { a with tokens := t }) (fun _ sound => sound)
    fun _ _ _ read => read

instance safe_peek : Safe e peek := safe_tokenize

instance safe_next : Safe e next := safe_tokenize

lemma tells_peek : Tells e (fun token => token.kind = .streamEnd → e = .clean) peek :=
  Tokenize.returns_peek.zoom Assembly.tokens (fun a t => { a with tokens := t })
    fun _ sound => sound

instance safe_malformedAt (m : Mark) : Safe e (malformedAt m : Assemble α) := Leads.throw nofun

instance safe_limit : Safe e limit := by
  unfold limit
  infer_instance

instance safe_onlyIf {first : Bool} {test : Assemble Bool} [Safe e test] :
    Safe e (onlyIf first test) := by
  unfold onlyIf
  infer_instance

/-! ## Heads -/

instance safe_anchor? : Safe e anchor? := by
  unfold anchor?
  refine .after fun token => ?_
  cases token.kind <;> infer_instance

instance safe_tag? : Safe e tag? := by
  unfold tag?
  refine .after fun token => ?_
  cases token.kind <;> infer_instance

instance safe_properties : Safe e properties := by
  unfold properties
  refine .after fun anchor => ?_
  cases anchor with
  | some anchor => infer_instance
  | none =>
    refine .after fun tag => ?_
    cases tag <;> infer_instance

instance safe_tagText (name : TagName) (m : Mark) : Safe e (tagText name m) := by
  unfold tagText
  cases name.handle with
  | none => infer_instance
  | some h =>
    refine .after fun a => ?_
    cases a.handles.lookup h <;> infer_instance

instance safe_head (block bare : Bool) : Safe e (head block bare) := by
  unfold head
  refine .after fun p => ?_
  extract_lets rest
  have opens (tag : Option Text) : Safe e (rest tag) := by
    refine .after fun token => ?_
    cases token.kind <;> infer_instance
  clear_value rest
  cases p.tag <;> infer_instance

/-! ## Nodes -/

instance safe_add (node : Node) : Safe e (add node) := ⟨fun _ sound => sound⟩

instance safe_absent (m : Mark) : Safe e (absent m) := safe_add _

instance safe_name (anchor : Option Text) (n : Nat) : Safe e (name anchor n) := by
  unfold name
  cases anchor with
  | none => exact Keeps.pure _
  | some a => exact Leads.modify fun _ sound => sound

instance safe_named? (anchor : Text) : Safe e (named? anchor) := by
  unfold named?
  infer_instance

instance safe_fill (n : Nat) (content : Content) : Safe e (fill n content) :=
  Leads.modify fun _ sound => sound

instance safe_collect {one : Assemble (Option α)} [Safe e one] (fuel : Nat)
    (found : List α) : Safe e (collect one fuel found) := by
  induction fuel generalizing found with
  | zero => exact Keeps.pure _
  | succ fuel ih =>
    unfold collect
    refine .after fun next => ?_
    cases next <;> infer_instance

section

variable {node : Assemble Nat} [Safe e node]

instance safe_nodeUnless (stops : List TokenKind) (before : Token) :
    Safe e (nodeUnless stops before node) := by
  unfold nodeUnless
  infer_instance

instance safe_nodeAfter (kind : TokenKind) (stops : List TokenKind) :
    Safe e (nodeAfter kind stops node) := by
  unfold nodeAfter
  infer_instance

instance safe_endBlock : Safe e (endBlock : Assemble (Option α)) := by
  unfold endBlock
  infer_instance

instance safe_blockItem : Safe e (blockItem node) := by
  unfold blockItem
  infer_instance

instance safe_bareItem : Safe e (bareItem node) := by
  unfold bareItem
  infer_instance

instance safe_blockPair : Safe e (blockPair node) := by
  unfold blockPair
  infer_instance

instance safe_flowMember (close : TokenKind) (started : Bool) {member : Assemble α}
    [Safe e member] : Safe e (flowMember close started member) := by
  unfold flowMember
  infer_instance

instance safe_flowItem {deeper : Assemble Nat} [Safe e deeper] :
    Safe e (flowItem node deeper) := by
  unfold flowItem
  infer_instance

instance safe_flowPair : Safe e (flowPair node) := by
  unfold flowPair
  infer_instance

instance safe_flowMembers (close : TokenKind) {member : Assemble α} [Safe e member] :
    Safe e (flowMembers close member) := by
  unfold flowMembers
  refine .after fun _ => .after fun first => ?_
  cases first <;> infer_instance

instance safe_blockMembers {member : Assemble (Option α)} [Safe e member] :
    Safe e (blockMembers member) := by
  unfold blockMembers
  infer_instance

instance safe_finish (h : Head) {inBlock inPair inFlow inFlowPair : Assemble Nat}
    [Safe e inBlock] [Safe e inPair] [Safe e inFlow] [Safe e inFlowPair] :
    Safe e (finish h inBlock inPair inFlow inFlowPair) := by
  unfold finish
  cases h.opening <;> infer_instance

end

instance safe_node (depth : Nat) (paired block bare : Bool) :
    Safe e (node depth paired block bare) := by
  induction depth generalizing paired block bare with
  | zero => exact Leads.throw nofun
  | succ depth ih =>
    unfold node
    refine .ite (fun _ => inferInstance) fun _ => .after fun token => ?_
    split
    · refine .after fun _ => .after fun found => ?_
      cases found <;> infer_instance
    · refine .after fun h => ?_
      cases h.anchor <;> infer_instance

/-! ## Documents -/

instance safe_directives (fuel : Nat) (versioned : Bool) (seen : List (Text × Text)) :
    Safe e (directives fuel versioned seen) := by
  induction fuel generalizing versioned seen with
  | zero => exact Keeps.pure _
  | succ fuel ih =>
    unfold directives
    refine .after fun token => ?_
    split
    · refine .after fun _ => ?_
      split <;> infer_instance
    · infer_instance

instance safe_setHandles (own : List (Text × Text)) : Safe e (modify fun c =>
    { c with handles := own ++ commonHandles.filter fun (h, _) => (own.lookup h).isNone }) :=
  Leads.modify fun _ sound => sound

instance safe_explicitStart : Safe e explicitStart := by
  unfold explicitStart
  refine .after fun _ => .after fun _ => .after fun token => ?_
  refine .ite (fun _ => Keeps.pure _) fun _ => ?_
  infer_instance

instance safe_content : Safe e content := by
  unfold content
  infer_instance

/-- No further document is found only at a clean end. -/
lemma tells_explicitStart : Tells e (fun start => start = none → e = .clean) explicitStart := by
  unfold explicitStart
  refine Tells.after fun _ => Tells.after fun _ => ?_
  refine Tells.bind tells_peek fun token ends => ?_
  refine Returns.ite (fun last => Returns.pure fun _ => ends (by simpa using last)) fun _ => ?_
  refine Tells.after fun _ => Tells.after fun own => Tells.after fun _ => ?_
  refine Tells.after fun indicator => Returns.ite (fun _ => ?_) fun _ => ?_
  · exact Tells.after fun _ => Tells.after fun _ => Returns.pure (by simp)
  · exact Tells.after fun _ => Returns.pure (by simp)

lemma tells_atEnd (explicit : Bool) : Tells e (fun ended => ended = true → e = .clean)
    (onlyIf explicit do return (← explicitStart).isNone) := by
  refine Returns.ite (fun _ => ?_) fun _ => Returns.pure (by simp)
  refine Tells.bind tells_explicitStart fun start ends => Returns.pure ?_
  simpa using ends

lemma safe_document? : Safe e document? := by
  unfold document?
  refine .after fun token => ?_
  extract_lets explicit close
  have closes (root : Nat) : Safe e (close root) := by
    refine .after fun token => ?_
    extract_lets finish
    have ends (u : Unit) : Safe e (finish u) := by
      refine .after fun start => ?_
      cases start <;> infer_instance
    clear_value finish
    infer_instance
  clear_value close
  infer_instance

/-- A document is given only at a clean end. -/
lemma tells_document? : Tells e (fun _ => e = .clean) document? := by
  unfold document?
  refine Tells.after fun token => ?_
  extract_lets explicit close
  have closes (root : Nat) : Tells e (fun _ => e = .clean) (close root) := by
    refine Tells.after fun token => ?_
    extract_lets finish
    have ends (u : Unit) : Tells e (fun _ => e = .clean) (finish u) := by
      refine Tells.bind tells_explicitStart fun start clean => ?_
      cases start with
      | none => exact Returns.pure (clean rfl)
      | some m => exact Returns.throw _
    refine Returns.ite (fun _ => ?_) fun _ => ends ()
    exact Tells.after fun _ => ends ()
  refine Tells.bind (tells_atEnd explicit) fun ended clean => ?_
  refine Returns.ite (fun last => Returns.pure (clean last)) fun _ => ?_
  refine Returns.ite (fun _ => ?_) fun _ => ?_
  · exact Tells.after closes
  · exact Tells.after closes

end Assemble

/-! ## Values -/

section

variable {α β : Type}

/-- The result is not the fault of bytes that cannot be decoded. -/
class Decoded (x : Except Fault α) : Prop where
  ne : x ≠ .error .undecodable

namespace Decoded

lemma error {f : Fault} (other : f ≠ .undecodable) : Decoded (.error f : Except Fault α) :=
  ⟨fun same => other (Except.error.inj same)⟩

instance ok (a : α) : Decoded (.ok a) := ⟨nofun⟩

instance pure (a : α) : Decoded (pure a) := ok a

instance bind {x : Except Fault α} {next : α → Except Fault β} [first : Decoded x]
    [rest : ∀ a, Decoded (next a)] : Decoded (x >>= next) := by
  cases x with
  | error f => exact error fun same => first.ne (congrArg Except.error same)
  | ok a => exact rest a

instance map {x : Except Fault α} (f : α → β) [first : Decoded x] : Decoded (x.map f) := by
  cases x with
  | error f => exact error fun same => first.ne (congrArg Except.error same)
  | ok a => exact ok _

instance mapM {f : α → Except Fault β} [each : ∀ a, Decoded (f a)] (l : List α) :
    Decoded (l.mapM f) := by
  induction l with
  | nil => exact ok _
  | cons a l ih =>
    rw [List.mapM_cons]
    infer_instance

instance branch {p : Prop} [Decidable p] {x y : Except Fault α} [yes : Decoded x] [no : Decoded y] :
    Decoded (if p then x else y) := by
  by_cases h : p
  · rw [if_pos h]
    exact yes
  · rw [if_neg h]
    exact no

end Decoded

end

instance decoded_wholeValue (s : Text) : Decoded (wholeValue s) := by
  unfold wholeValue
  extract_lets read
  have reads (base : Nat) (digits : Text) : Decoded (read base digits) := by
    simp only [read]
    split
    · infer_instance
    · exact .error nofun
  have empty : Decoded (.error .emptyNumber : Except Fault Int) := .error nofun
  clear_value read
  split <;> infer_instance

instance decoded_intValue (text : Text) : Decoded (intValue text) := by
  unfold intValue
  have empty : Decoded (.error .emptyNumber : Except Fault Config.Scalar) := .error nofun
  infer_instance

instance decoded_sixtiesFrom (sum : Float) (place : Nat) (parts : List Float) :
    Decoded (sixtiesFrom sum place parts) := by
  induction parts generalizing sum place with
  | nil => exact .ok _
  | cons part parts ih =>
    unfold sixtiesFrom
    have large : Decoded (.error .tooManyPlaces : Except Fault Float) := .error nofun
    infer_instance

instance decoded_pointValue (s : Text) : Decoded (pointValue s) := by
  unfold pointValue
  extract_lets read
  have reads (digits : Text) : Decoded (read digits) := by
    simp only [read]
    split
    · infer_instance
    · exact .error nofun
  clear_value read
  infer_instance

instance decoded_floatValue (source : Nat) (text : Text) : Decoded (floatValue source text) := by
  unfold floatValue
  have empty : Decoded (.error .emptyNumber : Except Fault Config.Scalar) := .error nofun
  infer_instance

instance decoded_boolValue (text : Text) : Decoded (boolValue text) := by
  unfold boolValue
  have unknown : Decoded (.error .unknownTruth : Except Fault Config.Scalar) := .error nofun
  infer_instance

instance decoded_timestampValue (text : Text) (written : Bool) :
    Decoded (timestampValue text written) := by
  unfold timestampValue
  have unlike : Decoded (.error .notTimestamp : Except Fault Config.Scalar) := .error nofun
  have impossible : Decoded (.error .noValue : Except Fault Config.Scalar) := .error nofun
  split
  · exact .error nofun
  · extract_lets s
    split
    · infer_instance
    · split <;> infer_instance

instance decoded_binaryValue (text : Text) (m : Mark) : Decoded (binaryValue text m) := by
  unfold binaryValue
  have bad : Decoded (.error (.malformed m) : Except Fault Config.Scalar) := .error nofun
  cases Base64.decode? text <;> infer_instance

instance decoded_scalarValue (tag : Tag) (text : Text) (m : Mark) (source : Nat) (written : Bool) :
    Decoded (scalarValue tag text m source written) := by
  unfold scalarValue
  have bad : Decoded (.error (.malformed m) : Except Fault Config.Scalar) := .error nofun
  cases tag <;> infer_instance

namespace Build

variable {α : Type}

/-- Nothing is asked of the nodes and cells. -/
def Any (_ : Builder) : Prop := True

/-- The computation does not blame bytes that cannot be decoded. -/
abbrev Safe (m : Build α) : Prop := Keeps Any (Fault.Permitted .clean) m

instance safe_modify (change : Builder → Builder) : Safe (modify change) :=
  Leads.modify fun _ _ => trivial

instance safe_modifyGet (change : Builder → α × Builder) : Safe (modifyGet change : Build α) :=
  ⟨fun _ _ => trivial⟩

instance safe_lift {x : Except Fault α} [decoded : Decoded x] : Safe (liftM x : Build α) := by
  refine ⟨fun b _ => ?_⟩
  cases x with
  | error f => exact fun same => absurd (congrArg Except.error same) decoded.ne
  | ok a => exact trivial

instance safe_malformedAt (m : Mark) : Safe (malformedAt m : Build α) := Leads.throw nofun

instance safe_node (n : Nat) : Safe (node n) := by
  unfold node
  infer_instance

instance safe_tag (n : Nat) : Safe (tag n) := by
  unfold tag
  infer_instance

instance safe_entries (n : Nat) : Safe (entries n) := by
  unfold entries
  refine .after fun given => ?_
  cases given.content <;> infer_instance

instance safe_setNode (n : Nat) (change : Node → Node) : Safe (setNode n change) := safe_modify _

instance safe_setEntries (n : Nat) (entries : List (Nat × Nat)) : Safe (setEntries n entries) :=
  safe_setNode _ _

instance safe_setCell (n : Nat) (layer : Config.Layer Nat) : Safe (setCell n layer) := safe_modify _

section

variable {flatten : Nat → Build Unit} [∀ n, Safe (flatten n)]

instance safe_mergedParts (v : Nat) : Safe (mergedParts flatten v) := by
  unfold mergedParts
  refine .after fun value => ?_
  cases value.content with
  | scalar _ => infer_instance
  | mapping _ => infer_instance
  | sequence items =>
    refine @Keeps.foldlM _ _ _ _ _ _ (fun parts item => .after fun member => ?_) _ _
    cases member.content <;> infer_instance

instance safe_takeMerges (n fuel : Nat) (parts : List (List (Nat × Nat))) :
    Safe (takeMerges flatten n fuel parts) := by
  induction fuel generalizing parts with
  | zero => exact Keeps.pure _
  | succ fuel ih =>
    unfold takeMerges
    refine .after fun b => .after fun own => ?_
    split <;> infer_instance

end

instance safe_flatten (depth n : Nat) : Safe (flatten depth n) := by
  induction depth generalizing n with
  | zero => exact Leads.throw nofun
  | succ depth ih =>
    unfold flatten
    infer_instance

instance safe_scalarText (fuel n : Nat) : Safe (scalarText fuel n) := by
  induction fuel generalizing n with
  | zero => exact Leads.throw nofun
  | succ fuel ih =>
    unfold scalarText
    refine .after fun given => ?_
    cases given.content with
    | scalar _ => infer_instance
    | sequence _ => infer_instance
    | mapping entries =>
      refine .after fun b => ?_
      extract_lets nodes
      split <;> infer_instance

instance safe_make (n : Nat) : Safe (make n) := by
  unfold make
  refine .after fun b => .ite (fun _ => Keeps.pure _) fun _ => .after fun given => ?_
  cases opening? given.tag <;> infer_instance

instance safe_makeKey (k : Nat) : Safe (makeKey k) := by
  unfold makeKey
  refine .after fun _ => .after fun b => ?_
  split <;> infer_instance

instance safe_makeEntries (n : Nat) : Safe (makeEntries n) := by
  unfold makeEntries
  refine .after fun given => .check fun _ => ?_
  infer_instance

instance safe_items (n : Nat) : Safe (items n) := by
  unfold items
  refine .after fun given => ?_
  cases given.content <;> infer_instance

instance safe_makePair (n : Nat) : Safe (makePair n) := by
  unfold makePair
  refine .after fun given => ?_
  split <;> infer_instance

instance safe_fill (n : Nat) : Safe (fill n) := by
  unfold fill
  refine .after fun kind => ?_
  split <;> infer_instance

instance safe_fillAll (rounds : Nat) : Safe (fillAll rounds) := by
  induction rounds with
  | zero => exact Keeps.pure _
  | succ rounds ih =>
    unfold fillAll
    infer_instance

end Build

instance decoded_value (g : Graph) : Decoded g.value := by
  unfold Graph.value
  extract_lets build
  have safe : Build.Safe build := Leads.bind
  cases run : build.run ⟨g.nodes, Array.replicate g.nodes.size none, []⟩ with
  | error f =>
    have permitted := safe.of_error trivial run
    exact .error fun same => by cases permitted same
  | ok p => exact Decoded.ok _

/-! ## Streams -/

lemma Tokens.sound_start {s : Stream} (plain : nul ∉ s.chars) :
    (Tokens.start s).Sound s.ending where
  cursor := ⟨rfl, plain, Nat.succ_pos _⟩
  finished := nofun
  queue := nofun

/-- The outcome of reading a stream tells how the stream ends. -/
lemma ofStream_cases {s : Stream} (plain : nul ∉ s.chars) :
    (∃ g, Graph.ofStream s = .ok g ∧ s.ending = .clean) ∨
      ∃ f, Graph.ofStream s = .error f ∧ f.Permitted s.ending := by
  have sound := Tokens.sound_start plain
  cases run : Assemble.document? ⟨Tokens.start s, Assemble.commonHandles, #[], ∅⟩ with
  | error f =>
    refine Or.inr ⟨f, ?_, Assemble.safe_document?.of_error sound run⟩
    simp only [Graph.ofStream, StateT.run, run]
    rfl
  | ok p =>
    refine Or.inl ⟨p.1.map fun n => ⟨p.2.nodes, n⟩, ?_, ?_⟩
    · simp only [Graph.ofStream, StateT.run, run]
      rfl
    · exact Assemble.tells_document? _ p.1 p.2 sound run

/-- Only a stream that ends cleanly has a value. -/
theorem clean_of_value? {s : Stream} {v : Option Config.Value} (plain : nul ∉ s.chars)
    (read : value? s = .ok v) : s.ending = .clean := by
  rcases ofStream_cases plain with ⟨g, -, clean⟩ | ⟨f, failed, -⟩
  · exact clean
  · rw [value?, failed] at read
    cases read

/-- Only a stream that ends in bytes that cannot be decoded is given up for them. -/
theorem undecodable_of_value? {s : Stream} (plain : nul ∉ s.chars)
    (failed : value? s = .error .undecodable) : s.ending = .undecodable := by
  rcases ofStream_cases plain with ⟨g, read, -⟩ | ⟨f, given, permitted⟩
  · have decoded : Decoded (value? s) := by
      rw [value?, read]
      cases g with
      | none => exact .ok _
      | some g =>
        change Decoded (g.value >>= fun v => pure (some v))
        infer_instance
    exact absurd failed decoded.ne
  · rw [value?, given] at failed
    cases failed
    exact permitted rfl

/-! ## Readers -/

/-- What is asked of a reader of YAML, which reads a stream from its start as far as it has to. -/
structure Lawful (read : Reader) : Prop where
  /-- A value is given only after all characters, which are allowed ones, and the end. -/
  whole : ∀ s v, read s = .ok v → s.ending = .clean ∧ ∀ c ∈ s.chars, isAllowed c = true
  /-- On decoded text there is a value, a broken rule of YAML or a scalar without a value. -/
  decoded : ∀ s, read s = .error .undecodable → s.ending = .undecodable
  /-- Bytes that cannot be decoded come before anything else if no character does. -/
  prompt : read ⟨[], .undecodable⟩ = .error .undecodable

lemma nul_notMem_screen (s : Stream) : nul ∉ s.screen.chars := fun mem =>
  absurd (Stream.isAllowed_of_mem_screen mem) (by decide)

theorem lawful_reader : Lawful reader where
  whole s v read := by
    have clean := clean_of_value? (nul_notMem_screen s) read
    rcases s.screen_cases with unprintable | ⟨same, allowed⟩
    · rw [unprintable] at clean
      cases clean
    · exact ⟨same ▸ clean, allowed⟩
  decoded s failed := by
    have bad := undecodable_of_value? (nul_notMem_screen s) failed
    rcases s.screen_cases with unprintable | ⟨same, -⟩
    · rw [unprintable] at bad
      cases bad
    · exact same ▸ bad
  prompt := by rfl

/-! ## Mappings with texts for keys -/

namespace Build

variable {b b₁ b₂ : Builder} {n : Nat}

/-- A text that is no key yet comes behind the other keys. -/
lemma Gathered.insert_fresh {g : Gathered} {s : String} (fresh : g.places[s]? = none)
    (value : Nat) : g.insert (.text s) value =
      ⟨g.entries.push (.text s, value), g.places.insert s g.entries.size⟩ := by
  simp only [insert, place?, fresh]

/-- One more entry of a mapping. -/
def gather (g : Gathered) (entry : Nat × Nat) : Build Gathered := do
  let key ← makeKey entry.1
  make entry.2
  return g.insert key entry.2

lemma makeEntries_eq (n : Nat) : makeEntries n = (do
    let given ← node n
    if !(given.content matches .mapping _) then malformedAt given.start
    flatten longestChain n
    let gathered ← (← entries n).foldlM gather ⟨#[], ∅⟩
    return gathered.entries.toList) := rfl

/-- The entries are made one after the other, and their keys turn out to be these texts. -/
inductive Makes : List (Nat × Nat) → List (String × Nat) → Builder → Builder → Prop
  | nil (b : Builder) : Makes [] [] b b
  | cons {k v : Nat} {s : String} {own : List (Nat × Nat)} {keyed : List (String × Nat)}
      {b b₁ b₂ b₃ : Builder} (named : makeKey k b = .ok (.text s, b₁))
      (made : make v b₁ = .ok ((), b₂)) (rest : Makes own keyed b₂ b₃) :
      Makes ((k, v) :: own) ((s, v) :: keyed) b b₃

/-- Keys that differ from each other and from those before them are all kept, in order. -/
lemma Makes.foldlM_gather {own : List (Nat × Nat)} {keyed : List (String × Nat)}
    (makes : Makes own keyed b b₁) (distinct : (keyed.map Prod.fst).Nodup) {g : Gathered}
    (fresh : ∀ s ∈ keyed.map Prod.fst, g.places[s]? = none) :
    ∃ g', own.foldlM gather g b = .ok (g', b₁) ∧
      g'.entries.toList = g.entries.toList ++ keyed.map fun (s, v) => (.text s, v) := by
  induction makes generalizing g with
  | nil b => exact ⟨g, rfl, by simp⟩
  | @cons k v s own keyed b b₁ b₂ b₃ named made rest ih =>
    obtain ⟨new, distinct⟩ := List.nodup_cons.mp distinct
    have absent : g.places[s]? = none := fresh s List.mem_cons_self
    have still : ∀ t ∈ keyed.map Prod.fst, (g.insert (.text s) v).places[t]? = none := by
      intro t mem
      have other : s ≠ t := fun same => new (same ▸ mem)
      rw [Gathered.insert_fresh absent, Std.HashMap.getElem?_insert, if_neg (by simpa using other)]
      exact fresh t (List.mem_cons_of_mem s mem)
    obtain ⟨g', gathered, entries⟩ := ih distinct still
    refine ⟨g', ?_, ?_⟩
    · rw [List.foldlM_cons]
      simp only [gather, bind, StateT.bind, Except.bind, named, made]
      exact gathered
    · rw [entries, Gathered.insert_fresh absent, Array.toList_push, List.append_assoc]
      rfl

lemma makeEntries_of_makes {t : Tag} {content own : List (Nat × Nat)} {start : Mark}
    (keyed : List (String × Nat)) (given : node n b = .ok (⟨t, .mapping content, start⟩, b))
    (flat : flatten longestChain n b = .ok ((), b₁)) (listed : entries n b₁ = .ok (own, b₁))
    (makes : Makes own keyed b₁ b₂) (distinct : (keyed.map Prod.fst).Nodup) :
    makeEntries n b = .ok (keyed.map fun (s, v) => (.text s, v), b₂) := by
  obtain ⟨g, gathered, same⟩ := makes.foldlM_gather distinct (g := ⟨#[], ∅⟩) (by simp)
  rw [makeEntries_eq]
  simp only [bind, StateT.bind, Except.bind, given, flat, listed, gathered, Bool.not_true,
    Bool.false_eq_true, if_false]
  change Except.ok (g.entries.toList, b₂) = _
  rw [same]
  rfl

lemma fill_map {own : List (Config.Scalar × Nat)} (kind : tag n b = .ok (.map, b))
    (made : makeEntries n b = .ok (own, b₁)) :
    fill n b = .ok ((), { b₁ with cells := b₁.cells.setIfInBounds n (some (.map own)) }) := by
  simp only [fill, bind, StateT.bind, Except.bind, kind, made]
  rfl

lemma fillAll_single (rounds : Nat) (waiting : b.opened = [n])
    (filled : fill n { b with opened := [] } = .ok ((), b₁)) :
    fillAll (rounds + 1) b = fillAll rounds b₁ := by
  rw [fillAll]
  simp only [bind, StateT.bind, Except.bind, get, getThe, MonadStateOf.get, StateT.get, pure,
    Except.pure, modify, modifyGet, MonadStateOf.modifyGet, StateT.modifyGet, waiting,
    List.reverse_singleton, List.isEmpty_cons, Bool.false_eq_true, if_false]
  simp only [List.forM, bind, StateT.bind, Except.bind, filled]
  rfl

end Build

deriving instance DecidableEq for Graph

lemma Graph.value_of_filled {g : Graph} {b b' : Builder}
    (opened : Build.make g.root ⟨g.nodes, Array.replicate g.nodes.size none, []⟩ = .ok ((), b))
    (filled : Build.fillAll (g.nodes.size + 1) b = .ok ((), b')) :
    g.value = .ok ⟨b'.cells.map fun cell => cell.getD (.scalar .null), g.root⟩ := by
  simp only [Graph.value, StateT.run, bind, StateT.bind, Except.bind, opened, filled]
  rfl

end StyleGate.Yaml
