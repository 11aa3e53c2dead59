import StyleGate.Proofs.Yaml.Scanning

/-!
# The queue of tokens keeps to the ending of its stream

A token for the end of the stream enters the queue only at a clean end. Every maker of a token leaves
one in the queue, so the queue is empty after it was filled only if the end was taken from it before.
Whoever is told that the stream has ended can therefore rely on it.
-/

namespace StyleGate.Yaml

namespace Tokens

variable {e : Ending} {t : Tokens}

/-- The cursor is sound, and the queue knows of an end only if the stream ends cleanly. -/
structure Sound (e : Ending) (t : Tokens) : Prop where
  cursor : t.cursor.Sound e
  finished : t.finished = true → e = .clean
  queue : ∀ token ∈ t.queue, token.kind = .streamEnd → e = .clean

/-- The queue is sound and holds a token. -/
structure Filled (e : Ending) (t : Tokens) : Prop where
  sound : t.Sound e
  nonempty : t.queue ≠ []

/-- The queue is sound and empty only at the end. -/
structure Ready (e : Ending) (t : Tokens) : Prop where
  sound : t.Sound e
  finished : t.queue = [] → t.finished = true

lemma Filled.ready (filled : t.Filled e) : t.Ready e :=
  ⟨filled.sound, fun empty => absurd empty filled.nonempty⟩

lemma Sound.keys (sound : t.Sound e) (keys : List (Nat × PossibleKey)) :
    Sound e { t with keys := keys } :=
  ⟨sound.cursor, sound.finished, sound.queue⟩

/-- More tokens, none of which is a wrong end, leave a sound queue sound. -/
lemma Sound.append (sound : t.Sound e) {more : List Token}
    (ends : ∀ token ∈ more, token.kind = .streamEnd → e = .clean) :
    Sound e { t with queue := t.queue ++ more } := by
  refine ⟨sound.cursor, sound.finished, ?_⟩
  intro token mem
  rcases List.mem_append.mp mem with old | new
  · exact sound.queue token old
  · exact ends token new

end Tokens

namespace Tokenize

variable {e : Ending}

/-- The computation keeps to a stream with this ending. -/
abbrev Safe {α : Type} (e : Ending) (m : Tokenize α) : Prop :=
  Keeps (Tokens.Sound e) (Fault.Permitted e) m

/-- It also leaves a token in the queue. -/
abbrev Fills {α : Type} (e : Ending) (m : Tokenize α) : Prop :=
  Leads (Tokens.Sound e) (Tokens.Filled e) (Fault.Permitted e) m

lemma Fills.safe {α : Type} {m : Tokenize α} (fills : Fills e m) : Safe e m :=
  fills.weaken (fun _ sound => sound) fun _ filled => filled.sound

/-! ## Reading characters -/

instance safe_scan {α : Type} {m : Scan α} [h : Scan.Safe e m] : Safe e (scan m) :=
  h.zoom Tokens.cursor (fun t c => { t with cursor := c }) (fun _ sound => sound.cursor)
    fun _ _ sound read => ⟨read, sound.finished, sound.queue⟩

lemma returns_scan {α : Type} {m : Scan α} {property : α → Prop}
    (h : Returns (Cursor.Sound e) property m) : Returns (Tokens.Sound e) property (scan m) :=
  h.zoom Tokens.cursor (fun t c => { t with cursor := c }) fun _ sound => sound.cursor

instance leads_malformed {α : Type} {inv goal : Tokens → Prop} :
    Leads inv goal (Fault.Permitted e) (malformed : Tokenize α) := by
  refine ⟨fun t _ => ?_⟩
  change Fault.Permitted e (.malformed t.cursor.mark)
  exact nofun

instance safe_mark : Safe e mark := by
  unfold mark
  infer_instance

/-! ## Keys and levels -/

instance safe_allowKey (allowed : Bool) : Safe e (allowKey allowed) :=
  Leads.modify fun _ sound => ⟨sound.cursor, sound.finished, sound.queue⟩

instance safe_dropStaleKeys : Safe e dropStaleKeys := by
  unfold dropStaleKeys
  refine Leads.get_bind fun t sound => ?_
  have forgets : Safe e (set { t with keys := t.keys.filter fun (_, k) => !isStale t k }) :=
    Leads.set (sound.keys _)
  infer_instance

lemma safe_forget {t : Tokens} (sound : t.Sound e) :
    Safe e (set { t with keys := t.keys.filter fun (level, _) => level != t.flow }) :=
  Leads.set (sound.keys _)

instance safe_dropKey : Safe e dropKey := by
  unfold dropKey
  refine Leads.get_bind fun t sound => ?_
  have forgets := safe_forget sound
  infer_instance

instance safe_noteKey : Safe e noteKey := by
  unfold noteKey
  refine .after fun t => .ite (fun _ => ?_) fun _ => Keeps.pure _
  exact .after fun _ => Leads.modify fun t sound => sound.keys _

instance safe_closeBlocks (column : Int) : Safe e (closeBlocks column) := by
  unfold closeBlocks
  refine Leads.get_bind fun t sound => Leads.ite (fun _ => ?_) fun _ => Keeps.pure _
  extract_lets closing levels closed left
  have inner : ∀ token ∈ List.replicate closed.length closing,
      token.kind = .streamEnd → e = .clean := by
    intro token mem last
    rw [List.eq_of_mem_replicate mem] at last
    cases last
  have more := sound.append inner
  exact Leads.set ⟨more.cursor, more.finished, more.queue⟩

instance safe_openBlock (column : Nat) : Safe e (openBlock column) := by
  unfold openBlock
  refine Leads.get_bind fun t sound => Leads.ite (fun _ => ?_) fun _ => Keeps.pure _
  refine Leads.seq (Leads.set ?_) fun _ => Keeps.pure _
  exact ⟨sound.cursor, sound.finished, sound.queue⟩

instance safe_skipToToken (fuel : Nat) : Safe e (skipToToken fuel) := by
  induction fuel with
  | zero => exact Keeps.pure _
  | succ fuel ih =>
    unfold skipToToken
    refine .after fun _ => .after fun _ => .after fun lineBreak => ?_
    cases lineBreak <;> infer_instance

instance safe_setFlow (change : Nat → Nat) :
    Safe e (modify fun t => { t with flow := change t.flow }) :=
  Leads.modify fun _ sound => ⟨sound.cursor, sound.finished, sound.queue⟩

/-! ## Makers of tokens -/

lemma fills_push {kind : TokenKind} (ends : kind = .streamEnd → e = .clean) (start stop : Mark) :
    Fills e (push kind start stop) := by
  refine Leads.modify fun t sound => ⟨sound.append ?_, List.append_ne_nil_of_right_ne_nil _ ?_⟩
  · intro token new
    rw [List.mem_singleton.mp new]
    exact ends
  · exact List.cons_ne_nil _ _

lemma fills_pushHere {kind : TokenKind} (ends : kind = .streamEnd → e = .clean) :
    Fills e (pushHere kind) := by
  unfold pushHere
  exact .after fun start => .after fun stop => fills_push ends start stop

lemma fills_pushIndicator {kind : TokenKind} (inner : kind ≠ .streamEnd) (n : Nat) :
    Fills e (pushIndicator kind n) := by
  unfold pushIndicator
  refine .after fun start => .after fun _ => .after fun stop => ?_
  exact fills_push (fun last => absurd last inner) start stop

lemma fills_streamEnd (clean : e = .clean) : Fills e streamEnd := by
  unfold streamEnd
  refine .after fun _ => .after fun _ => .after fun _ => ?_
  refine Leads.seq (Leads.modify fun t sound => sound.keys []) fun _ => ?_
  refine (fills_pushHere fun _ => clean).seq fun _ => Leads.modify fun t filled => ?_
  exact ⟨⟨filled.sound.cursor, fun _ => clean, filled.sound.queue⟩, filled.nonempty⟩

lemma fills_directive : Fills e directive := by
  unfold directive
  refine .after fun _ => .after fun _ => .after fun _ => .after fun start => .after fun found => ?_
  exact fills_push (by nofun) start found.2

lemma fills_documentIndicator {kind : TokenKind} (inner : kind ≠ .streamEnd) :
    Fills e (documentIndicator kind) := by
  unfold documentIndicator
  exact .after fun _ => .after fun _ => .after fun _ => fills_pushIndicator inner 3

lemma fills_flowStart {kind : TokenKind} (inner : kind ≠ .streamEnd) :
    Fills e (flowStart kind) := by
  unfold flowStart
  refine .after fun _ => (safe_setFlow (· + 1)).seq fun _ => ?_
  exact .after fun _ => fills_pushIndicator inner 1

lemma fills_flowEnd {kind : TokenKind} (inner : kind ≠ .streamEnd) :
    Fills e (flowEnd kind) := by
  unfold flowEnd
  refine .after fun _ => (safe_setFlow (· - 1)).seq fun _ => ?_
  exact .after fun _ => fills_pushIndicator inner 1

lemma fills_flowEntry : Fills e flowEntry := by
  unfold flowEntry
  exact .after fun _ => .after fun _ => fills_pushIndicator (by nofun) 1

lemma safe_startBlock {kind : TokenKind} (inner : kind ≠ .streamEnd) :
    Safe e (startBlock kind) := by
  unfold startBlock
  have starts : Safe e (pushHere kind) := (fills_pushHere fun last => absurd last inner).safe
  refine .after fun t => .ite (fun _ => .after fun t => .check fun _ => ?_) fun _ => Keeps.pure _
  infer_instance

lemma fills_blockEntry : Fills e blockEntry := by
  unfold blockEntry
  refine (safe_startBlock (by nofun)).seq fun _ => .after fun _ => .after fun _ => ?_
  exact fills_pushIndicator (by nofun) 1

lemma fills_explicitKey : Fills e explicitKey := by
  unfold explicitKey
  refine (safe_startBlock (by nofun)).seq fun _ => .after fun t => .after fun _ => ?_
  exact .after fun _ => fills_pushIndicator (by nofun) 1

lemma safe_insertBefore (number : Nat) {tokens : List Token}
    (ends : ∀ token ∈ tokens, token.kind ≠ .streamEnd) : Safe e (insertBefore number tokens) := by
  refine Leads.modify fun t sound => ⟨sound.cursor, sound.finished, ?_⟩
  intro token mem last
  rcases List.mem_append.mp mem with front | back
  · rcases List.mem_append.mp front with old | new
    · exact sound.queue token (List.mem_of_mem_take old) last
    · exact absurd last (ends token new)
  · exact sound.queue token (List.mem_of_mem_drop back) last

lemma fills_value : Fills e value := by
  unfold value
  refine Leads.get_bind fun t sound => ?_
  have inserts (number : Nat) (opened : Bool) (m : Mark) : Safe e (insertBefore number
      ((if opened then [⟨.blockMappingStart, m, m⟩] else []) ++ [⟨.key, m, m⟩])) := by
    refine safe_insertBefore number ?_
    cases opened <;> simp
  have finishes : Fills e (pushIndicator .value 1) := fills_pushIndicator (by nofun) 1
  split
  · refine (safe_forget sound).seq fun _ => ?_
    infer_instance
  · refine (safe_startBlock (by nofun)).seq fun _ => ?_
    infer_instance

lemma fills_keyLike {α : Type} {m : Scan α} {kind : α → TokenKind} [Scan.Safe e m]
    (inner : ∀ a, kind a ≠ .streamEnd) : Fills e (keyLike m kind) := by
  unfold keyLike
  refine .after fun _ => .after fun _ => .after fun start => .after fun a => .after fun stop => ?_
  exact fills_push (fun last => absurd last (inner a)) start stop

lemma fills_blockScalar (folded : Bool) : Fills e (blockScalar folded) := by
  unfold blockScalar
  refine .after fun _ => .after fun _ => .after fun start => .after fun t => .after fun read => ?_
  exact fills_push (by nofun) start read.2

lemma fills_plainScalar : Fills e plainScalar := by
  unfold plainScalar
  refine .after fun _ => .after fun _ => .after fun start => .after fun t => .after fun t' => ?_
  exact .after fun p => .after fun _ => fills_push (by nofun) start p.stop

/-! ## Filling the queue -/

instance safe_startsPlain (c : Char) : Safe e (startsPlain c) := by
  unfold startsPlain
  infer_instance

instance safe_standsAlone (inFlow : Bool) : Safe e (standsAlone inFlow) := by
  unfold standsAlone
  infer_instance

instance safe_onlyIf {first : Bool} {test : Tokenize Bool} [Safe e test] :
    Safe e (onlyIf first test) := by
  unfold onlyIf
  infer_instance

instance safe_atDocumentIndicator (c indicator : Char) :
    Safe e (atDocumentIndicator c indicator) := by
  unfold atDocumentIndicator
  infer_instance

lemma fills_fetchAt {c : Char} (ends : c = nul → e = .clean) : Fills e (fetchAt c) := by
  unfold fetchAt
  refine .after fun t => .ite (fun last => fills_streamEnd (ends (by simpa using last))) fun _ => ?_
  refine .after fun t => .ite (fun _ => fills_directive) fun _ => ?_
  refine .after fun _ => .ite (fun _ => fills_documentIndicator (by nofun)) fun _ => ?_
  refine .after fun _ => .ite (fun _ => fills_documentIndicator (by nofun)) fun _ => ?_
  refine .ite (fun _ => fills_flowStart (by nofun)) fun _ => ?_
  refine .ite (fun _ => fills_flowStart (by nofun)) fun _ => ?_
  refine .ite (fun _ => fills_flowEnd (by nofun)) fun _ => ?_
  refine .ite (fun _ => fills_flowEnd (by nofun)) fun _ => ?_
  refine .ite (fun _ => fills_flowEntry) fun _ => ?_
  refine .after fun _ => .ite (fun _ => fills_blockEntry) fun _ => ?_
  refine .after fun _ => .ite (fun _ => fills_explicitKey) fun _ => ?_
  refine .after fun _ => .ite (fun _ => fills_value) fun _ => ?_
  refine .ite (fun _ => fills_keyLike (by simp)) fun _ => ?_
  refine .ite (fun _ => fills_keyLike (by simp)) fun _ => ?_
  refine .ite (fun _ => fills_keyLike (by simp)) fun _ => ?_
  refine .ite (fun _ => fills_blockScalar false) fun _ => ?_
  refine .ite (fun _ => fills_blockScalar true) fun _ => ?_
  refine .ite (fun _ => fills_keyLike (by simp)) fun _ => ?_
  exact .after fun _ => .ite (fun _ => fills_plainScalar) fun _ => leads_malformed

lemma fills_fetch : Fills e fetch := by
  unfold fetch
  have makes : Fills e (scan Scan.peek >>= fetchAt) :=
    Leads.bind_of_returns safe_scan (returns_scan Scan.returns_peek) fun _ => fills_fetchAt
  refine .after fun c => .after fun t => .check fun _ => ?_
  infer_instance

lemma filled_dropStaleKeys :
    Leads (Tokens.Filled e) (Tokens.Filled e) (Fault.Permitted e) dropStaleKeys := by
  unfold dropStaleKeys
  refine Leads.get_bind fun t filled => Leads.ite (fun _ => ?_) fun _ => Leads.set ?_
  · exact .after fun _ => Leads.set ⟨filled.sound.keys _, filled.nonempty⟩
  · exact ⟨filled.sound.keys _, filled.nonempty⟩

/-- One turn of filling leaves the queue ready if the turns after it do. -/
lemma ready_fill_succ {fuel : Nat}
    (rest : Leads (Tokens.Ready e) (Tokens.Ready e) (Fault.Permitted e) (fill fuel)) :
    Leads (Tokens.Sound e) (Tokens.Ready e) (Fault.Permitted e) (fill (fuel + 1)) := by
  have again : Leads (Tokens.Sound e) (Tokens.Ready e) (Fault.Permitted e)
      (do fetch; fill fuel) :=
    fills_fetch.seq fun _ => rest.weaken (fun _ filled => filled.ready) fun _ ready => ready
  -- From a queue with tokens in it: either they are ready, or more are made.
  have further : Leads (Tokens.Filled e) (Tokens.Ready e) (Fault.Permitted e) (do
      dropStaleKeys
      if (← get).firstKey? != some (← get).taken then return ()
      fetch
      fill fuel) := by
    refine filled_dropStaleKeys.seq fun _ => Leads.get_bind fun _ _ => Leads.get_bind fun _ _ => ?_
    refine .ite (fun _ => ⟨fun t filled => filled.ready⟩) fun _ => ?_
    exact again.weaken (fun _ filled => filled.sound) fun _ ready => ready
  unfold fill
  refine Leads.get_bind_eq fun t sound => Leads.ite (fun done => ?_) fun _ => ?_
  · refine ⟨?_⟩
    rintro _ rfl
    exact ⟨sound, fun _ => done⟩
  · refine Leads.get_bind_eq fun t' same => ?_
    subst same
    refine Leads.ite (fun more => ?_) fun _ => ?_
    · refine further.weaken ?_ fun _ ready => ready
      rintro _ rfl
      exact ⟨sound, by simpa using more⟩
    · refine again.weaken ?_ fun _ ready => ready
      rintro _ rfl
      exact sound

lemma ready_fill (fuel : Nat) :
    Leads (Tokens.Ready e) (Tokens.Ready e) (Fault.Permitted e) (fill fuel) := by
  induction fuel with
  | zero => exact Keeps.pure _
  | succ fuel ih =>
    exact (ready_fill_succ ih).weaken (fun _ ready => ready.sound) fun _ ready => ready

/-- Filling with any fuel at all leaves the queue ready. -/
theorem leads_fill {fuel : Nat} (some : 0 < fuel) :
    Leads (Tokens.Sound e) (Tokens.Ready e) (Fault.Permitted e) (fill fuel) := by
  obtain ⟨fuel, rfl⟩ := Nat.exists_eq_succ_of_ne_zero (Nat.ne_of_gt some)
  exact ready_fill_succ (ready_fill fuel)

instance safe_peek : Safe e peek := by
  unfold peek
  refine Leads.get_bind fun t sound => ?_
  have fills : Safe e (fill t.cursor.limit) :=
    (leads_fill sound.cursor.limit).weaken (fun _ sound => sound) fun _ ready => ready.sound
  refine .after fun _ => .after fun t => ?_
  split <;> infer_instance

/-- Who is told of the end of the stream can rely on it. -/
theorem returns_peek :
    Returns (Tokens.Sound e) (fun token => token.kind = .streamEnd → e = .clean) peek := by
  intro t token t' sound run last
  unfold peek at run
  obtain ⟨_, _, got, run⟩ := bind_eq_ok run
  cases got
  obtain ⟨_, t₁, filled, run⟩ := bind_eq_ok run
  have ready := (leads_fill sound.cursor.limit).of_ok sound filled
  obtain ⟨_, _, got, run⟩ := bind_eq_ok run
  cases got
  cases queue : t₁.queue with
  | nil => exact ready.sound.finished (ready.finished queue)
  | cons first rest =>
    rw [queue] at run
    cases run
    exact ready.sound.queue token (by rw [queue]; exact List.mem_cons_self) last

instance safe_next : Safe e next := by
  unfold next
  refine .after fun token => Leads.seq (Leads.modify fun t sound => ?_) fun _ => Keeps.pure _
  exact ⟨sound.cursor, sound.finished, fun token mem => sound.queue token (List.mem_of_mem_drop mem)⟩

end Tokenize

end StyleGate.Yaml
