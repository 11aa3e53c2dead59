import Mathlib.Tactic.Common
import StyleGate.Yaml.Token

/-!
# Readers keep to the ending of their stream

Every reader of characters leaves the ending of the stream as it is, and fails for bytes that cannot
be decoded only if the stream ends in some. `Leads` says this for any state with an invariant. It is
a class, closed under the ways in which readers are put together, so what is known of the parts is
found by instance search and only a match has to be taken apart. A reader sees the end of the stream
only if the stream ends cleanly.
-/

namespace StyleGate.Yaml

/-! ## Computations that keep an invariant -/

section

variable {σ α β : Type} {inv goal : σ → Prop} {fine : Fault → Prop}

/-- Started where `inv` holds, the computation ends where `goal` holds, or fails with a fault that
is `fine`. -/
class Leads (inv goal : σ → Prop) (fine : Fault → Prop) (m : StateT σ (Except Fault) α) : Prop where
  outcome : ∀ s, inv s → match m s with
    | .ok (_, s') => goal s'
    | .error f => fine f

/-- The computation leads back to where `inv` holds. -/
abbrev Keeps (inv : σ → Prop) (fine : Fault → Prop) (m : StateT σ (Except Fault) α) : Prop :=
  Leads inv inv fine m

/-- Started where `inv` holds, the computation only returns what has the property. -/
def Returns (inv : σ → Prop) (property : α → Prop) (m : StateT σ (Except Fault) α) : Prop :=
  ∀ s a s', inv s → m s = .ok (a, s') → property a

lemma bind_eq_ok {m : StateT σ (Except Fault) α} {next : α → StateT σ (Except Fault) β} {s : σ}
    {r : β × σ} (run : (m >>= next) s = .ok r) :
    ∃ a s', m s = .ok (a, s') ∧ next a s' = .ok r := by
  change (m s).bind (fun p => next p.1 p.2) = .ok r at run
  cases first : m s with
  | error f =>
    rw [first] at run
    cases run
  | ok p =>
    rw [first] at run
    exact ⟨p.1, p.2, rfl, run⟩

instance Keeps.pure (a : α) : Keeps inv fine (pure a) := ⟨fun _ holds => holds⟩

instance Keeps.get : Keeps inv fine (get : StateT σ (Except Fault) σ) :=
  ⟨fun _ holds => holds⟩

namespace Leads

lemma of_ok {m : StateT σ (Except Fault) α} (leads : Leads inv goal fine m) {s s' : σ} {a : α}
    (holds : inv s) (run : m s = .ok (a, s')) : goal s' := by
  have after := leads.outcome s holds
  rw [run] at after
  exact after

lemma of_error {m : StateT σ (Except Fault) α} (leads : Leads inv goal fine m) {s : σ} {f : Fault}
    (holds : inv s) (run : m s = .error f) : fine f := by
  have after := leads.outcome s holds
  rw [run] at after
  exact after

lemma throw {f : Fault} (h : fine f) :
    Leads inv goal fine (throw f : StateT σ (Except Fault) α) := ⟨fun _ _ => h⟩

lemma modify {change : σ → σ} (h : ∀ s, inv s → goal (change s)) :
    Leads inv goal fine (modify change) := ⟨fun s holds => h s holds⟩

lemma set {s : σ} (h : goal s) : Leads inv goal fine (set s) := ⟨fun _ _ => h⟩

lemma seq {mid : σ → Prop} {m : StateT σ (Except Fault) α}
    {next : α → StateT σ (Except Fault) β} (first : Leads inv mid fine m)
    (rest : ∀ a, Leads mid goal fine (next a)) : Leads inv goal fine (m >>= next) := by
  refine ⟨fun s holds => ?_⟩
  change match (m s).bind fun p => next p.1 p.2 with
    | .ok (_, s') => goal s'
    | .error f => fine f
  cases run : m s with
  | error f => exact first.of_error holds run
  | ok p => exact (rest p.1).outcome p.2 (first.of_ok holds run)

instance bind {m : StateT σ (Except Fault) α} {next : α → StateT σ (Except Fault) β}
    [first : Keeps inv fine m] [rest : ∀ a, Leads inv goal fine (next a)] :
    Leads inv goal fine (m >>= next) := first.seq rest

/-- The rest may be taken apart by its result. -/
lemma after {m : StateT σ (Except Fault) α} {next : α → StateT σ (Except Fault) β}
    [first : Keeps inv fine m] (rest : ∀ a, Leads inv goal fine (next a)) :
    Leads inv goal fine (m >>= next) := first.seq rest

lemma ite {p : Prop} [Decidable p] {m m' : StateT σ (Except Fault) α}
    (yes : p → Leads inv goal fine m) (no : ¬ p → Leads inv goal fine m') :
    Leads inv goal fine (if p then m else m') := by
  by_cases h : p
  · rw [if_pos h]
    exact yes h
  · rw [if_neg h]
    exact no h

instance branch {p : Prop} [Decidable p] {m m' : StateT σ (Except Fault) α}
    [yes : Leads inv goal fine m] [no : Leads inv goal fine m'] :
    Leads inv goal fine (if p then m else m') := .ite (fun _ => yes) fun _ => no

/-- What is done only under a condition comes before a rest that is written once. -/
lemma check {p : Prop} [Decidable p] {m : StateT σ (Except Fault) Unit}
    {next : Unit → StateT σ (Except Fault) α} [first : Keeps inv fine m]
    (rest : ∀ u, Leads inv goal fine (next u)) :
    Leads inv goal fine (if p then m >>= next else next ()) :=
  .ite (fun _ => first.seq rest) fun _ => rest ()

/-- What is known of the first result may be used for the rest. -/
lemma bind_of_returns {m : StateT σ (Except Fault) α} {next : α → StateT σ (Except Fault) β}
    {property : α → Prop} (first : Keeps inv fine m) (returns : Returns inv property m)
    (rest : ∀ a, property a → Leads inv goal fine (next a)) : Leads inv goal fine (m >>= next) := by
  refine ⟨fun s holds => ?_⟩
  change match (m s).bind fun p => next p.1 p.2 with
    | .ok (_, s') => goal s'
    | .error f => fine f
  cases run : m s with
  | error f => exact first.of_error holds run
  | ok p => exact (rest p.1 (returns s p.1 p.2 holds run)).outcome p.2 (first.of_ok holds run)

/-- The state that is looked at has the invariant. -/
lemma get_bind {next : σ → StateT σ (Except Fault) β}
    (rest : ∀ s, inv s → Leads inv goal fine (next s)) :
    Leads inv goal fine (MonadState.get >>= next) :=
  ⟨fun s holds => (rest s holds).outcome s holds⟩

/-- The state that is looked at is the state from which the rest starts. -/
lemma get_bind_eq {next : σ → StateT σ (Except Fault) β}
    (rest : ∀ s, inv s → Leads (fun s' => s' = s) goal fine (next s)) :
    Leads inv goal fine (MonadState.get >>= next) :=
  ⟨fun s holds => (rest s holds).outcome s rfl⟩

lemma weaken {inv' goal' : σ → Prop} {m : StateT σ (Except Fault) α}
    (leads : Leads inv goal fine m) (before : ∀ s, inv' s → inv s) (after : ∀ s, goal s → goal' s) :
    Leads inv' goal' fine m := by
  refine ⟨fun s holds => ?_⟩
  cases run : m s with
  | error f => exact leads.of_error (before s holds) run
  | ok p => exact after p.2 (leads.of_ok (before s holds) run)

/-- A computation on a part of the state. -/
lemma zoom {τ : Type} (part : σ → τ) (put : σ → τ → σ) {partInv : τ → Prop}
    {m : StateT τ (Except Fault) α} (keeps : Keeps partInv fine m)
    (inside : ∀ s, inv s → partInv (part s)) (outside : ∀ s t, inv s → partInv t → inv (put s t)) :
    Keeps inv fine fun s => do
      let (a, t) ← m (part s)
      return (a, put s t) := by
  refine ⟨fun s holds => ?_⟩
  cases run : m (part s) with
  | error f =>
    exact keeps.of_error (inside s holds) run
  | ok p =>
    exact outside s p.2 holds (keeps.of_ok (inside s holds) run)

end Leads

namespace Keeps

instance foldlM {step : β → α → StateT σ (Except Fault) β}
    [each : ∀ b a, Keeps inv fine (step b a)] (l : List α) (b : β) :
    Keeps inv fine (l.foldlM step b) := by
  induction l generalizing b with
  | nil => exact Keeps.pure b
  | cons a l ih =>
    rw [List.foldlM_cons]
    exact (each b a).seq ih

instance mapM {f : α → StateT σ (Except Fault) β} [each : ∀ a, Keeps inv fine (f a)]
    (l : List α) : Keeps inv fine (l.mapM f) := by
  induction l with
  | nil => exact Keeps.pure _
  | cons a l ih =>
    rw [List.mapM_cons]
    infer_instance

instance forM {f : α → StateT σ (Except Fault) PUnit} [each : ∀ a, Keeps inv fine (f a)]
    (l : List α) : Keeps inv fine (l.forM f) := by
  induction l with
  | nil => exact Keeps.pure _
  | cons a l ih => exact (each a).seq fun _ => ih

end Keeps

namespace Returns

variable {property : α → Prop} {known : β → Prop}

lemma pure {a : α} (h : property a) : Returns inv property (pure a) := by
  intro s a' s' _ run
  cases run
  exact h

lemma throw (f : Fault) : Returns inv property (throw f) := by
  intro s a s' _ run
  cases run

lemma bind {m : StateT σ (Except Fault) β} {next : β → StateT σ (Except Fault) α}
    (first : Keeps inv fine m) (returns : Returns inv known m)
    (rest : ∀ b, known b → Returns inv property (next b)) : Returns inv property (m >>= next) := by
  intro s a s' holds run
  obtain ⟨b, s₁, begun, ended⟩ := bind_eq_ok run
  exact rest b (returns s b s₁ holds begun) s₁ a s' (first.of_ok holds begun) ended

/-- What is returned is settled by the rest alone. -/
lemma after {m : StateT σ (Except Fault) β} {next : β → StateT σ (Except Fault) α}
    (first : Keeps inv fine m) (rest : ∀ b, Returns inv property (next b)) :
    Returns inv property (m >>= next) := by
  intro s a s' holds run
  obtain ⟨b, s₁, begun, ended⟩ := bind_eq_ok run
  exact rest b s₁ a s' (first.of_ok holds begun) ended

lemma ite {p : Prop} [Decidable p] {m m' : StateT σ (Except Fault) α}
    (yes : p → Returns inv property m) (no : ¬ p → Returns inv property m') :
    Returns inv property (if p then m else m') := by
  by_cases h : p
  · rw [if_pos h]
    exact yes h
  · rw [if_neg h]
    exact no h

lemma zoom {τ : Type} (part : σ → τ) (put : σ → τ → σ) {partInv : τ → Prop}
    {m : StateT τ (Except Fault) α} (returns : Returns partInv property m)
    (inside : ∀ s, inv s → partInv (part s)) :
    Returns inv property fun s => do
      let (a, t) ← m (part s)
      return (a, put s t) := by
  intro s a s' holds run
  cases first : m (part s) with
  | error f =>
    simp only [first] at run
    cases run
  | ok p =>
    simp only [first] at run
    cases run
    exact returns (part s) p.1 p.2 (inside s holds) first

end Returns

end

/-! ## Characters -/

/-- A fault for bytes that cannot be decoded is permitted only before such bytes. -/
def Fault.Permitted (e : Ending) (f : Fault) : Prop := f = .undecodable → e = .undecodable

/-- The stream ends as stated, and no character in it is mistaken for its end. -/
structure Cursor.Sound (e : Ending) (c : Cursor) : Prop where
  ending : c.ending = e
  plain : nul ∉ c.rest
  limit : 0 < c.limit

/-- The reader keeps to a stream with this ending. -/
abbrev Scan.Safe {α : Type} (e : Ending) (m : Scan α) : Prop :=
  Keeps (Cursor.Sound e) (Fault.Permitted e) m

lemma Cursor.endFault?_eq_none {c : Cursor} : c.endFault? = none ↔ c.ending = .clean := by
  unfold endFault?
  cases c.ending <;> simp

lemma Cursor.Sound.permitted {e : Ending} {c : Cursor} {f : Fault} (sound : c.Sound e)
    (ends : c.endFault? = some f) : f.Permitted e := by
  rintro rfl
  rw [← sound.ending]
  unfold endFault? at ends
  cases h : c.ending <;> simp_all

namespace Scan

variable {e : Ending}

lemma safe_fault {α : Type} {f : Fault} (h : f.Permitted e) :
    Safe e (fault f : Scan α) := Leads.throw h

instance safe_fault_malformed {α : Type} (m : Mark) : Safe e (fault (.malformed m) : Scan α) :=
  safe_fault nofun

instance safe_malformed {α : Type} : Safe e (malformed : Scan α) := by
  unfold malformed
  infer_instance

instance safe_mark : Safe e mark := by
  unfold mark
  infer_instance

instance safe_need (n : Nat) : Safe e (need n) := by
  unfold need
  refine Leads.get_bind fun c sound => ?_
  cases ends : c.endFault? with
  | none => infer_instance
  | some f =>
    have permitted : Safe e (fault f : Scan Unit) := safe_fault (sound.permitted ends)
    infer_instance

instance safe_peekAt (n : Nat) : Safe e (peekAt n) := by
  unfold peekAt
  infer_instance

instance safe_peek : Safe e peek := safe_peekAt 0

lemma need_eq_ok {n : Nat} {c c' : Cursor} (run : need n c = .ok ((), c')) :
    c' = c ∧ (c.rest.drop n = [] → c.ending = .clean) := by
  obtain ⟨_, c₁, got, run⟩ := bind_eq_ok run
  cases got
  split at run
  · cases ends : c.endFault? with
    | none =>
      rw [ends] at run
      cases run
      exact ⟨rfl, fun _ => Cursor.endFault?_eq_none.mp ends⟩
    | some f =>
      rw [ends] at run
      cases run
  · rename_i more
    cases run
    exact ⟨rfl, fun empty => absurd (List.isEmpty_iff.mpr empty) more⟩

/-- Only a clean end is read as no character. -/
lemma returns_peek : Returns (Cursor.Sound e) (fun x => x = nul → e = .clean) peek := by
  intro c x c' sound run absent
  unfold peek peekAt at run
  obtain ⟨_, c₁, needed, read⟩ := bind_eq_ok run
  obtain ⟨rfl, clean⟩ := need_eq_ok needed
  cases read
  cases chars : c'.rest with
  | nil =>
    rw [← sound.ending]
    exact clean (by rw [chars, List.drop_nil])
  | cons y rest =>
    have first : y = nul := by simpa [chars] using absent
    have among : y ∈ c'.rest := by rw [chars]; exact List.mem_cons_self
    exact absurd (first ▸ among) sound.plain

instance safe_front (n : Nat) : Safe e (front n) := by
  unfold front
  infer_instance

lemma safe_moveOver (run : Text) {rest : Text} (plain : nul ∉ rest) :
    Safe e (moveOver run rest) := by
  unfold moveOver
  refine Leads.seq (Leads.modify fun c sound => ?_) fun _ => safe_need 0
  exact ⟨sound.ending, plain, sound.limit⟩

instance safe_forward (n : Nat) : Safe e (forward n) := by
  unfold forward
  refine Leads.get_bind fun c sound => safe_moveOver _ ?_
  exact fun mem => sound.plain (List.mem_of_mem_drop mem)

instance safe_takeWhile (p : Char → Bool) : Safe e (takeWhile p) := by
  unfold takeWhile
  refine Leads.get_bind fun c sound => Leads.seq (safe_moveOver _ ?_) fun _ => Keeps.pure _
  exact fun mem => sound.plain ((List.dropWhile_suffix p).mem mem)

instance safe_skipSpaces : Safe e skipSpaces := by
  unfold skipSpaces
  infer_instance

instance safe_skipComment : Safe e skipComment := by
  unfold skipComment
  infer_instance

instance safe_lineBreak? : Safe e lineBreak? := by
  unfold lineBreak?
  infer_instance

instance safe_atSeparator (indicator : Char) : Safe e (atSeparator indicator) := by
  unfold atSeparator
  infer_instance

instance safe_atAnySeparator : Safe e atAnySeparator := by
  unfold atAnySeparator
  infer_instance

instance safe_onlyIf {first : Bool} {test : Scan Bool} [Safe e test] :
    Safe e (onlyIf first test) := by
  unfold onlyIf
  infer_instance

/-! ## Block scalars -/

instance safe_chomping? : Safe e chomping? := by
  unfold chomping?
  infer_instance

instance safe_increment? : Safe e increment? := by
  unfold increment?
  infer_instance

instance safe_blockHeader : Safe e blockHeader := by
  unfold blockHeader
  infer_instance

instance safe_restOfLine : Safe e restOfLine := by
  unfold restOfLine
  infer_instance

instance safe_leadingBreaks (fuel : Nat) (breaks : Text) (widest : Nat) (stop : Mark) :
    Safe e (leadingBreaks fuel breaks widest stop) := by
  induction fuel generalizing breaks widest stop with
  | zero => exact Keeps.pure _
  | succ fuel ih =>
    unfold leadingBreaks
    refine .after fun spaces => .after fun c => .after fun lineBreak => ?_
    cases lineBreak <;> infer_instance

instance safe_skipIndent (indent : Nat) : Safe e (skipIndent indent) := by
  unfold skipIndent
  refine Leads.get_bind fun c sound => safe_moveOver _ ?_
  exact fun mem => sound.plain (List.mem_of_mem_drop mem)

instance safe_blockBreaks (indent fuel : Nat) (breaks : Text) (stop : Mark) :
    Safe e (blockBreaks indent fuel breaks stop) := by
  induction fuel generalizing breaks stop with
  | zero => exact Keeps.pure _
  | succ fuel ih =>
    unfold blockBreaks
    refine .after fun _ => .after fun lineBreak => ?_
    cases lineBreak <;> infer_instance

instance safe_atText (indent : Nat) : Safe e (atText indent) := by
  unfold atText
  infer_instance

instance safe_blockLines (folded : Bool) (indent fuel : Nat) (text breaks : Text) :
    Safe e (blockLines folded indent fuel text breaks) := by
  induction fuel generalizing text breaks with
  | zero =>
    unfold blockLines
    infer_instance
  | succ fuel ih =>
    unfold blockLines
    infer_instance

instance safe_block (folded : Bool) (outer : Int) : Safe e (block folded outer) := by
  unfold block
  refine .after fun _ => .after fun header => .after fun _ => .after fun c => ?_
  cases header.increment <;> infer_instance

/-! ## Names and directives -/

instance safe_anchorName : Safe e anchorName := by
  unfold anchorName
  infer_instance

instance safe_needHex (count seen : Nat) : Safe e (needHex count seen) := by
  induction count generalizing seen with
  | zero => exact Keeps.pure _
  | succ count ih =>
    unfold needHex
    infer_instance

instance safe_escapedBytes (fuel : Nat) (bytes : ByteArray) :
    Safe e (escapedBytes fuel bytes) := by
  induction fuel generalizing bytes with
  | zero => exact Keeps.pure _
  | succ fuel ih =>
    unfold escapedBytes
    infer_instance

instance safe_escapedText : Safe e escapedText := by
  unfold escapedText
  refine .after fun start => .after fun c => .after fun bytes => ?_
  cases Utf8.decode bytes <;> infer_instance

instance safe_identifierFrom (fuel : Nat) (text : Text) (empty : Bool) :
    Safe e (identifierFrom fuel text empty) := by
  induction fuel generalizing text empty with
  | zero => exact Keeps.pure _
  | succ fuel ih =>
    unfold identifierFrom
    infer_instance

instance safe_identifier : Safe e identifier := by
  unfold identifier
  infer_instance

instance safe_handle : Safe e handle := by
  unfold handle
  refine .after fun first => .check fun _ => ?_
  infer_instance

instance safe_usesHandle : Safe e usesHandle := by
  unfold usesHandle
  infer_instance

instance safe_tagName : Safe e tagName := by
  unfold tagName
  refine .after fun c => .after fun uses => ?_
  -- The ways of reading a name meet again in what follows it, which is settled once.
  extract_lets goOn
  have goes (name : TagName) : Safe e (goOn name) := inferInstance
  clear_value goOn
  infer_instance

instance safe_directiveName : Safe e directiveName := by
  unfold directiveName
  infer_instance

instance safe_directiveNumber : Safe e directiveNumber := by
  unfold directiveNumber
  refine .after fun digits => .check fun _ => ?_
  cases Decimal.readInt? 10 digits with
  | some n => infer_instance
  | none => exact safe_fault nofun

instance safe_versionDirective : Safe e versionDirective := by
  unfold versionDirective
  refine .after fun _ => .after fun major => .after fun point => .check fun _ => ?_
  infer_instance

instance safe_handleDirective : Safe e handleDirective := by
  unfold handleDirective
  refine .after fun _ => .after fun name => .after fun space => .check fun _ => ?_
  infer_instance

instance safe_directive : Safe e directive := by
  unfold directive
  refine .after fun _ => .after fun name => ?_
  extract_lets goOn
  have goes (d : Directive) : Safe e (goOn d) := inferInstance
  clear_value goOn
  infer_instance

/-! ## Plain scalars -/

lemma plainWordFrom_suffix (flow : Bool) (word s : Text) : (plainWordFrom flow word s).2 <:+ s := by
  fun_induction plainWordFrom flow word s with
  | case1 word => exact List.suffix_rfl
  | case2 word c s stops => exact List.suffix_rfl
  | case3 word c s goes ih => exact ih.trans (List.suffix_cons c s)

instance safe_plainWord (flow : Bool) : Safe e (plainWord flow) := by
  unfold plainWord
  refine Leads.get_bind fun c sound => ?_
  have plain : nul ∉ (plainWordFrom flow [] c.rest).2 :=
    fun mem => sound.plain ((plainWordFrom_suffix flow [] c.rest).mem mem)
  have moves : Safe e (moveOver (plainWordFrom flow [] c.rest).1.reverse _) := safe_moveOver _ plain
  infer_instance

instance safe_plainBreaks (fuel : Nat) (breaks : Text) : Safe e (plainBreaks fuel breaks) := by
  induction fuel generalizing breaks with
  | zero => exact Keeps.pure _
  | succ fuel ih =>
    unfold plainBreaks
    refine .after fun _ => .after fun lineBreak => ?_
    cases lineBreak <;> infer_instance

instance safe_plainGap : Safe e plainGap := by
  unfold plainGap
  refine .after fun spaces => .after fun lineBreak => ?_
  cases lineBreak with
  | none => infer_instance
  | some b =>
    refine .after fun separated => ?_
    split
    · infer_instance
    · refine .after fun c => .after fun breaks => ?_
      cases breaks <;> infer_instance

instance safe_plainFrom (flow : Bool) (indent : Int) (fuel : Nat) (text gap : Text)
    (stop : Mark) (broke : Bool) : Safe e (plainFrom flow indent fuel text gap stop broke) := by
  induction fuel generalizing text gap stop broke with
  | zero => exact Keeps.pure _
  | succ fuel ih =>
    unfold plainFrom
    infer_instance

instance safe_plain (flow : Bool) (indent : Int) : Safe e (plain flow indent) := by
  unfold plain
  infer_instance

/-! ## Quoted scalars -/

instance safe_charNumbered (n : Nat) : Safe e (charNumbered n) := by
  unfold charNumbered
  have large : Safe e (fault .escapeTooLarge : Scan Char) := safe_fault nofun
  have beyond : Safe e (fault .noValue : Scan Char) := safe_fault nofun
  infer_instance

instance safe_quotedBreaks (fuel : Nat) (breaks : Text) :
    Safe e (quotedBreaks fuel breaks) := by
  induction fuel generalizing breaks with
  | zero => exact Keeps.pure _
  | succ fuel ih =>
    unfold quotedBreaks
    refine .after fun separated => .check fun _ => .after fun _ => .after fun lineBreak => ?_
    cases lineBreak <;> infer_instance

instance safe_escape : Safe e escape := by
  unfold escape
  refine .after fun c => ?_
  split
  · infer_instance
  · infer_instance
  · refine .after fun lineBreak => ?_
    cases lineBreak <;> infer_instance

instance safe_quotedWord (double : Bool) (fuel : Nat) (text : Text) :
    Safe e (quotedWord double fuel text) := by
  induction fuel generalizing text with
  | zero => exact Keeps.pure _
  | succ fuel ih =>
    unfold quotedWord
    infer_instance

instance safe_quotedGap : Safe e quotedGap := by
  unfold quotedGap
  refine .after fun blanks => .after fun c => .check fun _ => .after fun lineBreak => ?_
  cases lineBreak <;> infer_instance

instance safe_quotedFrom (quote : Char) (fuel : Nat) (text : Text) :
    Safe e (quotedFrom quote fuel text) := by
  induction fuel generalizing text with
  | zero => exact Keeps.pure _
  | succ fuel ih =>
    unfold quotedFrom
    infer_instance

instance safe_quoted : Safe e quoted := by
  unfold quoted
  infer_instance

end Scan
end StyleGate.Yaml
