import Mathlib.Tactic.Common
import StyleGate.CommandLine.Options

/-!
# Asking for a first configuration file

A command line asks for a first configuration file only by a word of its own: the switch in full or
one of the beginnings of it that fit no other switch. No joined letters stand for it, and a word
that attaches a value to it is rejected.
-/

namespace StyleGate.CommandLine

/-- The switch for a first configuration file and all that it may be shortened to. -/
def initSpellings : List Text := ["--i".toList, "--in".toList, "--ini".toList, "--init".toList]

/-! ## One word -/

lemma mem_names_of_ofName? {s : Text} {switch : Switch} (found : Switch.ofName? s = some switch) :
    (s, switch) ∈ Switch.names := by
  obtain ⟨front, back, split, -⟩ := List.lookup_eq_some_iff.mp found
  rw [split]
  exact List.mem_append_right front List.mem_cons_self

lemma eq_init_of_mem_names {s : Text} (mem : (s, Switch.init) ∈ Switch.names) :
    s = "--init".toList := by
  simpa [Switch.names] using mem

/-- No letter stands for the switch. -/
lemma ofName?_letter_ne_init (c : Char) : Switch.ofName? ['-', c] ≠ some .init := by
  intro found
  have name := eq_init_of_mem_names (mem_names_of_ofName? found)
  have long : 2 = 6 := congrArg List.length name
  cases long

lemma eq_of_splitEquals_none {s start : Text} (split : Word.splitEquals s = (start, none)) :
    start = s := by
  unfold Word.splitEquals at split
  split at split
  · exact (Prod.mk.inj split).1.symm
  · cases split

/-- A word without a value is short only for names that it begins. -/
lemma of_mem_candidates {s name : Text} {switch : Switch} {attached : Option Text}
    (mem : (name, switch, attached) ∈ Word.candidates s) :
    (name, switch) ∈ Switch.names ∧ (attached = none → ['-', '-'] <+: s ∧ s <+: name) := by
  unfold Word.candidates at mem
  split at mem
  next tail =>
    obtain ⟨⟨name', switch'⟩, kept, same⟩ := List.mem_map.mp mem
    obtain ⟨listed, front⟩ := List.mem_filter.mp kept
    cases same
    refine ⟨listed, fun alone => ⟨⟨tail, rfl⟩, ?_⟩⟩
    rw [← eq_of_splitEquals_none (Prod.ext rfl alone)]
    exact List.isPrefixOf_iff_prefix.mp front
  next =>
    obtain ⟨⟨name', switch'⟩, kept, same⟩ := List.mem_map.mp mem
    cases same
    exact ⟨(List.mem_filter.mp kept).1, nofun⟩

/-- Two dashes begin every long name, so only longer beginnings stand for one switch. -/
lemma mem_initSpellings {s : Text} (front : s <+: "--init".toList) (dashes : ['-', '-'] <+: s)
    (more : s ≠ ['-', '-']) : s ∈ initSpellings := by
  obtain ⟨tail, rfl⟩ := dashes
  have nonempty : 0 < tail.length := by
    refine List.length_pos_iff.mpr ?_
    rintro rfl
    exact more rfl
  have bound := front.length_le
  have beginnings : ∀ n < 7, 2 < n → "--init".toList.take n ∈ initSpellings := by decide
  rw [List.prefix_iff_eq_take.mp front]
  refine beginnings _ (Nat.lt_succ_of_le bound) ?_
  rw [List.length_append]
  exact Nat.lt_add_of_pos_right nonempty

theorem mem_initSpellings_of_classify {s : Text} {short : Bool} {attached : Option Text}
    (more : s ≠ ['-', '-']) (read : Word.classify s = .ok (.switch .init short attached)) :
    short = false ∧ (attached = none → s ∈ initSpellings) := by
  have full {name : Text} (found : Switch.ofName? name = some .init) :
      name ∈ initSpellings ∧ Word.isShort name = false := by
    rw [eq_init_of_mem_names (mem_names_of_ofName? found)]
    decide
  have other (read : Word.classifyOther s = .ok (.switch .init short attached)) :
      short = false ∧ (attached = none → s ∈ initSpellings) := by
    unfold Word.classifyOther at read
    split at read
    next name switch value found =>
      cases read
      obtain ⟨listed, alone⟩ := of_mem_candidates (found ▸ List.mem_singleton_self _)
      obtain rfl := eq_init_of_mem_names listed
      exact ⟨rfl, fun none => mem_initSpellings (alone none).2 (alone none).1 more⟩
    · split at read <;> cases read
    · cases read
  unfold Word.classify at read
  split at read
  · cases read
  · split at read
    next switch found =>
      cases read
      exact ⟨(full found).2, fun _ => (full found).1⟩
    · split at read
      · cases read
      · split at read
        next name value _ =>
          split at read
          next switch found =>
            cases read
            exact ⟨(full found).2, nofun⟩
          · exact other read
        · exact other read

/-! ## All words -/

/-- The word does not ask for a first configuration file: if it stands for the switch at all, a
value is attached to it. -/
def Word.Silent (w : Word) : Prop :=
  ∀ short attached, w.kind = .switch .init short attached → short = false ∧ attached ≠ none

lemma bind_eq_ok {ε α β : Type} {x : Except ε α} {f : α → Except ε β} {b : β}
    (h : x >>= f = .ok b) : ∃ a, x = .ok a ∧ f a = .ok b := by
  cases x with
  | error e => cases h
  | ok a => exact ⟨a, rfl, h⟩

lemma silent_of_classifyAll {args : List Text} {words : List Word}
    (unasked : ∀ a ∈ args, a ∉ initSpellings) (read : Word.classifyAll args = .ok words) :
    ∀ w ∈ words, w.Silent := by
  induction args generalizing words with
  | nil =>
    cases read
    exact fun w mem => absurd mem List.not_mem_nil
  | cons s rest ih =>
    rw [Word.classifyAll] at read
    split at read
    · cases read
      intro w mem short attached kind
      rcases List.mem_cons.mp mem with rfl | mem
      · cases kind
      · obtain ⟨a, -, rfl⟩ := List.mem_map.mp mem
        cases kind
    next more =>
      obtain ⟨kind, classified, read⟩ := bind_eq_ok read
      obtain ⟨words, others, read⟩ := bind_eq_ok read
      cases read
      intro w mem
      rcases List.mem_cons.mp mem with rfl | mem
      · intro short attached same
        obtain rfl : kind = _ := same
        obtain ⟨long, spelled⟩ := mem_initSpellings_of_classify (by simpa using more) classified
        exact ⟨long, fun alone => unasked s List.mem_cons_self (spelled alone)⟩
      · exact ih (fun a mem => unasked a (List.mem_cons_of_mem s mem)) others w mem

/-! ## Reading them -/

/-- The switches of a word are others. -/
def Expansion.Silent (e : Expansion) : Prop := .init ∉ e.switches ∧ e.last ≠ .init

lemma of_letter {short : Bool} {c : Char} {next : Switch}
    (letter : (if _ : short = true then Switch.ofName? ['-', c] else none) = some next) :
    short = true ∧ next ≠ .init := by
  split at letter
  next isShort =>
    refine ⟨isShort, ?_⟩
    rintro rfl
    exact ofName?_letter_ne_init c letter
  · cases letter

lemma silent_of_expand {switch : Switch} {short : Bool} {attached : Text} {e : Expansion}
    (long : switch = .init → short = false) (read : expand switch short attached = .ok e) :
    e.Silent := by
  fun_induction expand switch short attached generalizing e with
  | case1 switch short attached takesValue =>
    cases read
    refine ⟨List.not_mem_nil, ?_⟩
    rintro rfl
    cases takesValue
  | case2 => cases read
  | case3 => cases read
  | case4 switch short _ c next letter =>
    cases read
    obtain ⟨rfl, other⟩ := of_letter letter
    have first : switch ≠ .init := fun same => absurd (long same) (by decide)
    exact ⟨by simpa using first.symm, other⟩
  | case5 switch short _ c next d rest letter ih =>
    obtain ⟨rfl, other⟩ := of_letter letter
    have first : switch ≠ .init := fun same => absurd (long same) (by decide)
    cases expanded : expand next true (d :: rest) with
    | error complaint =>
      rw [expanded] at read
      cases read
    | ok inner =>
      rw [expanded] at read
      cases read
      obtain ⟨switches, last⟩ := ih (fun same => absurd same other) expanded
      exact ⟨by simpa using ⟨first.symm, switches⟩, last⟩

lemma silent_of_expansionOf {switch : Switch} {short : Bool} {attached : Option Text}
    {e : Expansion} (silent : switch = .init → short = false ∧ attached ≠ none)
    (read : expansionOf switch short attached = .ok e) : e.Silent := by
  cases attached with
  | none =>
    cases read
    exact ⟨List.not_mem_nil, fun same => (silent same).2 rfl⟩
  | some value => exact silent_of_expand (fun same => (silent same).1) read

/-- A value for the last switch changes none of the switches and takes at most a word. -/
lemma silent_of_supply {e e' : Expansion} {rest rest' : List Word} (silent : e.Silent)
    (supplied : supply e rest = .ok (e', rest')) : e'.Silent ∧ ∀ w ∈ rest', w ∈ rest := by
  unfold supply at supplied
  split at supplied
  · cases supplied
    exact ⟨silent, fun w mem => mem⟩
  · split at supplied
    · cases supplied
      exact ⟨silent, fun w mem => List.mem_cons_of_mem _ mem⟩
    · cases supplied

lemma act_init {o o' : Options} {switch : Switch} {value : Option Text} (other : switch ≠ .init)
    (acted : act o switch value = .ok o') : o'.init = o.init := by
  cases switch with
  | help | version => cases acted
  | config | noColour | showRules | validate =>
    cases acted
    rfl
  | init => exact absurd rfl other

lemma foldlM_act_init {o o' : Options} {switches : List Switch} (others : .init ∉ switches)
    (acted : switches.foldlM (fun o s => act o s none) o = .ok o') : o'.init = o.init := by
  induction switches generalizing o with
  | nil =>
    cases acted
    rfl
  | cons switch switches ih =>
    rw [List.mem_cons, not_or] at others
    rw [List.foldlM_cons] at acted
    obtain ⟨next, first, acted⟩ := bind_eq_ok acted
    exact (ih others.2 acted).trans (act_init (Ne.symm others.1) first)

lemma actAll_init {o o' : Options} {e : Expansion} (silent : e.Silent)
    (acted : actAll o e = .ok o') : o'.init = o.init := by
  obtain ⟨next, first, last⟩ := bind_eq_ok acted
  exact (act_init silent.2 last).trans (foldlM_act_init silent.1 first)

lemma mapError_eq_ok {ε ε' α : Type} {f : ε → ε'} {x : Except ε α} {a : α}
    (h : x.mapError f = .ok a) : x = .ok a := by
  cases x with
  | error e => cases h
  | ok b =>
    cases h
    rfl

lemma readSwitch_init {r r' : Reading} {switch : Switch} {short : Bool} {attached : Option Text}
    {rest rest' : List Word} (silent : switch = .init → short = false ∧ attached ≠ none)
    (read : readSwitch r switch short attached rest = .ok (r', rest')) :
    r'.options.init = r.options.init ∧ ∀ w ∈ rest', w ∈ rest := by
  obtain ⟨e, expanded, read⟩ := bind_eq_ok read
  obtain ⟨⟨e', rest''⟩, supplied, read⟩ := bind_eq_ok read
  obtain ⟨options, acted, read⟩ := bind_eq_ok read
  cases read
  have first := silent_of_expansionOf silent (mapError_eq_ok expanded)
  obtain ⟨whole, kept⟩ := silent_of_supply first (mapError_eq_ok supplied)
  exact ⟨actAll_init whole acted, kept⟩

lemma readTail_init (r : Reading) (words : List Word) :
    (readTail r words).options.init = r.options.init := by
  unfold readTail takePath
  split
  next chosen rest picked =>
    split at picked
    · cases picked
      rfl
    · split at picked
      all_goals
        cases picked
        rfl

/-- Words that do not ask leave the option as it is. -/
theorem readWords_init {fuel : Nat} {r r' : Reading} {words : List Word}
    (silent : ∀ w ∈ words, w.Silent) (read : readWords fuel r words = .ok r') :
    r'.options.init = r.options.init := by
  induction fuel generalizing r words with
  | zero =>
    cases read
    rfl
  | succ fuel ih =>
    unfold readWords at read
    split at read
    · cases read
      exact readTail_init r words
    · cases words with
      | nil =>
        cases read
        rfl
      | cons w rest =>
        have first := silent w List.mem_cons_self
        have others : ∀ v ∈ rest, v.Silent := fun v mem => silent v (List.mem_cons_of_mem w mem)
        simp only at read
        split at read
        next switch short attached kind =>
          obtain ⟨⟨next, rest'⟩, one, read⟩ := bind_eq_ok read
          obtain ⟨kept, fewer⟩ := readSwitch_init (by rintro rfl; exact first _ _ kind) one
          exact (ih (fun v mem => others v (fewer v mem)) read).trans kept
        · exact (ih others read).trans rfl
        · split at read
          · exact (ih others read).trans rfl
          · exact (ih others read).trans rfl

lemma init_eq_false_of_parse {args : List Text} {o : Options}
    (unasked : ∀ a ∈ args, a ∉ initSpellings) (parsed : parse args = .run o) : o.init = false := by
  unfold parse at parsed
  split at parsed
  · cases parsed
  next words classified =>
    split at parsed
    next stop _ => cases stop <;> cases parsed
    next r read =>
      unfold finish at parsed
      split at parsed
      · cases parsed
        exact readWords_init (silent_of_classifyAll unasked classified) read
      · cases parsed

/-- The command line asks for a first configuration file. -/
def AsksInit (args : List Text) : Prop := ∃ o, parse args = .run o ∧ o.init = true

/-- It does so by one of the spellings of the switch. -/
theorem exists_spelling_of_asksInit {args : List Text} (asks : AsksInit args) :
    ∃ a ∈ args, a ∈ initSpellings := by
  obtain ⟨o, parsed, asked⟩ := asks
  by_contra unasked
  have silent := init_eq_false_of_parse (fun a mem spelled => unasked ⟨a, mem, spelled⟩) parsed
  rw [asked] at silent
  cases silent

-- Behind a separator the switch is a path.
example : parse ["--no-color".toList, "--ini".toList] = .run { noColour := true, init := true } ∧
    parse ["--".toList, "--init".toList] = .run { path := some "--init".toList } := by
  decide +kernel

end StyleGate.CommandLine
