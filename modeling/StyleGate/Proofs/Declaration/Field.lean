import StyleGate.Proofs.Declaration.Signature

/-!
# Fields taken apart

The modifiers of a field could also be its type and its name, so the recogniser tries to read a type
and a name before every modifier. A line is recognised exactly when it can be cut into the parts of
a field in some way. With the parts of a signature this gives both grammars of declarations.
-/

namespace StyleGate.Declaration

open Text

/-- Modifiers of a field one after the other, each with the blanks behind it. -/
inductive Modifiers : Text → Prop
  | none : Modifiers []
  | more {k w m : Text} (keyword : k ∈ fieldModifiers) (gap : Gap w) (rest : Modifiers m) :
      Modifiers (k ++ (w ++ m))

/-- Nothing, or the mark of an assignment, blanks before it, and a value on the same line. -/
def Initial (v : Text) : Prop := v = [] ∨ ∃ g m, Blanks g ∧ '\n' ∉ m ∧ v = g ++ '=' :: m

/-! ## One recogniser at a time -/

theorem afterFieldModifier?_eq_some_iff {s r : Text} :
    afterFieldModifier? s = some r ↔ ∃ k w, k ∈ fieldModifiers ∧ Gap w ∧ Stops isBlank r ∧
      s = k ++ (w ++ r) := by
  constructor
  · intro h
    obtain ⟨k, hk, found⟩ := List.exists_of_findSome?_eq_some h
    obtain ⟨w, gap, stop, hs⟩ := afterKeyword?_eq_some_iff.mp found
    exact ⟨k, w, hk, gap, stop, hs⟩
  · rintro ⟨k, w, hk, gap, stop, rfl⟩
    exact findSome?_afterKeyword? (by decide) hk gap stop

theorem endsField_iff {s : Text} :
    endsField s = true ↔ ∃ v r, Initial v ∧ s = v ++ ';' :: r := by
  rw [endsField, Bool.or_eq_true, beq_iff_eq, List.head?_eq_some_iff]
  constructor
  · rintro (⟨r, rfl⟩ | h)
    · exact ⟨[], r, Or.inl rfl, rfl⟩
    · obtain ⟨g, blank, hs⟩ := exists_blanks_append_trimStart s
      split at h
      · rename_i t ht
        obtain ⟨m, r, line, rfl⟩ := (contains_firstLine_iff (by decide)).mp h
        refine ⟨g ++ '=' :: m, r, Or.inr ⟨g, m, blank, line, rfl⟩, ?_⟩
        rw [hs, ht, List.append_assoc, List.cons_append]
      · cases h
  · rintro ⟨v, r, rfl | ⟨g, m, blank, line, rfl⟩, rfl⟩
    · exact Or.inl ⟨r, rfl⟩
    · have start : trimStart (g ++ '=' :: m ++ ';' :: r) = '=' :: (m ++ ';' :: r) := by
        rw [List.append_assoc, List.cons_append]
        exact dropWhile_stretch blank (stops_cons (by decide) _)
      refine Or.inr ?_
      rw [start]
      exact (contains_firstLine_iff (by decide)).mpr ⟨m, r, line, rfl⟩

lemma Initial.stops {v : Text} (initial : Initial v) (r : Text) : Stops isWord (v ++ ';' :: r) := by
  rcases initial with rfl | ⟨g, m, blank, -, rfl⟩
  · exact stops_cons (by decide) r
  · rw [List.append_assoc, List.cons_append]
    exact stops_before (by decide) blank _

theorem headsField_iff {s : Text} :
    headsField s = true ↔ ∃ t g n v r, TypeText t ∧ Gap g ∧ Name n ∧ Initial v ∧
      s = t ++ (g ++ (n ++ (v ++ ';' :: r))) := by
  rw [headsField, Option.any_eq_true]
  constructor
  · rintro ⟨u, typed, ends⟩
    obtain ⟨t, g, n, type, gap, name, -, rfl⟩ := afterTypedName?_eq_some_iff.mp typed
    obtain ⟨v, r, initial, rfl⟩ := endsField_iff.mp ends
    exact ⟨t, g, n, v, r, type, gap, name, initial, rfl⟩
  · rintro ⟨t, g, n, v, r, type, gap, name, initial, rfl⟩
    refine ⟨v ++ ';' :: r, ?_, endsField_iff.mpr ⟨v, r, initial, rfl⟩⟩
    exact afterTypedName?_eq_some_iff.mpr ⟨t, g, n, type, gap, name, initial.stops r, rfl⟩

/-! ## Modifiers -/

/-- One step over a modifier, which is taken only if no field starts before it. -/
lemma fieldAfterModifiers_eq (s : Text) : fieldAfterModifiers s =
    (headsField s || (afterFieldModifier? s).any fieldAfterModifiers) := by
  rw [fieldAfterModifiers]
  split
  · rename_i h
    simp only [h, Option.any_none]
  · rename_i r h
    simp only [h, Option.any_some]

lemma Modifiers.stops {m h : Text} (modifiers : Modifiers m) (heads : headsField h = true) :
    Stops isBlank (m ++ h) := by
  cases modifiers with
  | none =>
    obtain ⟨t, g, n, v, r, type, -, -, -, rfl⟩ := headsField_iff.mp heads
    exact type.stops _
  | more keyword gap rest =>
    rw [List.append_assoc]
    exact stops_keyword (by decide) keyword _

lemma Modifiers.fieldAfterModifiers {m h : Text} (modifiers : Modifiers m)
    (heads : headsField h = true) : fieldAfterModifiers (m ++ h) = true := by
  induction modifiers with
  | none => rw [List.nil_append, fieldAfterModifiers_eq, heads, Bool.true_or]
  | @more k w m keyword gap rest ih =>
    have after : afterFieldModifier? (k ++ (w ++ m) ++ h) = some (m ++ h) := by
      refine afterFieldModifier?_eq_some_iff.mpr ⟨k, w, keyword, gap, rest.stops heads, ?_⟩
      simp
    rw [fieldAfterModifiers_eq, after, Option.any_some, ih, Bool.or_true]

lemma exists_modifiers {s : Text} (h : fieldAfterModifiers s = true) :
    ∃ m r, Modifiers m ∧ headsField r = true ∧ s = m ++ r := by
  induction len : s.length using Nat.strong_induction_on generalizing s with
  | _ n ih =>
    rw [fieldAfterModifiers_eq, Bool.or_eq_true, Option.any_eq_true] at h
    rcases h with heads | ⟨u, after, inner⟩
    · exact ⟨[], s, Modifiers.none, heads, rfl⟩
    · have shorter := length_lt_of_afterFieldModifier? after
      obtain ⟨m, r, modifiers, heads, rfl⟩ := ih _ (len ▸ shorter) inner rfl
      obtain ⟨k, w, keyword, gap, -, rfl⟩ := afterFieldModifier?_eq_some_iff.mp after
      exact ⟨k ++ (w ++ m), r, modifiers.more keyword gap, heads, by simp⟩

/-! ## The parts of a field -/

/-- A field cut into its parts. -/
structure Field where
  indent : Text
  access : Text
  gap : Text
  modifiers : Text
  type : Text
  typeGap : Text
  name : Text
  initial : Text
  tail : Text
  indent_blank : Blanks indent
  access_mem : access ∈ accessModifiers
  gap_blank : Gap gap
  modifiers_listed : Modifiers modifiers
  type_text : TypeText type
  typeGap_blank : Gap typeGap
  name_word : Name name
  initial_value : Initial initial

namespace Field

variable (p : Field)

/-- From the type on. -/
def heading : Text := p.type ++ (p.typeGap ++ (p.name ++ (p.initial ++ ';' :: p.tail)))

def text : Text := p.indent ++ (p.access ++ (p.gap ++ (p.modifiers ++ p.heading)))

lemma headsField_heading : headsField p.heading = true :=
  headsField_iff.mpr ⟨p.type, p.typeGap, p.name, p.initial, p.tail, p.type_text, p.typeGap_blank,
    p.name_word, p.initial_value, rfl⟩

lemma isField_text : isField p.text = true := by
  have access : afterAccess? p.text = some (p.modifiers ++ p.heading) :=
    afterAccess?_eq_some_iff.mpr ⟨p.indent, p.access, p.gap, p.indent_blank, p.access_mem,
      p.gap_blank, p.modifiers_listed.stops p.headsField_heading, rfl⟩
  rw [isField, access, Option.any_some]
  exact p.modifiers_listed.fieldAfterModifiers p.headsField_heading

end Field

theorem isField_iff {s : Text} : isField s = true ↔ ∃ p : Field, p.text = s := by
  constructor
  · intro h
    obtain ⟨u, after, inner⟩ := (Option.any_eq_true _ _).mp h
    obtain ⟨i, a, w, indent, access, gap, -, rfl⟩ := afterAccess?_eq_some_iff.mp after
    obtain ⟨m, r, modifiers, heads, rfl⟩ := exists_modifiers inner
    obtain ⟨t, g, n, v, tail, type, typeGap, name, initial, rfl⟩ := headsField_iff.mp heads
    exact ⟨⟨i, a, w, m, t, g, n, v, tail, indent, access, gap, modifiers, type, typeGap, name,
      initial⟩, rfl⟩
  · rintro ⟨p, rfl⟩
    exact p.isField_text

/-- A line is recognised exactly if it can be cut into the parts of a declaration: an access
modifier, perhaps `static`, a type, a name and parentheses that close on the same line for a
signature; an access modifier, modifiers, a type, a name, perhaps an initial value on the same line,
and a semicolon for a field. Anything may follow. -/
theorem declarations_recognised_by_parts (s : Text) :
    (isSignature s = true ↔ ∃ p : Signature, p.text = s) ∧
      (isField s = true ↔ ∃ p : Field, p.text = s) := by
  constructor
  · exact isSignature_iff
  · exact isField_iff

-- Here a modifier is the type, and in the field a second one is the name.
example : isSignature "public static Foo()".toList = true := by decide

example : isField "private const readonly = 3;".toList = true := by decide +kernel

end StyleGate.Declaration
