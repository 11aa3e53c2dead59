import StyleGate.Declaration
import StyleGate.Proofs.Text.Trimming

/-!
# Signatures taken apart

A signature is a sequence of parts, and a line is recognised as one exactly when it can be cut into
such parts. The cut shows that the name search stops at the signature's own name, and that blanks
around the line change neither the verdict nor the name.
-/

namespace StyleGate.Declaration

open Text

/-- At least one blank. -/
def Gap (w : Text) : Prop := w ≠ [] ∧ Blanks w

/-- A type as it is written. -/
def TypeText (t : Text) : Prop := t ≠ [] ∧ ∀ c ∈ t, isTypeChar c = true

/-- A name as it is written. -/
def Name (n : Text) : Prop := n ≠ [] ∧ ∀ c ∈ n, isWord c = true

lemma isTypeChar_of_isBlank {c : Char} (h : isBlank c = true) : isTypeChar c = false :=
  eq_false_of_isBlank (by decide +kernel) h

lemma isBlank_of_isTypeChar {c : Char} (h : isTypeChar c = true) : isBlank c = false :=
  isBlank_eq_false (fun _ => isTypeChar_of_isBlank) h

lemma Gap.stops {p : Char → Bool} (separate : ∀ c, isBlank c = true → p c = false) {w : Text}
    (gap : Gap w) (s : Text) : Stops p (w ++ s) :=
  stops_append gap.1 (fun c hc => separate c (gap.2 c hc)) s

lemma TypeText.stops {t : Text} (type : TypeText t) (s : Text) : Stops isBlank (t ++ s) :=
  stops_append type.1 (fun c hc => isBlank_of_isTypeChar (type.2 c hc)) s

lemma Name.stops {n : Text} (name : Name n) (s : Text) : Stops isBlank (n ++ s) :=
  stops_append name.1 (fun c hc => isBlank_of_isWord (name.2 c hc)) s

/-! ## One recogniser at a time -/

theorem afterKeyword?_eq_some_iff {k s r : Text} :
    afterKeyword? k s = some r ↔ ∃ w, Gap w ∧ Stops isBlank r ∧ s = k ++ (w ++ r) := by
  constructor
  · intro h
    unfold afterKeyword? at h
    split at h
    · rename_i hk
      obtain ⟨t, rfl⟩ := List.isPrefixOf_iff_prefix.mp hk
      rw [List.drop_left] at h
      cases t with
      | nil => cases h
      | cons c t =>
        by_cases hc : isBlank c = true
        · simp only [hc, if_true, Option.some.injEq] at h
          obtain ⟨v, hv, ht⟩ := exists_blanks_append_trimStart t
          refine ⟨c :: v, ⟨by simp, ?_⟩, ?_, ?_⟩
          · intro d hd
            rcases List.mem_cons.mp hd with rfl | hd
            · exact hc
            · exact hv d hd
          · rw [← h]
            exact stops_dropWhile isBlank t
          · rw [← h, List.cons_append, ← ht]
        · simp [hc] at h
    · cases h
  · rintro ⟨w, ⟨visible, blank⟩, stop, rfl⟩
    obtain ⟨c, w, rfl⟩ := List.exists_cons_of_ne_nil visible
    have hc : isBlank c = true := blank c List.mem_cons_self
    have rest : Blanks w := fun d hd => blank d (List.mem_cons_of_mem c hd)
    have front : k.isPrefixOf (k ++ (c :: w ++ r)) = true :=
      List.isPrefixOf_iff_prefix.mpr (List.prefix_append k _)
    rw [afterKeyword?, if_pos front, List.drop_left, List.cons_append]
    simp only [hc, if_true]
    rw [trimStart, dropWhile_stretch rest stop]

/-- A keyword without blanks ends the blanks before it. -/
lemma stops_keyword {ks : List Text}
    (visible : ∀ k ∈ ks, k ≠ [] ∧ (k.all fun c => !isBlank c) = true) {k : Text} (hk : k ∈ ks)
    (r : Text) : Stops isBlank (k ++ r) := by
  obtain ⟨nonempty, solid⟩ := visible k hk
  exact stops_append nonempty (by simpa using solid) r

/-- If no keyword begins another one, at most one of them stands at the front. -/
lemma afterKeyword?_unique {ks : List Text} (apart : ∀ a ∈ ks, ∀ b ∈ ks, a <+: b → a = b)
    {a b t r : Text} (ha : a ∈ ks) (hb : b ∈ ks) (h : afterKeyword? a (b ++ t) = some r) :
    a = b := by
  obtain ⟨w, -, -, hs⟩ := afterKeyword?_eq_some_iff.mp h
  have front : a <+: b ++ t := hs ▸ List.prefix_append a (w ++ r)
  rcases List.prefix_or_prefix_of_prefix front (List.prefix_append b t) with h | h
  · exact apart a ha b hb h
  · exact (apart b hb a ha h).symm

lemma findSome?_afterKeyword? {ks : List Text} (apart : ∀ a ∈ ks, ∀ b ∈ ks, a <+: b → a = b)
    {a w r : Text} (ha : a ∈ ks) (gap : Gap w) (stop : Stops isBlank r) :
    ks.findSome? (afterKeyword? · (a ++ (w ++ r))) = some r := by
  have found : afterKeyword? a (a ++ (w ++ r)) = some r :=
    afterKeyword?_eq_some_iff.mpr ⟨w, gap, stop, rfl⟩
  -- Some keyword is found, and only `a` can be.
  cases hf : ks.findSome? (afterKeyword? · (a ++ (w ++ r))) with
  | none =>
    have hnone := List.findSome?_eq_none_iff.mp hf a ha
    rw [found] at hnone
    cases hnone
  | some r' =>
    obtain ⟨b, hb, hr'⟩ := List.exists_of_findSome?_eq_some hf
    have same := afterKeyword?_unique apart hb ha hr'
    rw [same, found] at hr'
    exact hr'.symm

theorem afterAccess?_eq_some_iff {s r : Text} :
    afterAccess? s = some r ↔ ∃ v a w, Blanks v ∧ a ∈ accessModifiers ∧ Gap w ∧
      Stops isBlank r ∧ s = v ++ (a ++ (w ++ r)) := by
  constructor
  · intro h
    obtain ⟨a, ha, hk⟩ := List.exists_of_findSome?_eq_some h
    obtain ⟨w, gap, stop, hs⟩ := afterKeyword?_eq_some_iff.mp hk
    obtain ⟨v, hv, hv'⟩ := exists_blanks_append_trimStart s
    exact ⟨v, a, w, hv, ha, gap, stop, by rw [← hs]; exact hv'⟩
  · rintro ⟨v, a, w, hv, ha, gap, stop, rfl⟩
    have start : trimStart (v ++ (a ++ (w ++ r))) = a ++ (w ++ r) :=
      dropWhile_stretch hv (stops_keyword (by decide) ha (w ++ r))
    rw [afterAccess?, start]
    exact findSome?_afterKeyword? (by decide) ha gap stop

theorem afterTypedName?_eq_some_iff {s r : Text} :
    afterTypedName? s = some r ↔ ∃ t g n, TypeText t ∧ Gap g ∧ Name n ∧
      Stops isWord r ∧ s = t ++ (g ++ (n ++ r)) := by
  constructor
  · intro h
    unfold afterTypedName? at h
    dsimp only at h
    split at h
    · cases h
    · rename_i visible
      simp only [Bool.or_eq_true, List.isEmpty_iff, not_or] at visible
      obtain ⟨⟨type, gap⟩, name⟩ := visible
      obtain rfl := Option.some.inj h
      refine ⟨_, _, _, ⟨type, fun c hc => List.mem_takeWhile_imp hc⟩,
        ⟨gap, fun c hc => List.mem_takeWhile_imp hc⟩,
        ⟨name, fun c hc => List.mem_takeWhile_imp hc⟩, stops_dropWhile isWord _, ?_⟩
      rw [List.takeWhile_append_dropWhile, trimStart, List.takeWhile_append_dropWhile,
        List.takeWhile_append_dropWhile]
  · rintro ⟨t, g, n, type, gap, name, stop, rfl⟩
    have endType := gap.stops (fun c => isTypeChar_of_isBlank) (n ++ r)
    have endGap := name.stops r
    unfold afterTypedName?
    dsimp only
    rw [dropWhile_stretch type.2 endType, takeWhile_stretch type.2 endType,
      takeWhile_stretch gap.2 endGap, trimStart, dropWhile_stretch gap.2 endGap,
      takeWhile_stretch name.2 stop, dropWhile_stretch name.2 stop, if_neg]
    simp [type.1, gap.1, name.1]

/-- A character stands on the first line if no line feed comes before it. -/
lemma contains_firstLine_iff {c : Char} (hc : c ≠ '\n') {s : Text} :
    (firstLine s).contains c = true ↔ ∃ m r, '\n' ∉ m ∧ s = m ++ c :: r := by
  constructor
  · intro h
    obtain ⟨m, m', hm⟩ := List.append_of_mem (List.contains_iff_mem.mp h)
    have line : '\n' ∉ m := by
      intro hn
      have first : '\n' ∈ firstLine s := by
        rw [hm]
        simp [hn]
      simpa using List.mem_takeWhile_imp first
    refine ⟨m, m' ++ s.dropWhile (· != '\n'), line, ?_⟩
    have whole : firstLine s ++ s.dropWhile (· != '\n') = s :=
      List.takeWhile_append_dropWhile
    conv_lhs => rw [← whole, hm]
    simp
  · rintro ⟨m, r, line, rfl⟩
    have stay : ∀ d ∈ m, (d != '\n') = true := by
      intro d hd
      refine bne_iff_ne.mpr fun h => line (h ▸ hd)
    rw [firstLine, List.takeWhile_append_of_pos stay]
    simp [hc]

theorem opensParameters_iff {s : Text} :
    opensParameters s = true ↔ ∃ g m r, Blanks g ∧ '\n' ∉ m ∧ s = g ++ '(' :: (m ++ ')' :: r) := by
  constructor
  · intro h
    unfold opensParameters at h
    obtain ⟨g, blank, hs⟩ := exists_blanks_append_trimStart s
    split at h
    · rename_i t ht
      obtain ⟨m, r, line, rfl⟩ := (contains_firstLine_iff (by decide)).mp h
      exact ⟨g, m, r, blank, line, by rw [← ht, ← hs]⟩
    · cases h
  · rintro ⟨g, m, r, blank, line, rfl⟩
    have start : trimStart (g ++ '(' :: (m ++ ')' :: r)) = '(' :: (m ++ ')' :: r) :=
      dropWhile_stretch blank (stops_cons (by decide) _)
    rw [opensParameters, start]
    exact (contains_firstLine_iff (by decide)).mpr ⟨m, r, line, rfl⟩

/-- A mark that is no word character ends a word, with or without blanks before it. -/
lemma stops_before {c : Char} (hc : isWord c = false) {g : Text} (blank : Blanks g) (r : Text) :
    Stops isWord (g ++ c :: r) := by
  cases g with
  | nil => exact stops_cons hc r
  | cons d g => exact stops_cons (isWord_of_isBlank (blank d List.mem_cons_self)) _

/-! ## The parts of a signature -/

/-- A signature cut into its parts; `modifier` is empty or `static` with the blanks after it. -/
structure Signature where
  indent : Text
  access : Text
  gap : Text
  modifier : Text
  type : Text
  typeGap : Text
  name : Text
  nameGap : Text
  parameters : Text
  tail : Text
  indent_blank : Blanks indent
  access_mem : access ∈ accessModifiers
  gap_blank : Gap gap
  modifier_static : modifier = [] ∨ ∃ w, Gap w ∧ modifier = "static".toList ++ w
  type_text : TypeText type
  typeGap_blank : Gap typeGap
  name_word : Name name
  nameGap_blank : Blanks nameGap
  parameters_line : '\n' ∉ parameters

namespace Signature

variable (p : Signature)

/-- From the name's end on. -/
def afterName : Text := p.nameGap ++ '(' :: (p.parameters ++ ')' :: p.tail)

/-- From the type on. -/
def heading : Text := p.type ++ (p.typeGap ++ (p.name ++ p.afterName))

def text : Text := p.indent ++ (p.access ++ (p.gap ++ (p.modifier ++ p.heading)))

lemma afterName_stops : Stops isWord p.afterName :=
  stops_before (by decide) p.nameGap_blank _

lemma headsSubroutine_heading : headsSubroutine p.heading = true := by
  have typed : afterTypedName? p.heading = some p.afterName :=
    afterTypedName?_eq_some_iff.mpr ⟨p.type, p.typeGap, p.name, p.type_text, p.typeGap_blank,
      p.name_word, p.afterName_stops, rfl⟩
  rw [headsSubroutine, typed]
  exact opensParameters_iff.mpr
    ⟨p.nameGap, p.parameters, p.tail, p.nameGap_blank, p.parameters_line, rfl⟩

lemma modifier_stops : Stops isBlank (p.modifier ++ p.heading) := by
  rcases p.modifier_static with h | ⟨w, -, h⟩
  · rw [h]
    exact p.type_text.stops _
  · rw [h]
    exact stops_cons (by decide) _

lemma isSignature_text : isSignature p.text = true := by
  have access : afterAccess? p.text = some (p.modifier ++ p.heading) :=
    afterAccess?_eq_some_iff.mpr ⟨p.indent, p.access, p.gap, p.indent_blank, p.access_mem,
      p.gap_blank, p.modifier_stops, rfl⟩
  rw [isSignature, access, Option.any_some]
  rcases p.modifier_static with h | ⟨w, gap, h⟩
  · rw [h, List.nil_append, p.headsSubroutine_heading, Bool.true_or]
  · have static : afterKeyword? "static".toList (p.modifier ++ p.heading) = some p.heading :=
      afterKeyword?_eq_some_iff.mpr
        ⟨w, gap, p.type_text.stops _, by rw [h, List.append_assoc]⟩
    rw [static, Option.any_some, p.headsSubroutine_heading, Bool.or_true]

end Signature

lemma exists_signature {v a w m r : Text} (indent : Blanks v) (access : a ∈ accessModifiers)
    (gap : Gap w) (modifier : m = [] ∨ ∃ w, Gap w ∧ m = "static".toList ++ w)
    (h : headsSubroutine r = true) : ∃ p : Signature, p.text = v ++ (a ++ (w ++ (m ++ r))) := by
  obtain ⟨u, hu, opens⟩ := (Option.any_eq_true _ _).mp h
  obtain ⟨t, g, n, type, typeGap, name, -, rfl⟩ := afterTypedName?_eq_some_iff.mp hu
  obtain ⟨g', ps, tl, nameGap, line, rfl⟩ := opensParameters_iff.mp opens
  exact ⟨⟨v, a, w, m, t, g, n, g', ps, tl, indent, access, gap, modifier, type, typeGap, name,
    nameGap, line⟩, rfl⟩

theorem isSignature_iff {s : Text} : isSignature s = true ↔ ∃ p : Signature, p.text = s := by
  constructor
  · intro h
    obtain ⟨r, hr, heads⟩ := (Option.any_eq_true _ _).mp h
    obtain ⟨v, a, w, indent, access, gap, -, rfl⟩ := afterAccess?_eq_some_iff.mp hr
    rcases (Bool.or_eq_true _ _).mp heads with heads | heads
    · exact exists_signature indent access gap (Or.inl rfl) heads
    · obtain ⟨r', hr', inner⟩ := (Option.any_eq_true _ _).mp heads
      obtain ⟨w', gap', -, rfl⟩ := afterKeyword?_eq_some_iff.mp hr'
      rw [← List.append_assoc "static".toList w' r']
      exact exists_signature indent access gap (Or.inr ⟨w', gap', rfl⟩) inner
  · rintro ⟨p, rfl⟩
    exact p.isSignature_text

/-! ## The name of a signature -/

/-- A word is no name if, up to the first parenthesis, another word follows. -/
lemma nameAtFront?_eq_none {u n r : Text} {c : Char} (closed : '(' ∉ u) (hc : isBlank c = true)
    (name : Name n) : nameAtFront? (u ++ c :: (n ++ r)) = none := by
  have left : opensParen (u.dropWhile isWord) = false := by
    cases h : opensParen (u.dropWhile isWord) with
    | false => rfl
    | true =>
      exact False.elim (closed ((List.dropWhile_sublist isWord).subset (mem_of_opensParen h)))
  have right : opensParen (n ++ r) = false := by
    obtain ⟨d, n, rfl⟩ := List.exists_cons_of_ne_nil name.1
    have hd : isWord d = true := name.2 d List.mem_cons_self
    rw [List.cons_append, opensParen_cons (isBlank_of_isWord hd)]
    refine beq_false_of_ne fun h => ?_
    rw [h] at hd
    exact absurd hd (by decide)
  rw [nameAtFront?, dropWhile_append_cons (isWord_of_isBlank hc), opensParen_across hc, left, right]
  simp

lemma nameAtFront?_eq_some {n g : Text} (name : Name n) (blank : Blanks g) (r : Text) :
    nameAtFront? (n ++ (g ++ '(' :: r)) = some n := by
  have stop := stops_before (c := '(') (by decide) blank r
  have opens : opensParen (g ++ '(' :: r) = true := by
    rw [opensParen_blanks_append blank, opensParen_cons (by decide)]
    rfl
  rw [nameAtFront?, takeWhile_stretch name.2 stop, dropWhile_stretch name.2 stop, opens]
  simp [name.1]

/-- The name search stops at the word before the first parenthesis. -/
theorem subroutineName?_eq {u n g : Text} {c : Char} (closed : '(' ∉ u) (hc : isBlank c = true)
    (name : Name n) (blank : Blanks g) (r : Text) :
    subroutineName? (u ++ c :: (n ++ (g ++ '(' :: r))) = some n := by
  induction u with
  | nil => rw [List.nil_append, subroutineName?, if_pos hc, nameAtFront?_eq_some name blank]
  | cons d u ih =>
    have rest : '(' ∉ u := fun h => closed (List.mem_cons_of_mem d h)
    rw [List.cons_append, subroutineName?]
    by_cases hd : isBlank d = true
    · rw [if_pos hd, nameAtFront?_eq_none rest hc name]
      exact ih rest
    · rw [if_neg hd]
      exact ih rest

namespace Signature

variable (p : Signature)

/-- No parenthesis stands before the name. -/
lemma closed_before_name {g : Text} (blank : Blanks g) :
    '(' ∉ p.indent ++ (p.access ++ (p.gap ++ (p.modifier ++ (p.type ++ g)))) := by
  have access : ∀ a ∈ accessModifiers, '(' ∉ a := by decide
  have modifier : '(' ∉ p.modifier := by
    rcases p.modifier_static with h | ⟨w, gap, h⟩
    · simp [h]
    · rw [h, List.mem_append, not_or]
      exact ⟨by decide, gap.2.not_mem (by decide)⟩
  have type : '(' ∉ p.type := by
    intro h
    exact absurd (p.type_text.2 _ h) (by decide)
  simp only [List.mem_append, not_or]
  exact ⟨p.indent_blank.not_mem (by decide), access _ p.access_mem,
    p.gap_blank.2.not_mem (by decide), modifier, type, blank.not_mem (by decide)⟩

/-- A blank stands before the name, and no parenthesis before that. -/
lemma exists_before_name : ∃ u c, '(' ∉ u ∧ isBlank c = true ∧
    p.text = u ++ c :: (p.name ++ (p.nameGap ++ '(' :: (p.parameters ++ ')' :: p.tail))) := by
  obtain ⟨g, c, hg⟩ := (List.eq_nil_or_concat' p.typeGap).resolve_left p.typeGap_blank.1
  have hc : isBlank c = true := p.typeGap_blank.2 c (by rw [hg]; simp)
  have hb : Blanks g := fun d hd => p.typeGap_blank.2 d (by rw [hg]; simp [hd])
  refine ⟨_, c, p.closed_before_name hb, hc, ?_⟩
  simp [text, heading, afterName, hg]

lemma subroutineName?_text : subroutineName? p.text = some p.name := by
  obtain ⟨u, c, closed, hc, text⟩ := p.exists_before_name
  rw [text]
  exact subroutineName?_eq closed hc p.name_word p.nameGap_blank _

/-- Blanks before a signature, and whatever stands after it, belong to its outer parts. -/
def pad {v : Text} (hv : Blanks v) (w : Text) : Signature :=
  { p with
    indent := v ++ p.indent
    tail := p.tail ++ w
    indent_blank := hv.append p.indent_blank }

lemma text_pad {v : Text} (hv : Blanks v) (w : Text) :
    (p.pad hv w).text = v ++ (p.text ++ w) := by
  simp [pad, text, heading, afterName]

/-- The signature without the blanks around it. -/
def trimmed : Signature :=
  { p with
    indent := []
    tail := trimEnd p.tail
    indent_blank := blanks_nil }

lemma text_trimmed : p.trimmed.text = trim p.text := by
  have start : trimStart p.text = p.access ++ (p.gap ++ (p.modifier ++ p.heading)) :=
    dropWhile_stretch p.indent_blank (stops_keyword (by decide) p.access_mem _)
  have close : p.access ++ (p.gap ++ (p.modifier ++ p.heading)) =
      (p.access ++ (p.gap ++ (p.modifier ++ (p.type ++ (p.typeGap ++ (p.name ++
        (p.nameGap ++ '(' :: p.parameters))))))) ++ ')' :: p.tail := by
    simp [heading, afterName]
  rw [trim, start, close, trimEnd_append_cons (by decide)]
  simp [trimmed, text, heading, afterName]

end Signature

/-! ## Signatures and blanks -/

/-- Blanks around a line do not make or unmake a signature. -/
theorem isSignature_trim (s : Text) : isSignature (trim s) = isSignature s := by
  rw [Bool.eq_iff_iff, isSignature_iff, isSignature_iff]
  constructor
  · rintro ⟨p, hp⟩
    obtain ⟨v, w, hv, -, hs⟩ := exists_blanks_trim_blanks s
    exact ⟨p.pad hv w, by rw [p.text_pad, hp, ← hs]⟩
  · rintro ⟨p, rfl⟩
    exact ⟨p.trimmed, p.text_trimmed⟩

/-- On a signature they do not change the name either. -/
theorem subroutineName?_trim {s : Text} (h : isSignature s = true) :
    subroutineName? (trim s) = subroutineName? s := by
  obtain ⟨p, rfl⟩ := isSignature_iff.mp h
  rw [← p.text_trimmed, p.trimmed.subroutineName?_text, p.subroutineName?_text]
  rfl

end StyleGate.Declaration
