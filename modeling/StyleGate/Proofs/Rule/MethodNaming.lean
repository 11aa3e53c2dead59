import StyleGate.Analysis
import StyleGate.Proofs.Declaration.Signature

/-!
# The names of methods

One recogniser decides that a line is a signature, and another one looks for the name on it. The
word before the first parenthesis of the line is what both mean: every way to cut the line into the
parts of a signature has this word as the name, and the search finds it. The naming rule therefore
reports the signatures on which this word starts with a lowercase letter; the entry point never
does.
-/

namespace StyleGate

open Text

namespace Declaration

/-- The word characters right before the first parenthesis, blanks between them aside. -/
def wordBeforeParen (s : Text) : Text := (trimEnd (s.takeWhile (· != '('))).rtakeWhile isWord

/-- A word ends in a visible character. -/
lemma trimEnd_append_name {n : Text} (name : Name n) (u : Text) : trimEnd (u ++ n) = u ++ n := by
  obtain ⟨m, d, rfl⟩ := (List.eq_nil_or_concat' n).resolve_left name.1
  have hd : isBlank d = false := isBlank_of_isWord (name.2 d (by simp))
  rw [← List.append_assoc, trimEnd_append_cons hd]
  rfl

lemma wordBeforeParen_eq {u n g : Text} {c : Char} (closed : '(' ∉ u) (hc : isBlank c = true)
    (name : Name n) (blank : Blanks g) (r : Text) :
    wordBeforeParen (u ++ c :: (n ++ (g ++ '(' :: r))) = n := by
  have unopened : ∀ d ∈ u ++ c :: n ++ g, (d != '(') = true := by
    intro d hd
    rw [bne_iff_ne]
    rintro rfl
    simp only [List.mem_append, List.mem_cons] at hd
    rcases hd with (inFront | rfl | inName) | inGap
    · exact closed inFront
    · exact absurd hc (by decide)
    · exact absurd (name.2 _ inName) (by decide)
    · exact blank.not_mem (by decide) inGap
  have front : (u ++ c :: (n ++ (g ++ '(' :: r))).takeWhile (· != '(') = u ++ c :: n ++ g := by
    rw [← takeWhile_stretch unopened (stops_cons (c := '(') (by decide) r)]
    simp
  have visible : trimEnd (u ++ c :: n ++ g) = u ++ c :: n := by
    rw [trimEnd_append_blanks blank, ← List.singleton_append, ← List.append_assoc,
      trimEnd_append_name name]
  have back : (u ++ c :: n).reverse = n.reverse ++ c :: u.reverse := by simp
  have word : ∀ d ∈ n.reverse, isWord d = true := fun d hd => name.2 d (List.mem_reverse.mp hd)
  rw [wordBeforeParen, front, visible, List.rtakeWhile, back,
    takeWhile_stretch word (stops_cons (isWord_of_isBlank hc) _), List.reverse_reverse]

lemma Signature.wordBeforeParen_text (p : Signature) : wordBeforeParen p.text = p.name := by
  obtain ⟨u, c, closed, hc, text⟩ := p.exists_before_name
  rw [text]
  exact wordBeforeParen_eq closed hc p.name_word p.nameGap_blank _

lemma Signature.paren_mem_text (p : Signature) : '(' ∈ p.text := by
  obtain ⟨u, c, -, -, text⟩ := p.exists_before_name
  rw [text]
  simp

/-- The search for a name and every cut of the line agree on the word before the parenthesis. -/
theorem subroutineName?_of_isSignature {s : Text} (signature : isSignature s = true) :
    subroutineName? s = some (wordBeforeParen s) ∧ wordBeforeParen s ≠ [] := by
  obtain ⟨p, rfl⟩ := isSignature_iff.mp signature
  rw [p.wordBeforeParen_text]
  exact ⟨p.subroutineName?_text, p.name_word.1⟩

/-- The entry point starts with a capital. -/
lemma isEntryPoint_of_isLowercase {c : Char} (lower : isLowercase c = true) (cs : Text) :
    isEntryPoint (c :: cs) = false := by
  refine beq_false_of_ne fun entry => ?_
  obtain rfl : c = 'M' := (List.cons.inj entry).1
  exact absurd lower (by decide)

end Declaration

namespace Rule

open Declaration

/-- A signature whose name starts with a lowercase letter. -/
def lowercaseNamed (s : Text) : Bool :=
  isSignature s && (wordBeforeParen s).head?.any isLowercase

theorem misnamed?_eq (s : Text) :
    misnamed? s = if lowercaseNamed s then some (wordBeforeParen s) else none := by
  rw [misnamed?, lowercaseNamed]
  by_cases signature : isSignature s = true
  · obtain ⟨named, visible⟩ := subroutineName?_of_isSignature signature
    obtain ⟨c, cs, word⟩ := List.exists_cons_of_ne_nil visible
    rw [if_pos signature, named, word, signature]
    cases lower : isLowercase c with
    | false => simp [lower]
    | true => simp [lower, isEntryPoint_of_isLowercase lower]
  · simp [signature]

lemma isWord_of_mem_misnamed? {s w : Text} (found : misnamed? s = some w) :
    ∀ c ∈ w, isWord c = true := by
  rw [misnamed?_eq, Option.ite_none_right_eq_some] at found
  rw [← Option.some.inj found.2]
  intro c hc
  exact List.mem_rtakeWhile_imp hc

/-- One violation for each line that the judge has something to say about. -/
lemma eachLine_eq_map {judge : Line → Option String} {p : Line → Bool} {message : Line → String}
    (judged : ∀ l, judge l = if p l then some (message l) else none) (rule : Rule) (d : Document) :
    eachLine rule judge d =
      (d.lines.filter p).map fun l => ⟨rule.number, message l, some l.number⟩ := by
  rw [eachLine, ← List.filterMap_eq_map, List.filterMap_filter]
  refine List.filterMap_congr fun l _ => ?_
  rw [judged l]
  split
  · rfl
  · rfl

theorem checkMethodNaming_eq (d : Document) :
    check .methodNaming d = (d.lines.filter fun l => lowercaseNamed l.raw).map fun l =>
      ⟨methodNaming.number, methodNamingMessage (wordBeforeParen l.raw) l.number,
        some l.number⟩ := by
  refine eachLine_eq_map (fun l => ?_) methodNaming d
  rw [methodNamingAt, misnamed?_eq]
  split
  · rfl
  · rfl

end Rule

open Declaration

/-- On every signature the name that is found is the word before the first parenthesis of the line,
and it is the name in every cut of the line into the parts of a signature. The naming rule reports
the signatures on which this word starts with a lowercase letter, once each, from the top, with this
word. -/
theorem methods_named_by_word_before_paren :
    (∀ s : Text, isSignature s = true →
      '(' ∈ s ∧ wordBeforeParen s ≠ [] ∧ subroutineName? s = some (wordBeforeParen s) ∧
        ∀ p : Signature, p.text = s → p.name = wordBeforeParen s) ∧
    ∀ d : Document, Rule.check .methodNaming d =
      (d.lines.filter fun l =>
        isSignature l.raw && (wordBeforeParen l.raw).head?.any isLowercase).map fun l =>
          ⟨Rule.methodNaming.number, Rule.methodNamingMessage (wordBeforeParen l.raw) l.number,
            some l.number⟩ := by
  refine ⟨fun s signature => ?_, Rule.checkMethodNaming_eq⟩
  obtain ⟨named, visible⟩ := subroutineName?_of_isSignature signature
  obtain ⟨p, rfl⟩ := isSignature_iff.mp signature
  refine ⟨p.paren_mem_text, visible, named, ?_⟩
  intro q same
  rw [← same, q.wordBeforeParen_text]

/-- A method called `static` after its modifier, with parentheses among its parameters. -/
theorem name_of_method_called_static :
    isSignature "\tprivate static static (int a (b)) \x7b".toList = true ∧
      subroutineName? "\tprivate static static (int a (b)) \x7b".toList =
        some "static".toList := by
  have signature : isSignature "\tprivate static static (int a (b)) \x7b".toList = true := by decide
  obtain ⟨-, -, named, -⟩ := methods_named_by_word_before_paren.1 _ signature
  have word : wordBeforeParen "\tprivate static static (int a (b)) \x7b".toList =
      "static".toList := by decide
  rw [word] at named
  exact ⟨signature, named⟩

end StyleGate
