import Mathlib.Data.List.Basic
import StyleGate.Files.Writing
import StyleGate.Proofs.Files.Overlong

/-!
# Writing a new file

A new file is written only into a directory that is there. The world then has one more file, at the
path that was asked for, and every other place is as it was: whatever could be reached by a path is
still reached. If writing fails after the file was made, the file stays, with a beginning of what it
was to hold.
-/

namespace StyleGate

/-! ## A tree with a new entry -/

namespace FileTree

variable {t t' : FileTree} {place parts : List String} {entry : Entry}

/-- Putting entries in place of those with this path changes nothing else. -/
lemma lookup_replace (place q : List String) (entry : Entry) (l : List (List String × Entry)) :
    (l.map fun (p, old) => if p == place then (p, entry) else (p, old)).lookup q =
      if q = place then (l.lookup q).map fun _ => entry else l.lookup q := by
  induction l with
  | nil => simp
  | cons head l ih =>
    obtain ⟨p, old⟩ := head
    dsimp only at ih
    simp only [List.map_cons]
    by_cases same : p = place
    · rw [if_pos (beq_iff_eq.mpr same), List.lookup_cons, List.lookup_cons, ih]
      cases here : q == p with
      | true => simp [(beq_iff_eq.mp here).trans same]
      | false => rfl
    · rw [if_neg (mt beq_iff_eq.mp same), List.lookup_cons, List.lookup_cons, ih]
      cases here : q == p with
      | true =>
        have other : q ≠ place := fun found => same ((beq_iff_eq.mp here).symm.trans found)
        simp [other]
      | false => rfl

lemma find?_insert_self (named : place ≠ []) (entry : Entry) :
    (t.insert place entry).find? place = some entry := by
  rw [find?, if_neg (by simpa using named), insert]
  split
  next there =>
    obtain ⟨⟨p, old⟩, mem, same⟩ := List.any_eq_true.mp there
    obtain rfl := beq_iff_eq.mp same
    have found : (t.entries.lookup p).isSome := by
      rw [Option.isSome_iff_ne_none]
      intro none
      simpa using List.lookup_eq_none_iff.mp none _ mem
    obtain ⟨e, found⟩ := Option.isSome_iff_exists.mp found
    rw [lookup_replace, if_pos rfl, found]
    rfl
  next absent =>
    have none : t.entries.lookup place = none := by
      refine List.lookup_eq_none_iff.mpr fun pair mem => ?_
      rw [bne_iff_ne]
      rintro rfl
      exact absent (List.any_eq_true.mpr ⟨pair, mem, beq_self_eq_true _⟩)
    simp [List.lookup_append, none]

lemma find?_insert_of_ne (entry : Entry) {q : List String} (other : q ≠ place) :
    (t.insert place entry).find? q = t.find? q := by
  have unlike : (q == place) = false := beq_false_of_ne other
  have same : (t.insert place entry).entries.lookup q = t.entries.lookup q := by
    rw [insert]
    split
    · rw [lookup_replace, if_neg other]
    · simp [List.lookup_append, List.lookup_cons, unlike]
  rw [find?, find?, same]

/-! ## Following parts in a larger tree -/

/-- Whatever is in the first tree is in the second one too. -/
def Within (t t' : FileTree) : Prop := ∀ place e, t.find? place = some e → t'.find? place = some e

lemma within_of_others (absent : t.find? place = none)
    (others : ∀ q, q ≠ place → t'.find? q = t.find? q) : t.Within t' := by
  intro q e there
  have other : q ≠ place := by
    rintro rfl
    rw [absent] at there
    cases there
  rw [others q other]
  exact there

lemma follow_of_within (within : t.Within t') {found : List String × Entry}
    (reached : t.follow place entry parts = .ok found) :
    t'.follow place entry parts = .ok found := by
  induction parts generalizing place entry with
  | nil => exact reached
  | cons part rest ih =>
    cases entry with
    | file content => cases reached
    | directory =>
      rw [follow] at reached ⊢
      split
      next up =>
        rw [if_pos up] at reached
        exact ih reached
      next down =>
        rw [if_neg down] at reached
        split
        next long =>
          rw [if_pos long] at reached
          cases reached
        next short =>
          rw [if_neg short] at reached
          cases there : t.find? (place ++ [part]) with
          | none =>
            rw [there] at reached
            cases reached
          | some e =>
            rw [there] at reached
            rw [within _ e there]
            exact ih reached

lemma follow_append (front rest : List String) : t.follow place entry (front ++ rest) =
    (t.follow place entry front).bind fun (p, e) => t.follow p e rest := by
  induction front generalizing place entry with
  | nil => rfl
  | cons part front ih =>
    cases entry with
    | file content => rfl
    | directory =>
      rw [List.cons_append, follow, follow]
      split
      · exact ih
      · split
        · rfl
        · cases t.find? (place ++ [part]) with
          | none => rfl
          | some e => exact ih

/-- A name that leads nowhere, and not for its length, can be given to a new entry. -/
lemma absent_of_follow {name : String} {f : PathFault}
    (failed : t.follow place .directory [name] = .error f) (short : f ≠ .tooLong) :
    t.find? (place ++ [name]) = none ∧ ∀ t' : FileTree, ∀ e,
      t'.find? (place ++ [name]) = some e →
        t'.follow place .directory [name] = .ok (place ++ [name], e) := by
  rw [follow] at failed
  split at failed
  · cases failed
  next down =>
    split at failed
    · exact False.elim (short (Except.error.inj failed).symm)
    next fits =>
      constructor
      · cases there : t.find? (place ++ [name]) with
        | none => rfl
        | some e =>
          rw [there] at failed
          cases failed
      · intro t' e there
        rw [follow, if_neg down, if_neg fits, there]
        rfl

end FileTree

/-! ## A world with one more file -/

namespace World

variable {w w' : World} {p : Path} {content : ByteArray}

/-- A path is refused for what it is, or it is followed in whatever tree there is. -/
lemma locate_cases (w : World) (p : Path) :
    w.locate p = .error .holdsNul ∨ w.locate p = .error .tooLong ∨
      ∀ t, { w with tree := t }.locate p = t.follow (w.origin p) .directory p.parts := by
  by_cases nul : p.toString.contains '\x00' = true
  · exact Or.inl (by rw [locate, if_pos nul])
  · by_cases long : p.toString.utf8ByteSize > longestPath
    · exact Or.inr (Or.inl (by rw [locate, if_neg nul, if_pos long]))
    · refine Or.inr (Or.inr fun t => ?_)
      rw [locate, if_neg nul, if_neg long]
      rfl

/-- A path that leads somewhere is not refused in another tree either. -/
lemma locate_of_reached {found : List String × Entry} (reached : w.locate p = .ok found)
    (t : FileTree) :
    { w with tree := t }.locate p = t.follow (w.origin p) .directory p.parts := by
  rcases w.locate_cases p with nul | long | followed
  · cases nul.symm.trans reached
  · cases long.symm.trans reached
  · exact followed t

/-- The path leads to a file or a directory. -/
def Has (w : World) (p : Path) : Prop := ∃ found, w.locate p = .ok found

lemma HoldsFile.has (holds : w.HoldsFile p content) : w.Has p := by
  obtain ⟨place, located⟩ := holds
  exact ⟨_, located⟩

/-- The second world has one file more, at this path and with this content, and is otherwise the
first one. -/
def GainsFile (w w' : World) (p : Path) (content : ByteArray) : Prop :=
  ∃ place, w.tree.find? place = none ∧ w'.locate p = .ok (place, .file content) ∧
    (∀ q, q ≠ place → w'.tree.find? q = w.tree.find? q) ∧ w' = { w with tree := w'.tree }

lemma GainsFile.holdsFile (gains : GainsFile w w' p content) : w'.HoldsFile p content := by
  obtain ⟨place, -, located, -⟩ := gains
  exact ⟨place, located⟩

lemma GainsFile.within (gains : GainsFile w w' p content) : w.tree.Within w'.tree := by
  obtain ⟨place, absent, -, others, -⟩ := gains
  exact FileTree.within_of_others absent others

/-- What could be reached by a path is still reached, and has not changed. -/
theorem GainsFile.locate_eq (gains : GainsFile w w' p content) {q : Path}
    {found : List String × Entry} (reached : w.locate q = .ok found) :
    w'.locate q = .ok found := by
  have within := gains.within
  obtain ⟨-, -, -, -, same⟩ := gains
  have before : w.tree.follow (w.origin q) .directory q.parts = .ok found :=
    (locate_of_reached reached w.tree).symm.trans reached
  rw [same, locate_of_reached reached]
  exact FileTree.follow_of_within within before

end World

/-! ## Writing step by step -/

/-- The fault comes before there is a file. -/
def WriteFault.Early : WriteFault → Prop
  | .path _ => True
  | .notMade => True
  | .noRoom => False
  | .modeNotSet => False

namespace Writing

variable {w : World} {p : Path} {disk : Disk} {content : ByteArray} {spot : List String}

lemma get_bind {α : Type} (next : World → Writing α) : (get >>= next) w = next w w := rfl

lemma bind_of_ok {α β : Type} {m : Writing α} {next : α → Writing β} {a : α} {w' : World}
    (done : m w = .ok a w') : (m >>= next) w = next a w' := by
  change EStateM.bind m next w = _
  rw [EStateM.bind, done]

lemma bind_of_error {α β : Type} {m : Writing α} {next : α → Writing β} {f : WriteFault}
    {w' : World} (failed : m w = .error f w') : (m >>= next) w = .error f w' := by
  change EStateM.bind m next w = _
  rw [EStateM.bind, failed]

/-- A place for a file at a path that leads nowhere: there is nothing yet, and what is put there is
what the path leads to. -/
structure Vacant (w : World) (p : Path) (spot : List String) : Prop where
  named : spot ≠ []
  absent : w.tree.find? spot = none
  reaches : ∀ t : FileTree, (∀ q, q ≠ spot → t.find? q = w.tree.find? q) →
    ∀ e, t.find? spot = some e → { w with tree := t }.locate p = .ok (spot, e)

/-- A path that ends for want of an entry has a last part, and what it leads to depends on the tree
alone. -/
lemma exists_last {f : PathFault} (failed : w.locate p = .error f) (plain : f ≠ .holdsNul)
    (short : f ≠ .tooLong) : ∃ name, p.parts = p.parts.dropLast ++ [name] ∧
      ∀ t, { w with tree := t }.locate p = t.follow (w.origin p) .directory p.parts := by
  rcases w.locate_cases p with nul | long | followed
  · exact False.elim (plain (Except.error.inj (failed.symm.trans nul)))
  · exact False.elim (short (Except.error.inj (failed.symm.trans long)))
  · rcases List.eq_nil_or_concat' p.parts with empty | ⟨front, name, split⟩
    · have here : w.locate p = .ok (w.origin p, .directory) := by
        rw [show w.locate p = _ from followed w.tree, empty]
        rfl
      rw [here] at failed
      cases failed
    · exact ⟨name, by rw [split, List.dropLast_concat], followed⟩

/-- In a directory that is there, a path that ends for want of an entry has a place. -/
theorem vacant_of_entered {f : PathFault} (failed : w.locate p = .error f) (plain : f ≠ .holdsNul)
    (short : f ≠ .tooLong) {place : List String}
    (entered : w.locate ⟨p.slashes, p.parts.dropLast⟩ = .ok (place, .directory)) :
    Vacant w p (place ++ p.parts.getLast?.toList) := by
  obtain ⟨name, split, followed⟩ := exists_last failed plain short
  have last : p.parts.getLast?.toList = [name] := by
    rw [split, List.getLast?_concat]
    rfl
  rw [last]
  have entered : w.tree.follow (w.origin p) .directory p.parts.dropLast =
      .ok (place, .directory) := (World.locate_of_reached entered w.tree).symm.trans entered
  have ended : w.tree.follow place .directory [name] = .error f := by
    have whole := (followed w.tree).symm.trans failed
    rw [split, FileTree.follow_append, entered] at whole
    exact whole
  obtain ⟨absent, reaches⟩ := FileTree.absent_of_follow ended short
  refine ⟨List.append_ne_nil_of_right_ne_nil _ (List.cons_ne_nil _ _), absent, ?_⟩
  intro t others e there
  -- The directory is entered as before, and now the name is found in it.
  rw [followed, split, FileTree.follow_append,
    FileTree.follow_of_within (FileTree.within_of_others absent others) entered]
  exact reaches t e there

/-- Files may be put in the place one after the other; the last one counts. -/
lemma Vacant.gainsFile (vacant : Vacant w p spot) {t : FileTree}
    (others : ∀ q, q ≠ spot → t.find? q = w.tree.find? q) :
    w.GainsFile { w with tree := t.insert spot (.file content) } p content := by
  have kept (q : List String) (other : q ≠ spot) :
      (t.insert spot (.file content)).find? q = w.tree.find? q :=
    (FileTree.find?_insert_of_ne _ other).trans (others q other)
  refine ⟨spot, vacant.absent, ?_, kept, rfl⟩
  exact vacant.reaches _ kept _ (FileTree.find?_insert_self vacant.named _)

/-- A file can be made at the path: the system allows it, the directory is there, and the path is
not refused for what it is. -/
structure Makeable (disk : Disk) (w : World) (p : Path) : Prop where
  allowed : disk.makesFile = true
  entered : ∃ place, w.locate ⟨p.slashes, p.parts.dropLast⟩ = .ok (place, .directory)
  plain : w.locate p ≠ .error .holdsNul
  short : w.locate p ≠ .error .tooLong

lemma makeFile_cases {f : PathFault} (disk : Disk) (failed : w.locate p = .error f)
    (plain : f ≠ .holdsNul) (short : f ≠ .tooLong) :
    (∃ g : WriteFault, g.Early ∧ ¬ Makeable disk w p ∧ makeFile disk p w = .error g w) ∨
      ∃ spot, Vacant w p spot ∧
        makeFile disk p w = .ok spot { w with tree := w.tree.insert spot (.file .empty) } := by
  rw [makeFile, get_bind]
  cases entered : w.locate ⟨p.slashes, p.parts.dropLast⟩ with
  | error g =>
    refine Or.inl ⟨.path g, trivial, fun makeable => ?_, rfl⟩
    obtain ⟨place, found⟩ := makeable.entered
    cases entered.symm.trans found
  | ok found =>
    obtain ⟨place, entry⟩ := found
    cases entry with
    | file content =>
      refine Or.inl ⟨.path .notDirectory, trivial, fun makeable => ?_, rfl⟩
      obtain ⟨place, found⟩ := makeable.entered
      cases entered.symm.trans found
    | directory =>
      cases makes : disk.makesFile with
      | false =>
        refine Or.inl ⟨.notMade, trivial, fun makeable => ?_, rfl⟩
        cases makes.symm.trans makeable.allowed
      | true => exact Or.inr ⟨_, vacant_of_entered failed plain short entered, rfl⟩

/-- The content is written as far as there is room. -/
lemma fill_cases (disk : Disk) (spot : List String) (content : ByteArray) (w : World) :
    (∃ n, disk.room = some n ∧ n < content.size ∧ fill disk spot content w =
      .error .noRoom { w with tree := w.tree.insert spot (.file (content.extract 0 n)) }) ∨
    (∀ n, disk.room = some n → content.size ≤ n) ∧
      fill disk spot content w = .ok () { w with tree := w.tree.insert spot (.file content) } := by
  have step : fill disk spot content w =
      (if disk.room.getD content.size < content.size then throw WriteFault.noRoom
        else pure () : Writing Unit) { w with
          tree := w.tree.insert spot (.file (content.extract 0 (disk.room.getD content.size))) } :=
    rfl
  rw [step]
  by_cases lacking : disk.room.getD content.size < content.size
  · rw [if_pos lacking]
    cases limited : disk.room with
    | none =>
      rw [limited] at lacking
      exact False.elim (Nat.lt_irrefl _ lacking)
    | some n =>
      rw [limited] at lacking
      exact Or.inl ⟨n, rfl, lacking, rfl⟩
  · have whole : content.extract 0 (disk.room.getD content.size) = content := by
      ext1
      simpa using Or.inr (Nat.le_of_not_lt lacking)
    rw [if_neg lacking, whole]
    refine Or.inr ⟨fun n limited => ?_, rfl⟩
    rw [limited] at lacking
    exact Nat.le_of_not_lt lacking

/-- What writing a new file can come to, where `a` is returned for a file that is all there. -/
inductive Outcome {α : Type} (disk : Disk) (w : World) (p : Path) (content : ByteArray) (a : α) :
    EStateM.Result WriteFault World α → Prop
  | refused {f : WriteFault} (early : f.Early) (barred : ¬ Makeable disk w p) :
      Outcome disk w p content a (.error f w)
  | cut {n : Nat} {w' : World} (limited : disk.room = some n) (lacking : n < content.size)
      (gains : w.GainsFile w' p (content.extract 0 n)) :
      Outcome disk w p content a (.error .noRoom w')
  | unset {w' : World} (fits : ∀ n, disk.room = some n → content.size ≤ n)
      (fails : disk.setsMode = false) (gains : w.GainsFile w' p content) :
      Outcome disk w p content a (.error .modeNotSet w')
  | written {w' : World} (fits : ∀ n, disk.room = some n → content.size ≤ n)
      (sets : disk.setsMode = true) (gains : w.GainsFile w' p content) :
      Outcome disk w p content a (.ok a w')

lemma Outcome.thenReturn {α β : Type} {m : Writing α} {a : α}
    (outcome : Outcome disk w p content a (m w)) (b : β) :
    Outcome disk w p content b ((m >>= fun _ => pure b) w) := by
  cases result : m w with
  | error f w' =>
    rw [bind_of_error result]
    rw [result] at outcome
    cases outcome with
    | refused early barred => exact .refused early barred
    | cut limited lacking gains => exact .cut limited lacking gains
    | unset fits fails gains => exact .unset fits fails gains
  | ok a' w' =>
    rw [bind_of_ok result]
    rw [result] at outcome
    cases outcome with
    | written fits sets gains => exact .written fits sets gains

theorem outcome_newFile {f : PathFault} (disk : Disk) (content : ByteArray)
    (failed : w.locate p = .error f) (plain : f ≠ .holdsNul) (short : f ≠ .tooLong) :
    Outcome disk w p content () (newFile disk p content w) := by
  rw [newFile]
  rcases makeFile_cases disk failed plain short with
    ⟨g, early, barred, refused⟩ | ⟨spot, vacant, made⟩
  · rw [bind_of_error refused]
    exact .refused early barred
  · have others (q : List String) (other : q ≠ spot) :
        (w.tree.insert spot (.file .empty)).find? q = w.tree.find? q :=
      FileTree.find?_insert_of_ne _ other
    rw [bind_of_ok made]
    rcases fill_cases disk spot content _ with ⟨n, limited, lacking, cut⟩ | ⟨fits, filled⟩
    · rw [bind_of_error cut]
      exact .cut limited lacking (vacant.gainsFile others)
    · rw [bind_of_ok filled]
      cases sets : disk.setsMode with
      | false =>
        have unset : setMode disk = throw WriteFault.modeNotSet := by
          rw [setMode, sets]
          rfl
        rw [unset]
        exact .unset fits sets (vacant.gainsFile others)
      | true =>
        have set : setMode disk = pure () := by
          rw [setMode, sets]
          rfl
        rw [set]
        exact .written fits sets (vacant.gainsFile others)

end Writing

end StyleGate
