import StyleGate.Files.Tree
import StyleGate.Proofs.Text.Utf8

/-!
# Paths that are too long

The system refuses to look a path up in two cases: the whole path is too long, or following it comes
to a name that is too long in a directory that is there. A missing directory, a file in the way or
the NUL character is noticed before, and then the path simply does not exist.
-/

namespace StyleGate

/-- Following the parts from the first place stays in directories and ends at the second place. -/
inductive FileTree.Enters (t : FileTree) : List String → List String → List String → Prop
  | here (place : List String) : Enters t place [] place
  | up {place parts target : List String} (rest : Enters t place.dropLast parts target) :
      Enters t place (".." :: parts) target
  | down {place parts target : List String} {part : String} (named : part ≠ "..")
      (short : part.utf8ByteSize ≤ longestName)
      (there : t.find? (place ++ [part]) = some .directory)
      (rest : Enters t (place ++ [part]) parts target) : Enters t place (part :: parts) target

/-- A name that is too long comes up in a directory that the parts before it enter. -/
def FileTree.MeetsLongName (t : FileTree) (place parts : List String) : Prop :=
  ∃ front name rest target, parts = front ++ name :: rest ∧ t.Enters place front target ∧
    name ≠ ".." ∧ longestName < name.utf8ByteSize

/-- The place from which a path is followed. -/
def World.origin (w : World) (p : Path) : List String := if p.slashes == 0 then w.cwd else []

/-- The system refuses to say whether the path exists. -/
def World.Overlong (w : World) (p : Path) : Prop :=
  '\x00' ∉ p.toString.toList ∧
    (World.longestPath < p.toString.utf8ByteSize ∨ w.tree.MeetsLongName (w.origin p) p.parts)

/-- A regular file with this content is at the path. -/
def World.HoldsFile (w : World) (p : Path) (content : ByteArray) : Prop :=
  ∃ place, w.locate p = .ok (place, .file content)

namespace FileTree

/-! ## Following parts -/

lemma follow_file_ne_tooLong (t : FileTree) (place : List String) (content : ByteArray)
    (parts : List String) : t.follow place (.file content) parts ≠ .error .tooLong := by
  cases parts with
  | nil => simp [follow]
  | cons part rest => simp [follow]

lemma meetsLongName_nil (t : FileTree) (place : List String) : ¬ t.MeetsLongName place [] := by
  rintro ⟨front, name, rest, target, split, -⟩
  simp at split

lemma meetsLongName_up (t : FileTree) (place parts : List String) :
    t.MeetsLongName place (".." :: parts) ↔ t.MeetsLongName place.dropLast parts := by
  constructor
  · rintro ⟨front, name, rest, target, split, enters, named, long⟩
    cases enters with
    | here =>
      rw [List.nil_append, List.cons.injEq] at split
      exact False.elim (named split.1.symm)
    | up enters =>
      rw [List.cons_append, List.cons.injEq] at split
      exact ⟨_, name, rest, target, split.2, enters, named, long⟩
    | down named' short there enters =>
      rw [List.cons_append, List.cons.injEq] at split
      exact False.elim (named' split.1.symm)
  · rintro ⟨front, name, rest, target, rfl, enters, named, long⟩
    exact ⟨".." :: front, name, rest, target, rfl, .up enters, named, long⟩

lemma meetsLongName_long {t : FileTree} {place parts : List String} {part : String}
    (named : part ≠ "..") (long : longestName < part.utf8ByteSize) :
    t.MeetsLongName place (part :: parts) :=
  ⟨[], part, parts, place, rfl, .here place, named, long⟩

lemma meetsLongName_down {t : FileTree} {place parts : List String} {part : String}
    (named : part ≠ "..") (short : part.utf8ByteSize ≤ longestName) :
    t.MeetsLongName place (part :: parts) ↔ t.find? (place ++ [part]) = some .directory ∧
      t.MeetsLongName (place ++ [part]) parts := by
  constructor
  · rintro ⟨front, name, rest, target, split, enters, named', long⟩
    cases enters with
    | here =>
      rw [List.nil_append, List.cons.injEq] at split
      rw [split.1] at short
      omega
    | up enters =>
      rw [List.cons_append, List.cons.injEq] at split
      exact False.elim (named split.1)
    | down _ _ there enters =>
      rw [List.cons_append, List.cons.injEq] at split
      obtain ⟨rfl, split⟩ := split
      exact ⟨there, _, name, rest, target, split, enters, named', long⟩
  · rintro ⟨there, front, name, rest, target, rfl, enters, named', long⟩
    exact ⟨part :: front, name, rest, target, rfl, .down named short there enters, named', long⟩

/-- Following parts from a directory gives up for the length of a name exactly when it meets one. -/
theorem follow_eq_tooLong_iff (t : FileTree) (place parts : List String) :
    t.follow place .directory parts = .error .tooLong ↔ t.MeetsLongName place parts := by
  induction parts generalizing place with
  | nil => simp [follow, meetsLongName_nil]
  | cons part parts ih =>
    by_cases up : part = ".."
    · subst up
      rw [meetsLongName_up, ← ih]
      simp [follow]
    · by_cases long : longestName < part.utf8ByteSize
      · simp [follow, up, long, meetsLongName_long up long]
      · rw [meetsLongName_down up (Nat.le_of_not_lt long), ← ih]
        simp only [follow, beq_iff_eq, if_neg up, gt_iff_lt, if_neg long]
        cases found : t.find? (place ++ [part]) with
        | none => simp
        | some entry =>
          cases entry with
          | directory => simp
          | file content => simp [follow_file_ne_tooLong]

end FileTree

/-! ## A path of one name -/

lemma Path.piecesFrom_unslashed {s : Text} (unslashed : '/' ∉ s) (piece : Text)
    (done : List Text) : piecesFrom piece done s = done.reverse ++ [piece.reverse ++ s] := by
  induction s generalizing piece with
  | nil => simp [piecesFrom]
  | cons c s ih =>
    have other : c ≠ '/' := fun same => unslashed (same ▸ List.mem_cons_self)
    have rest : '/' ∉ s := fun later => unslashed (List.mem_cons_of_mem c later)
    rw [piecesFrom, if_neg (by simpa using other), ih rest]
    simp

lemma Path.ofText_unslashed {s : Text} (unslashed : '/' ∉ s) (long : 1 < s.length) :
    ofText s = ⟨0, [String.ofList s]⟩ := by
  have relative : rootSlashes s = 0 := by
    cases s with
    | nil => rfl
    | cons c s =>
      have other : c ≠ '/' := fun same => unslashed (same ▸ List.mem_cons_self)
      simp [rootSlashes, other]
  have nonempty : s ≠ [] := by
    rintro rfl
    simp at long
  have undotted : s ≠ ['.'] := by
    rintro rfl
    simp at long
  rw [ofText, relative, piecesFrom_unslashed unslashed]
  simp [nonempty, undotted]

lemma Path.toString_one (name : String) : Path.toString ⟨0, [name]⟩ = name := by
  simp [Path.toString]

/-! ## Looking a path up -/

namespace World

theorem locate_eq_tooLong_iff (w : World) (p : Path) :
    w.locate p = .error .tooLong ↔ w.Overlong p := by
  unfold locate Overlong
  rw [← FileTree.follow_eq_tooLong_iff, String.contains_char_eq]
  by_cases nul : '\x00' ∈ p.toString.toList
  · simp [nul]
  · by_cases long : longestPath < p.toString.utf8ByteSize
    · simp [nul, long]
    · simp [nul, long, origin]

theorem entry?_eq_error_iff (w : World) (p : Path) :
    (∃ f, w.entry? p = .error f) ↔ w.Overlong p := by
  rw [← locate_eq_tooLong_iff]
  unfold entry?
  cases w.locate p with
  | ok found => simp
  | error fault => cases fault <;> simp

lemma entry?_eq_file_iff (w : World) (p : Path) (content : ByteArray) :
    w.entry? p = .ok (some (.file content)) ↔ w.HoldsFile p content := by
  unfold entry? HoldsFile
  cases w.locate p with
  | ok found => simp [Prod.ext_iff]
  | error fault => cases fault <;> simp

/-- A text of that many characters without a slash is refused whatever files there are. -/
theorem overlong_ofText (w : World) {s : Text} (plain : '\x00' ∉ s) (unslashed : '/' ∉ s)
    (long : FileTree.longestName < s.length) : w.Overlong (Path.ofText s) := by
  have several : 2 < s.length := Nat.lt_trans (by decide) long
  have named : String.ofList s ≠ ".." := by
    intro same
    have dots : s = ['.', '.'] := by rw [← String.toList_ofList (l := s), same]; rfl
    simp [dots] at several
  rw [Path.ofText_unslashed unslashed (Nat.lt_of_succ_lt several)]
  refine ⟨?_, Or.inr (FileTree.meetsLongName_long named ?_)⟩
  · rw [Path.toString_one, String.toList_ofList]
    exact plain
  · rw [← String.size_toByteArray, String.toByteArray_ofList]
    exact Nat.lt_of_lt_of_le long (Utf8.length_le_size_utf8Encode s)

/-- The path with nothing in it leads to the working directory. -/
lemma locate_here (w : World) : w.locate ⟨0, []⟩ = .ok (w.cwd, .directory) := by
  have shown : Path.toString ⟨0, []⟩ = "." := rfl
  rw [locate, shown, String.contains_char_eq, if_neg (by decide), if_neg (by decide)]
  rfl

lemma locate_missing {w : World} {name : String} (plain : '\x00' ∉ name.toList)
    (named : name ≠ "..") (short : name.utf8ByteSize ≤ FileTree.longestName)
    (absent : w.tree.find? (w.cwd ++ [name]) = none) :
    w.locate ⟨0, [name]⟩ = .error .missing := by
  have fits : ¬ longestPath < name.utf8ByteSize :=
    Nat.not_lt.mpr (Nat.le_trans short (by decide))
  rw [locate, Path.toString_one, String.contains_char_eq, if_neg (by simpa using plain),
    if_neg fits]
  simp [FileTree.follow, named, Nat.not_lt.mpr short, absent]

/-- A working directory with one file in it. -/
def oneFile (name : String) (content : ByteArray) : World where
  tree := ⟨[([name], .file content)]⟩
  cwd := []
  home := []
  bundledName := ""

lemma holdsFile_oneFile {name : String} (content : ByteArray) (plain : '\x00' ∉ name.toList)
    (named : name ≠ "..") (short : name.utf8ByteSize ≤ FileTree.longestName) :
    (oneFile name content).HoldsFile ⟨0, [name]⟩ content := by
  refine ⟨[name], ?_⟩
  have fits : ¬ longestPath < name.utf8ByteSize :=
    Nat.not_lt.mpr (Nat.le_trans short (by decide))
  rw [locate, Path.toString_one, String.contains_char_eq, if_neg (by simpa using plain),
    if_neg fits]
  simp [oneFile, FileTree.follow, FileTree.find?, named, Nat.not_lt.mpr short]

end World

end StyleGate
