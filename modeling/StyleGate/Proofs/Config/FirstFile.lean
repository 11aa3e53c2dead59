import StyleGate.Config.File
import StyleGate.Proofs.Files.NewFile

/-!
# Writing a first configuration file

A first file is written only where nothing is. Otherwise the world stays as it is, and so it does if
the file cannot be made. If the file can be made but not filled, or its mode cannot be set, there is
an error and the file stays.
-/

namespace StyleGate.Config

open Writing (Makeable Outcome outcome_newFile)

/-- What writing a first file comes to: something is there, or what writing a new file comes to. -/
theorem writeFirst_cases (disk : Disk) (w : World) (p : Path) :
    (w.Has p ∧ writeFirst disk p w = .ok false w) ∨
      (¬ w.Has p ∧ Outcome disk w p defaultBytes true (writeFirst disk p w)) := by
  rw [writeFirst, Writing.get_bind]
  cases located : w.locate p with
  | ok found => exact Or.inl ⟨⟨found, located⟩, rfl⟩
  | error f =>
    have absent : ¬ w.Has p := by
      rintro ⟨found, reached⟩
      rw [located] at reached
      cases reached
    refine Or.inr ⟨absent, ?_⟩
    cases f with
    | tooLong => exact .refused trivial fun makeable => makeable.short located
    | holdsNul => exact .refused trivial fun makeable => makeable.plain located
    | missing => exact (outcome_newFile disk _ located nofun nofun).thenReturn true
    | notDirectory => exact (outcome_newFile disk _ located nofun nofun).thenReturn true

/-- The path of the configuration file in the working directory. -/
def localPath : Path := ⟨0, [fileName]⟩

section

variable {disk : Disk} {w : World} (allowed : disk.makesFile = true)
  (absent : w.tree.find? (w.cwd ++ [fileName]) = none)

include allowed absent

/-- In a working directory without a file of that name one can be made. -/
lemma outcome_of_absent : ¬ w.Has localPath ∧ Makeable disk w localPath ∧
    Outcome disk w localPath defaultBytes true (writeFirst disk localPath w) := by
  have missing : w.locate localPath = .error .missing :=
    World.locate_missing (by decide) (by decide) (by decide) absent
  have vacant : ¬ w.Has localPath := by
    rintro ⟨found, reached⟩
    cases missing.symm.trans reached
  have makeable : Makeable disk w localPath := by
    refine ⟨allowed, ⟨w.cwd, w.locate_here⟩, ?_, ?_⟩
    · rw [missing]
      exact nofun
    · rw [missing]
      exact nofun
  rcases writeFirst_cases disk w localPath with ⟨there, -⟩ | ⟨-, outcome⟩
  · exact absurd there vacant
  · exact ⟨vacant, makeable, outcome⟩

theorem writeFirst_of_absent (roomy : disk.room = none) (sets : disk.setsMode = true) :
    ∃ w', writeFirst disk localPath w = .ok true w' ∧
      w.GainsFile w' localPath defaultBytes := by
  obtain ⟨-, makeable, outcome⟩ := outcome_of_absent allowed absent
  generalize writeFirst disk localPath w = result at outcome
  cases outcome with
  | refused early barred => exact absurd makeable barred
  | cut limited lacking gains => cases roomy.symm.trans limited
  | unset fits fails gains => cases sets.symm.trans fails
  | written fits sets gains => exact ⟨_, rfl, gains⟩

theorem writeFirst_of_limited {n : Nat} (limited : disk.room = some n)
    (lacking : n < defaultBytes.size) :
    ∃ w', writeFirst disk localPath w = .error .noRoom w' ∧
      w.GainsFile w' localPath (defaultBytes.extract 0 n) := by
  obtain ⟨-, makeable, outcome⟩ := outcome_of_absent allowed absent
  generalize writeFirst disk localPath w = result at outcome
  cases outcome with
  | refused early barred => exact absurd makeable barred
  | cut limited' lacking gains =>
    cases limited.symm.trans limited'
    exact ⟨_, rfl, gains⟩
  | unset fits fails gains => exact absurd lacking (Nat.not_lt.mpr (fits n limited))
  | written fits sets gains => exact absurd lacking (Nat.not_lt.mpr (fits n limited))

end

end StyleGate.Config
