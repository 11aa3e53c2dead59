import StyleGate.Proofs.Text.Trimming

/-!
# Word runs

`runs` lists the maximal word runs of a text, each with what follows it. Searching for a run is
searching this list, and a character that is no word character cuts the list in two.
-/

namespace StyleGate.Text

/-- `runs` in the middle of a run, of which `seen` was read, last character first. -/
def runsFrom (seen : Text) : Text → List (Text × Text)
  | [] => if seen = [] then [] else [(seen.reverse, [])]
  | c :: s =>
    if isWord c then runsFrom (c :: seen) s
    else (if seen = [] then [] else [(seen.reverse, c :: s)]) ++ runsFrom [] s

def runs (s : Text) : List (Text × Text) := runsFrom [] s

lemma findRunFrom_eq (accepts : Text → Text → Bool) (seen s : Text) :
    findRunFrom accepts seen s =
      ((runsFrom seen s).find? fun p => accepts p.1 p.2).map Prod.fst := by
  induction s generalizing seen with
  | nil =>
    by_cases hs : seen = []
    · simp [findRunFrom, runsFrom, hs]
    · cases ha : accepts seen.reverse [] with
      | false => simp [findRunFrom, runsFrom, hs, ha]
      | true => simp [findRunFrom, runsFrom, hs, ha]
  | cons c s ih =>
    by_cases hc : isWord c = true
    · rw [findRunFrom, if_pos hc, runsFrom, if_pos hc, ih]
    · rw [findRunFrom, if_neg hc, runsFrom, if_neg hc, ih]
      by_cases hs : seen = []
      · simp [hs]
      · cases ha : accepts seen.reverse (c :: s) with
        | false => simp [hs, ha]
        | true => simp [hs, ha]

/-- Searching for a run takes the first one that is accepted. -/
theorem findRun?_eq (accepts : Text → Text → Bool) (s : Text) :
    findRun? accepts s = ((runs s).find? fun p => accepts p.1 p.2).map Prod.fst :=
  findRunFrom_eq accepts [] s

lemma isSome_findRun? (accepts : Text → Text → Bool) (s : Text) :
    (findRun? accepts s).isSome = (runs s).any fun p => accepts p.1 p.2 := by
  rw [findRun?_eq, Option.isSome_map, List.isSome_find?]

lemma runsFrom_across {c : Char} (hc : isWord c = false) (seen a b : Text) :
    runsFrom seen (a ++ c :: b) =
      (runsFrom seen a).map (fun p => (p.1, p.2 ++ c :: b)) ++ runs b := by
  induction a generalizing seen with
  | nil =>
    by_cases hs : seen = []
    · simp [runsFrom, runs, hc, hs]
    · simp [runsFrom, runs, hc, hs]
  | cons d a ih =>
    rw [List.cons_append]
    by_cases hd : isWord d = true
    · rw [runsFrom, if_pos hd, ih, runsFrom, if_pos hd]
    · rw [runsFrom, if_neg hd, ih, runsFrom, if_neg hd]
      by_cases hs : seen = []
      · simp [hs]
      · simp [hs]

/-- No run reaches across a character that is not a word character. -/
theorem runs_across {c : Char} (hc : isWord c = false) (a b : Text) :
    runs (a ++ c :: b) = (runs a).map (fun p => (p.1, p.2 ++ c :: b)) ++ runs b :=
  runsFrom_across hc [] a b

end StyleGate.Text
