import StyleGate.Config.Spelling
import StyleGate.Rule.Basic
import StyleGate.Text.Uppercase

/-!
Validation: everything wrong with a configuration, in a fixed order, as a list of complaints.
-/

namespace StyleGate.Config

/-- A value used in a way that its kind does not allow. -/
inductive Misuse where
  /-- It has no fields. -/
  | noFields
  /-- It holds nothing that could be looked for or gone through. -/
  | noMembers
  /-- One of its members cannot be a member of a set. -/
  | unhashable
  deriving DecidableEq, Repr

def levelNames : List String := ["DEBUG", "INFO", "WARNING", "ERROR", "CRITICAL"]

inductive Complaint where
  | missingVersion
  | colourNotBool (got : Value)
  | unknownLevel
  | rulesNotMapping
  | disabledNotList
  | notRuleNumber (index : Nat) (got : Value)
  | noSuchRule (index : Nat) (number : Int)

/-- Complaints show what they are about, which may be impossible; `depth` levels are left for it. -/
def Complaint.message (depth : Nat) : Complaint → Except SpellingError String
  | .missingVersion => .ok "Missing 'version' field"
  | .colourNotBool got => do
    return "'color' must be true or false, got " ++ (← got.spelling depth)
  | .unknownLevel => .ok ("'log_level' must be one of " ++ commaList levelNames)
  | .rulesNotMapping => .ok "'rules' must be a mapping"
  | .disabledNotList => .ok "rules.disabled must be a list of rule numbers"
  | .notRuleNumber index got => do
    return "rules.disabled[" ++ toString index ++ "]: " ++ (← got.spelling depth) ++
      " is not a rule number"
  | .noSuchRule index number => do
    return "rules.disabled[" ++ toString index ++ "]: rule " ++
      (← (Scalar.int number).spellingWithin depth) ++
      " out of range 1.." ++ toString Rule.count

/-- The fields of a configuration. -/
abbrev Fields := List (Scalar × Value)

def versionComplaints (fields : Fields) : List Complaint :=
  if (field? fields "version").isSome then [] else [.missingVersion]

def colourComplaints (fields : Fields) : List Complaint :=
  match field? fields "color" with
  | none => []
  | some got =>
    match got.layer with
    | .scalar (.bool _) => []
    | _ => [.colourNotBool got]

/-- The name is one of the levels in any mixture of cases. -/
def namesLevel (s : String) : Bool :=
  levelNames.any fun name => name.toList == Text.upper s.toList

def levelComplaints (fields : Fields) : List Complaint :=
  match (field? fields "log_level").map Value.layer with
  | none => []
  | some (.scalar (.text s)) => if namesLevel s then [] else [.unknownLevel]
  | some _ => [.unknownLevel]

/-- What is wrong with one member of the list of disabled rules; truth values are no numbers. -/
def memberComplaint? (index : Nat) (got : Value) : Option Complaint :=
  match got.layer with
  | .scalar (.int n) => if (Rule.ofNumber? n).isSome then none else some (.noSuchRule index n)
  | _ => some (.notRuleNumber index got)

def disabledComplaints (disabled : Option Value) : List Complaint :=
  match disabled.map Value.layer with
  | none => []
  | some (.scalar .null) => []
  | some (.list items) => (items.mapIdx memberComplaint?).filterMap id
  | some _ => [.disabledNotList]

def rulesComplaints (fields : Fields) : List Complaint :=
  match (field? fields "rules").map Value.layer with
  | none => []
  | some (.scalar .null) => []
  | some (.map rules) => disabledComplaints (field? rules "disabled")
  | some _ => [.rulesNotMapping]

/-- Everything wrong with a mapping. -/
def complaints (fields : Fields) : List Complaint :=
  versionComplaints fields ++ colourComplaints fields ++ levelComplaints fields ++
    rulesComplaints fields

/-- Everything wrong with a value, which has to be a mapping for the question to make sense. -/
def validate (config : Value) : Except Misuse (List Complaint) :=
  match config.layer with
  | .map fields => .ok (complaints fields)
  | .scalar (.text _) => .error .noFields
  | .scalar _ => .error .noMembers
  | _ => .error .noFields

end StyleGate.Config
