import StyleGate.Config.Validation

/-!
The rules that a configuration leaves enabled. Nothing is validated here: absent and empty values
disable nothing, and a value that cannot be gone through is a misuse.
-/

namespace StyleGate.Config

/-- The value of a field, unless it counts as absent. -/
def present? (fields : Fields) (name : String) : Option Value :=
  (field? fields name).filter Value.truthy

/-- The scalar that a value is. -/
def scalar? (v : Value) : Option Scalar :=
  match v.layer with
  | .scalar s => some s
  | _ => none

/-- The value can be a member of a set: it is a scalar or a pair of scalars. -/
def hashable (v : Value) : Bool :=
  match v.layer with
  | .scalar _ => true
  | .pair a b => (scalar? a).isSome && (scalar? b).isSome
  | _ => false

/-- The scalars among the members of a value as a set. -/
def members (v : Value) : Except Misuse (List Scalar) :=
  match v.layer with
  | .list items => if items.all hashable then .ok (items.filterMap scalar?) else .error .unhashable
  | .map entries => .ok (entries.map Prod.fst)
  | .set scalars => .ok scalars
  | .pair a b => if hashable a && hashable b then .ok ([a, b].filterMap scalar?) else .error .unhashable
  | .scalar (.text s) => .ok (s.toList.map fun c => .text (String.singleton c))
  | .scalar (.bytes bs) => .ok (bs.map fun b => .int b.toNat)
  | .scalar _ => .error .noMembers

/-- What the fields of a configuration disable. -/
def disabled (fields : Fields) : Except Misuse (List Scalar) :=
  match present? fields "rules" with
  | none => .ok []
  | some rules =>
    match rules.layer with
    | .map rules =>
      match present? rules "disabled" with
      | none => .ok []
      | some v => members v
    | _ => .error .noFields

/-- The rules that are not disabled, in ascending order. -/
def enabledRules (fields : Fields) : Except Misuse (List Rule) :=
  (disabled fields).map fun off =>
    Rule.all.filter fun r => !off.any fun s => s.same (.int r.number)

/-- The rules that a value leaves enabled, which has to be a mapping. -/
def enabledRulesOf (config : Value) : Except Misuse (List Rule) :=
  match config.layer with
  | .map fields => enabledRules fields
  | _ => .error .noFields

end StyleGate.Config
