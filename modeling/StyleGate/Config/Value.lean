import StyleGate.Config.Scalar

/-!
Configuration values: what a configuration file can hold. A mapping keeps the order in which its
keys first came; its keys are scalars. A file can make a collection a member of itself, so a value is
a cell in a table, the members of a collection are given by the numbers of their cells, and a value
is looked at one layer at a time.
-/

namespace StyleGate.Config

/-- One layer of a value, with members of type `α`. -/
inductive Layer (α : Type) where
  | scalar (s : Scalar)
  | list (items : List α)
  | map (entries : List (Scalar × α))
  | set (members : List Scalar)
  /-- A member of an ordered mapping, which is a list of pairs. -/
  | pair (first second : α)
  deriving DecidableEq

/-- The layer with every member replaced. -/
def Layer.relabel {α β : Type} (f : α → β) : Layer α → Layer β
  | .scalar s => .scalar s
  | .list items => .list (items.map f)
  | .map entries => .map (entries.map fun (k, v) => (k, f v))
  | .set members => .set members
  | .pair a b => .pair (f a) (f b)

/-- Layers by number. -/
abbrev Cells := Array (Layer Nat)

/-- The cell with this number in a table of cells. -/
structure Value where
  cells : Cells
  cell : Nat
  deriving DecidableEq

namespace Value

/-- The outermost layer of a value. A number without a cell is that of an absent value. -/
def layer (v : Value) : Layer Value :=
  ((v.cells[v.cell]?).getD (.scalar .null)).relabel fun n => ⟨v.cells, n⟩

def ofScalar (s : Scalar) : Value := ⟨#[.scalar s], 0⟩

/-- The value without content. -/
def null : Value := ofScalar .null

/-- Empty, zero and false values count as absent. -/
def truthy (v : Value) : Bool :=
  match v.layer with
  | .scalar s => s.truthy
  | .list items => !items.isEmpty
  | .map entries => !entries.isEmpty
  | .set members => !members.isEmpty
  | .pair _ _ => true

end Value

/-- The value of a named field of a mapping. -/
def field? {α : Type} (entries : List (Scalar × α)) (name : String) : Option α :=
  (entries.find? fun (k, _) => k.same (.text name)).map Prod.snd

end StyleGate.Config
