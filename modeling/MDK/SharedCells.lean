import Mathlib.Logic.Function.Basic

/-!
# Names that share cells

Every name leads to a cell.  A new name may join an older one, and from then on
the two share its cell: what is written through one of them is read through both.
-/

variable {Name Value : Type*} [DecidableEq Name]

/-- The cell of a name is named after its root. -/
structure SharedCells (Name Value : Type*) where
  root : Name → Name
  value : Name → Value

namespace SharedCells

def separate (value : Value) : SharedCells Name Value := ⟨id, fun _ => value⟩

def join (cells : SharedCells Name Value) (child parent : Name) :
    SharedCells Name Value :=
  { cells with root := Function.update cells.root child (cells.root parent) }

def write (cells : SharedCells Name Value) (name : Name) (value : Value) :
    SharedCells Name Value :=
  { cells with value := Function.update cells.value (cells.root name) value }

def read (cells : SharedCells Name Value) (name : Name) : Value :=
  cells.value (cells.root name)

theorem root_join
    (cells : SharedCells Name Value) (child parent other : Name) :
    (cells.join child parent).root other =
      if other = child then cells.root parent else cells.root other := by
  simp [join, Function.update_apply]

theorem root_join_of_ne
    (cells : SharedCells Name Value) {child other : Name} (hne : other ≠ child)
    (parent : Name) : (cells.join child parent).root other = cells.root other := by
  rw [root_join, if_neg hne]

theorem value_write_of_ne
    (cells : SharedCells Name Value) {name other : Name}
    (hne : other ≠ cells.root name) (value : Value) :
    (cells.write name value).value other = cells.value other := by
  simp [write, hne]

theorem read_write_of_root_eq
    (cells : SharedCells Name Value) {name other : Name}
    (hroot : cells.root other = cells.root name) (value : Value) :
    (cells.write name value).read other = value := by
  simp [read, write, hroot]

theorem read_write_of_root_ne
    (cells : SharedCells Name Value) {name other : Name}
    (hroot : cells.root other ≠ cells.root name) (value : Value) :
    (cells.write name value).read other = cells.read other := by
  simp [read, write, hroot]

end SharedCells
