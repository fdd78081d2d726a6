import MDK.CString

/-!
# Result sets

`CResultSet` holds the rows of a query and a `size_t` cursor.  The three moves
are translated with their own comparisons, on a cursor that wraps at `2 ^ 64`.
Every getter makes the same bound check before it reads a cell, so the check is
one definition.
-/

namespace MDK

inductive CppException where
  | outOfRange
  | logicError
  deriving DecidableEq, Repr

abbrev Cell := List UInt8

structure CResultSet where
  vvRows : List (List Cell)
  uiPos : UInt64
  deriving DecidableEq, Repr

namespace CResultSet

def new : CResultSet := ⟨[], 0⟩

def getTotalRows (rs : CResultSet) : ℕ := rs.vvRows.length

/-! ## Moves -/

def gotoFirstRow (rs : CResultSet) : Bool × CResultSet :=
  if rs.vvRows.length < 1 then (false, rs)
  else (true, { rs with uiPos := 0 })

def gotoNextRow (rs : CResultSet) : Bool × CResultSet :=
  let moved := { rs with uiPos := rs.uiPos + 1 }
  if rs.vvRows.length < (moved.uiPos + 1).toNat then (false, moved)
  else (true, moved)

def gotoRow (rs : CResultSet) (row : UInt64) : Bool × CResultSet :=
  let moved := { rs with uiPos := row }
  if rs.vvRows.length < moved.uiPos.toNat then (false, moved)
  else (true, moved)

@[simp] theorem gotoFirstRow_vvRows (rs : CResultSet) :
    rs.gotoFirstRow.2.vvRows = rs.vvRows := by
  unfold gotoFirstRow
  split <;> rfl

@[simp] theorem gotoNextRow_vvRows (rs : CResultSet) :
    rs.gotoNextRow.2.vvRows = rs.vvRows := by
  simp only [gotoNextRow]
  split <;> rfl

@[simp] theorem gotoRow_vvRows (rs : CResultSet) (row : UInt64) :
    (rs.gotoRow row).2.vvRows = rs.vvRows := by
  simp only [gotoRow]
  split <;> rfl

@[simp] theorem gotoNextRow_uiPos (rs : CResultSet) :
    rs.gotoNextRow.2.uiPos = rs.uiPos + 1 := by
  simp only [gotoNextRow]
  split <;> rfl

@[simp] theorem gotoRow_uiPos (rs : CResultSet) (row : UInt64) :
    (rs.gotoRow row).2.uiPos = row := by
  simp only [gotoRow]
  split <;> rfl

theorem gotoFirstRow_of_ne_nil
    {rs : CResultSet} (hrows : rs.vvRows ≠ []) :
    rs.gotoFirstRow = (true, { rs with uiPos := 0 }) := by
  have hlength : ¬ rs.vvRows.length < 1 := by
    have hpos := List.length_pos_iff.mpr hrows
    omega
  simp only [gotoFirstRow, if_neg hlength]

/-! ## Getters -/

def currentRow (rs : CResultSet) : Except CppException (List Cell) :=
  match rs.vvRows[rs.uiPos.toNat]? with
  | some row => .ok row
  | none => .error .outOfRange

/-- What the getters share: `none` is the branch in which they `return 0`. -/
def getFromRow (rs : CResultSet) (index : ℕ) :
    Except CppException (Option Cell) :=
  match rs.currentRow with
  | .error exception => .error exception
  | .ok row =>
      if row.length < index then .ok none
      else
        match row[index]? with
        | some cell => .ok (some cell)
        | none => .error .outOfRange

/-- `return 0` builds a `std::string` from a null pointer here. -/
def getStringFromRow (rs : CResultSet) (index : ℕ) :
    Except CppException Cell :=
  match rs.getFromRow index with
  | .error exception => .error exception
  | .ok none => .error .logicError
  | .ok (some cell) => .ok cell

theorem getStringFromRow_of_getElem
    {rs : CResultSet} {row : List Cell} {cell : Cell} {index : ℕ}
    (hrow : rs.vvRows[rs.uiPos.toNat]? = some row)
    (hcell : row[index]? = some cell) :
    rs.getStringFromRow index = .ok cell := by
  have hindex : ¬ row.length < index := by
    have hlt := (List.getElem?_eq_some_iff.mp hcell).1
    omega
  simp only [getStringFromRow, getFromRow, currentRow, hrow, if_neg hindex, hcell]

end CResultSet

end MDK
