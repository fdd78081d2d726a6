import MDK.CursorMoves
import MDK.RowGetters

/-!
# Moves that fail

`GotoNextRow` and `GotoRow` store the new position before they compare it with
the number of rows, so a move that returns false has moved the cursor unless it
was aimed at the row the cursor was on.
-/

namespace MDK

open StepSystem

variable {Value : Type*} [Zero Value]

/-- What the cursor and the getters show is the same on both objects. -/
structure CResultSet.SameReadings (bits : ℕ) (atof : List UInt8 → Value)
    (left right : CResultSet) : Prop where
  cursor : right.uiPos = left.uiPos
  getInt : ∀ index,
    right.getIntFromRow bits index = left.getIntFromRow bits index
  getUInt : ∀ index,
    right.getUIntFromRow bits index = left.getUIntFromRow bits index
  getDouble : ∀ index,
    right.getDoubleFromRow atof index = left.getDoubleFromRow atof index
  getString : ∀ index,
    right.getStringFromRow index = left.getStringFromRow index

def CResultSet.Call.isMove : CResultSet.Call → Bool
  | .executeQuery _ _ _ _ => false
  | .gotoFirstRow => true
  | .gotoNextRow => true
  | .gotoRow _ => true

/-- If the call is a move that returns false, it leaves all readings alone. -/
def CursorState.FailedMoveUndone (bits : ℕ) (atof : List UInt8 → Value)
    (state : CursorState) (call : CResultSet.Call) : Prop :=
  ∀ next, state.step call = .ok next → call.isMove = true →
    next.lastMove = some false →
    CResultSet.SameReadings bits atof state.resultSet next.resultSet

/-- The move returns true, or it is aimed at where the cursor is. -/
def CursorState.MoveAllowed (state : CursorState) : CResultSet.Call → Prop
  | .gotoNextRow =>
      (state.resultSet.uiPos + 1 + 1).toNat ≤ state.resultSet.getTotalRows
  | .gotoRow row =>
      row.toNat ≤ state.resultSet.getTotalRows ∨ row = state.resultSet.uiPos
  | .gotoFirstRow => True
  | .executeQuery _ _ _ _ => True

theorem CResultSet.sameReadings_iff
    (bits : ℕ) (atof : List UInt8 → Value) {left right : CResultSet}
    (hrows : right.vvRows = left.vvRows) :
    CResultSet.SameReadings bits atof left right ↔
      right.uiPos = left.uiPos := by
  constructor
  · exact CResultSet.SameReadings.cursor
  · intro hcursor
    have heq : right = left := by
      rw [CResultSet.mk.injEq]
      exact ⟨hrows, hcursor⟩
    rw [heq]
    exact ⟨rfl, fun _ => rfl, fun _ => rfl, fun _ => rfl, fun _ => rfl⟩

theorem gotoFirstRow_of_eq_false
    {rs : CResultSet} (hfalse : rs.gotoFirstRow.1 = false) :
    rs.gotoFirstRow.2 = rs := by
  unfold CResultSet.gotoFirstRow at hfalse ⊢
  split_ifs at hfalse ⊢
  rfl

theorem failedMove_moved_iff
    (bits : ℕ) (atof : List UInt8 → Value) (rs : CResultSet)
    (move : Bool × CResultSet) (hrows : move.2.vvRows = rs.vvRows) :
    (∀ next, CursorState.moved move = next → next.lastMove = some false →
        CResultSet.SameReadings bits atof rs next.resultSet) ↔
      (move.1 = false → move.2.uiPos = rs.uiPos) := by
  constructor
  · intro hall hfalse
    have hsame := hall _ rfl (by simp [CursorState.moved, hfalse])
    exact hsame.cursor
  · rintro hcursor next rfl hmove
    refine (CResultSet.sameReadings_iff bits atof hrows).mpr (hcursor ?_)
    simpa [CursorState.moved] using hmove

theorem failedMoveUndone_iff
    (bits : ℕ) (atof : List UInt8 → Value) (state : CursorState)
    (call : CResultSet.Call) :
    state.FailedMoveUndone bits atof call ↔ state.MoveAllowed call := by
  unfold CursorState.FailedMoveUndone
  cases call with
  | executeQuery build db sql client =>
      simp [CResultSet.Call.isMove, CursorState.MoveAllowed]
  | gotoFirstRow =>
      simp only [CursorState.step, Except.ok.injEq, CResultSet.Call.isMove,
        true_imp_iff, CursorState.MoveAllowed, iff_true]
      rw [failedMove_moved_iff bits atof _ _ (by simp)]
      intro hfalse
      rw [gotoFirstRow_of_eq_false hfalse]
  | gotoNextRow =>
      simp only [CursorState.step, Except.ok.injEq, CResultSet.Call.isMove,
        true_imp_iff, CursorState.MoveAllowed]
      rw [failedMove_moved_iff bits atof _ _ (by simp),
        CResultSet.gotoNextRow_uiPos]
      rw [CResultSet.getTotalRows, ← gotoNextRow_eq_true_iff]
      simp
  | gotoRow row =>
      simp only [CursorState.step, Except.ok.injEq, CResultSet.Call.isMove,
        true_imp_iff, CursorState.MoveAllowed]
      rw [failedMove_moved_iff bits atof _ _ (by simp), CResultSet.gotoRow_uiPos]
      rw [CResultSet.getTotalRows, ← gotoRow_eq_true_iff]
      cases (state.resultSet.gotoRow row).1 with
      | false => simp
      | true => simp

/-- Along every history of calls on any content, every move that returns false
leaves the cursor and what the getters show exactly when no step forward leads
behind the rows and no jump behind them leaves the place of the cursor. -/
theorem failedMoves_undone_iff
    (bits : ℕ) (atof : List UInt8 → Value) (rs : CResultSet)
    (calls : List CResultSet.Call) :
    StepsMeet CursorState.step (CursorState.FailedMoveUndone bits atof)
        (.initial rs) calls ↔
      StepsMeet CursorState.step CursorState.MoveAllowed (.initial rs) calls := by
  have hassumed : StepsMeet CursorState.step (fun _ _ => True)
      (.initial rs) calls := fun _ _ _ _ _ => trivial
  exact hassumed.iff_of_forall
    fun reached call _ => failedMoveUndone_iff bits atof reached call

/-- On one row, a rejected `GotoRow(5)` leaves the cursor at 5. -/
theorem gotoRow_rejected_moves_cursor :
    ¬ ∀ (bits : ℕ) (atof : List UInt8 → ℕ) (rs : CResultSet)
        (calls : List CResultSet.Call),
      StepsMeet CursorState.step (CursorState.FailedMoveUndone bits atof)
        (.initial rs) calls := by
  intro hall
  have hundone := hall 64 (fun _ => 0) ⟨[[[49]]], 0⟩ [.gotoRow 5] [] (.gotoRow 5)
    (by simp) _ rfl
  have hsame := hundone _ rfl rfl rfl
  have hcursor := hsame.cursor
  revert hcursor
  decide

end MDK
