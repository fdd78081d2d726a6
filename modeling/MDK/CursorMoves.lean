import MDK.ResultSetHistory

/-!
# Where a successful move lands

`GotoRow` accepts the row index one past the last row, and `GotoNextRow` tests
its cursor with an increment that wraps to zero at the largest `size_t`.  Away
from these two calls a move that returns true lands on a row, in every state of
every history of calls.
-/

namespace MDK

open StepSystem

/-- If the most recent move returned true the cursor is on a row, and `GotoRow`
accepts every row that exists. -/
structure CursorState.LandsOnRow (state : CursorState) : Prop where
  lands : state.lastMove = some true →
    state.resultSet.uiPos.toNat < state.resultSet.vvRows.length
  accepts : ∀ row : UInt64, row.toNat < state.resultSet.getTotalRows →
    (state.resultSet.gotoRow row).1 = true

/-- The two calls that can return true off the rows are not made. -/
def CursorState.MoveInside (state : CursorState) : CResultSet.Call → Prop
  | .gotoRow row => row.toNat ≠ state.resultSet.getTotalRows
  | .gotoNextRow =>
      state.resultSet.uiPos.toNat = 2 ^ 64 - 2 →
        2 ^ 64 ≤ state.resultSet.getTotalRows
  | .gotoFirstRow => True
  | .executeQuery _ _ _ _ => True

theorem gotoRow_eq_true_iff (rs : CResultSet) (row : UInt64) :
    (rs.gotoRow row).1 = true ↔ row.toNat ≤ rs.vvRows.length := by
  simp only [CResultSet.gotoRow]
  by_cases hlt : rs.vvRows.length < row.toNat
  · rw [if_pos hlt]
    simpa using hlt
  · rw [if_neg hlt]
    simpa using hlt

theorem gotoNextRow_eq_true_iff (rs : CResultSet) :
    rs.gotoNextRow.1 = true ↔
      (rs.uiPos + 1 + 1).toNat ≤ rs.vvRows.length := by
  simp only [CResultSet.gotoNextRow]
  by_cases hlt : rs.vvRows.length < (rs.uiPos + 1 + 1).toNat
  · rw [if_pos hlt]
    simpa using hlt
  · rw [if_neg hlt]
    simpa using hlt

theorem toNat_add_one (pos : UInt64) :
    (pos + 1).toNat = (pos.toNat + 1) % 2 ^ 64 := by
  rw [UInt64.toNat_add]
  rfl

/-- A cursor off the rows after a successful step forward was one step short
of the largest `size_t`. -/
theorem gotoNextRow_lands_iff (rs : CResultSet) :
    (rs.gotoNextRow.1 = true →
        rs.gotoNextRow.2.uiPos.toNat < rs.vvRows.length) ↔
      (rs.uiPos.toNat = 2 ^ 64 - 2 → 2 ^ 64 ≤ rs.vvRows.length) := by
  rw [gotoNextRow_eq_true_iff, CResultSet.gotoNextRow_uiPos,
    toNat_add_one (rs.uiPos + 1), toNat_add_one rs.uiPos]
  have hbound := rs.uiPos.toNat_lt
  by_cases hlast : rs.uiPos.toNat = 2 ^ 64 - 2
  · rw [hlast]
    omega
  · by_cases hmax : rs.uiPos.toNat = 2 ^ 64 - 1
    · rw [hmax]
      omega
    · rw [Nat.mod_eq_of_lt (a := rs.uiPos.toNat + 1) (by omega),
        Nat.mod_eq_of_lt (by omega)]
      omega

theorem landsOnRow_accepts (rs : CResultSet) (row : UInt64)
    (hrow : row.toNat < rs.getTotalRows) : (rs.gotoRow row).1 = true := by
  rw [gotoRow_eq_true_iff]
  exact le_of_lt hrow

theorem CursorState.landsOnRow_moved_iff (move : Bool × CResultSet) :
    (CursorState.moved move).LandsOnRow ↔
      (move.1 = true → move.2.uiPos.toNat < move.2.vvRows.length) := by
  constructor
  · intro hlands htrue
    exact hlands.lands (by simp [CursorState.moved, htrue])
  · intro hlands
    refine ⟨?_, landsOnRow_accepts _⟩
    intro hmove
    exact hlands (by simpa [CursorState.moved] using hmove)

theorem CursorState.step_landsOnRow_iff
    {state next : CursorState} {call : CResultSet.Call}
    (hlands : state.LandsOnRow) (hstep : state.step call = .ok next) :
    next.LandsOnRow ↔ state.MoveInside call := by
  cases call with
  | executeQuery build db sql client =>
      simp only [CursorState.step, Except.ok.injEq] at hstep
      subst next
      have hrows := state.resultSet.executeQuery_vvRows build db sql client
      have hkeeps : CursorState.LandsOnRow { state with
          resultSet := (state.resultSet.executeQuery build db sql client).resultSet } := by
        refine ⟨?_, landsOnRow_accepts _⟩
        intro hmove
        have hold := hlands.lands hmove
        rw [CResultSet.executeQuery_uiPos, hrows, List.length_append]
        omega
      simp [CursorState.MoveInside, hkeeps]
  | gotoFirstRow =>
      simp only [CursorState.step, Except.ok.injEq] at hstep
      subst next
      rw [CursorState.landsOnRow_moved_iff]
      simp only [CursorState.MoveInside, iff_true]
      intro htrue
      cases hrows : state.resultSet.vvRows with
      | nil => simp [CResultSet.gotoFirstRow, hrows] at htrue
      | cons row rest => simp [CResultSet.gotoFirstRow, hrows]
  | gotoNextRow =>
      simp only [CursorState.step, Except.ok.injEq] at hstep
      subst next
      rw [CursorState.landsOnRow_moved_iff, CResultSet.gotoNextRow_vvRows]
      exact gotoNextRow_lands_iff state.resultSet
  | gotoRow row =>
      simp only [CursorState.step, Except.ok.injEq] at hstep
      subst next
      rw [CursorState.landsOnRow_moved_iff, gotoRow_eq_true_iff,
        CResultSet.gotoRow_vvRows, CResultSet.gotoRow_uiPos]
      simp only [CursorState.MoveInside, CResultSet.getTotalRows]
      omega

/-- Along every history of calls on any content, the most recent successful
move has landed on a row in every state exactly when the history never jumps
to the index one past the last row and never steps forward from the index two
below the end of `size_t`. -/
theorem moves_landOnRow_iff
    (rs : CResultSet) (calls : List CResultSet.Call) :
    HoldsThroughout CursorState.step CursorState.LandsOnRow (.initial rs) calls ↔
      StepsMeet CursorState.step CursorState.MoveInside (.initial rs) calls := by
  rcases CursorState.exists_run (.initial rs) calls with ⟨final, hrun⟩
  have hpres : Preserves CursorState.step (fun _ => True) (fun _ => True) :=
    fun _ _ _ _ _ _ => trivial
  have hinitial : (CursorState.initial rs).LandsOnRow :=
    ⟨by simp [CursorState.initial], landsOnRow_accepts _⟩
  exact hpres.holdsThroughout_iff_stepsMeet
    (fun _ _ _ _ hlands _ hstep => CursorState.step_landsOnRow_iff hlands hstep)
    trivial hinitial (fun _ _ => trivial) hrun

/-- On one row, `GotoRow(1)` returns true with the cursor behind the row. -/
theorem gotoRow_past_last_returns_true :
    ¬ ∀ (rs : CResultSet) (calls : List CResultSet.Call),
      HoldsThroughout CursorState.step CursorState.LandsOnRow
        (.initial rs) calls := by
  intro hall
  have hlands := hall ⟨[[[49]]], 0⟩ [.gotoRow 1] [.gotoRow 1] (by simp)
    ⟨⟨[[[49]]], 1⟩, some true⟩ rfl
  have hcursor := hlands.lands rfl
  revert hcursor
  decide

end MDK
