import MDK.QueryReadout
import MDK.ResultSetHistory

/-!
# Reading out what a history has left

`ExecuteQuery` clears nothing, so a result set is a log of the rows of all its
executions.  The documented loop goes through that log from its first row,
wherever the cursor was, and reads as many columns as it is told to.  A row with
fewer cells ends it with the exception of `at`.
-/

namespace MDK

open StepSystem

/-- What a reader of so many columns makes of rows of any width. -/
def takeColumns (columns : ℕ) (rows : List (List Cell)) :
    Except CppException (List (List Cell)) :=
  if ∀ row ∈ rows, columns ≤ row.length then .ok (rows.map (List.take columns))
  else .error .outOfRange

theorem takeColumns_cons_of_le
    {columns : ℕ} {row : List Cell} (hrow : columns ≤ row.length)
    (rows : List (List Cell)) :
    takeColumns columns (row :: rows) =
      (takeColumns columns rows).map fun read => row.take columns :: read := by
  have hiff : (∀ other ∈ row :: rows, columns ≤ other.length) ↔
      ∀ other ∈ rows, columns ≤ other.length := by
    rw [List.forall_mem_cons]
    exact and_iff_right hrow
  unfold takeColumns
  simp only [hiff]
  split_ifs
  · rfl
  · rfl

theorem takeColumns_cons_of_lt
    {columns : ℕ} {row : List Cell} (hrow : row.length < columns)
    (rows : List (List Cell)) :
    takeColumns columns (row :: rows) = .error .outOfRange := by
  unfold takeColumns
  rw [if_neg]
  intro hall
  exact Nat.not_le_of_lt hrow (hall row List.mem_cons_self)

theorem getStringFromRow_of_length
    {rs : CResultSet} {row : List Cell}
    (hrow : rs.vvRows[rs.uiPos.toNat]? = some row) :
    rs.getStringFromRow row.length = .error .outOfRange := by
  simp [CResultSet.getStringFromRow, CResultSet.getFromRow,
    CResultSet.currentRow, hrow]

/-! ## The columns of one row -/

/-- The induction is on the columns still to be read. -/
theorem readColumns_range'
    {rs : CResultSet} {row : List Cell}
    (hrow : rs.vvRows[rs.uiPos.toNat]? = some row) (start count : ℕ)
    (hstart : start ≤ row.length) :
    readColumns rs (List.range' start count) =
      if start + count ≤ row.length then .ok ((row.drop start).take count)
      else .error .outOfRange := by
  induction count generalizing start with
  | zero =>
      rw [if_pos (by omega)]
      rfl
  | succ count ih =>
      rw [List.range'_succ, readColumns]
      by_cases hlt : start < row.length
      · have hcell := CResultSet.getStringFromRow_of_getElem hrow
          (List.getElem?_eq_getElem hlt)
        have hshift : start + (count + 1) = start + 1 + count := by omega
        simp only [hcell]
        rw [ih (start + 1) hlt, hshift]
        split_ifs
        · rw [List.drop_eq_getElem_cons hlt, List.take_succ_cons]
        · rfl
      · have heq : start = row.length := by omega
        rw [heq, getStringFromRow_of_length hrow, if_neg (by omega)]

theorem readColumns_range
    {rs : CResultSet} {row : List Cell}
    (hrow : rs.vvRows[rs.uiPos.toNat]? = some row) (columns : ℕ) :
    readColumns rs (List.range columns) =
      if columns ≤ row.length then .ok (row.take columns)
      else .error .outOfRange := by
  have hread := readColumns_range' hrow 0 columns (Nat.zero_le _)
  rw [List.range_eq_range', hread, Nat.zero_add, List.drop_zero]

/-! ## The loop -/

/-- From a cursor on a row, the loop reads that row and all rows behind it, up
to the first one that is too short. -/
theorem readLoop_takes
    (columns remaining fuel : ℕ) (rs : CResultSet)
    (hsize : rs.vvRows.length < 2 ^ 63)
    (hpos : rs.uiPos.toNat + remaining + 1 = rs.vvRows.length)
    (hfuel : remaining < fuel) :
    readLoop columns fuel rs =
      some (takeColumns columns (rs.vvRows.drop rs.uiPos.toNat)) := by
  induction remaining generalizing fuel rs with
  | zero =>
      obtain ⟨extra, rfl⟩ := Nat.exists_eq_add_of_lt hfuel
      have hlt : rs.uiPos.toNat < rs.vvRows.length := by omega
      have hdrop : rs.vvRows.drop (rs.uiPos.toNat + 1) = [] :=
        List.drop_of_length_le (by omega)
      have hread := readColumns_range (List.getElem?_eq_getElem hlt) columns
      rw [Nat.zero_add, readLoop, hread, List.drop_eq_getElem_cons hlt, hdrop]
      by_cases hwide : columns ≤ rs.vvRows[rs.uiPos.toNat].length
      · rw [if_pos hwide, takeColumns_cons_of_le hwide]
        simp only [gotoNextRow_of_last hsize (by omega)]
        rfl
      · rw [if_neg hwide, takeColumns_cons_of_lt (Nat.lt_of_not_le hwide)]
  | succ remaining ih =>
      obtain ⟨extra, rfl⟩ := Nat.exists_eq_add_of_lt hfuel
      have hlt : rs.uiPos.toNat < rs.vvRows.length := by omega
      have hnext : (rs.uiPos + 1).toNat = rs.uiPos.toNat + 1 := by
        simp only [UInt64.toNat_add, UInt64.toNat_one]
        omega
      have htail := ih (remaining + 1 + extra) { rs with uiPos := rs.uiPos + 1 }
        hsize (by simp only [hnext]; omega) (by omega)
      have hread := readColumns_range (List.getElem?_eq_getElem hlt) columns
      rw [readLoop, hread, List.drop_eq_getElem_cons hlt]
      by_cases hwide : columns ≤ rs.vvRows[rs.uiPos.toNat].length
      · rw [if_pos hwide, takeColumns_cons_of_le hwide]
        simp only [gotoNextRow_of_more hsize (by omega), htail, hnext]
        cases takeColumns columns (rs.vvRows.drop (rs.uiPos.toNat + 1)) with
        | error exception => rfl
        | ok rows => rfl
      · rw [if_neg hwide, takeColumns_cons_of_lt (Nat.lt_of_not_le hwide)]

theorem readOut_takes
    {rs : CResultSet} (hfits : rs.vvRows.length ≤ vectorMaxSize)
    (columns : ℕ) {fuel : ℕ} (hfuel : rs.vvRows.length ≤ fuel) :
    readOut columns fuel rs = some (takeColumns columns rs.vvRows) := by
  have hmax : vectorMaxSize < 2 ^ 63 := by decide
  by_cases hempty : rs.vvRows = []
  · simp [readOut, CResultSet.gotoFirstRow, hempty, takeColumns]
  · have hpos : 0 < rs.vvRows.length := List.length_pos_iff.mpr hempty
    have hloop := readLoop_takes columns (rs.vvRows.length - 1) fuel
      { rs with uiPos := 0 } (by simp only; omega)
      (by simp only [UInt64.toNat_zero]; omega) (by omega)
    rw [readOut, CResultSet.gotoFirstRow_of_ne_nil hempty]
    simpa using hloop

/-! ## Histories -/

/-- After any calls on one object the documented loop reads the rows that all
executions have appended, each once and in order, in as many rounds as there are
rows; it throws exactly if one of them has too few cells. -/
theorem readOut_after_history
    (history : List CResultSet.Call) (state : CursorState)
    (hhistory : run CursorState.step (.initial .new) history = .ok state)
    (hfits : state.resultSet.getTotalRows ≤ vectorMaxSize)
    (columns fuel : ℕ) (hfuel : state.resultSet.getTotalRows ≤ fuel) :
    readOut columns fuel state.resultSet =
      some (takeColumns columns
        (history.flatMap CResultSet.Call.appended)) := by
  have hrows : state.resultSet.vvRows =
      history.flatMap CResultSet.Call.appended :=
    (CursorState.run_vvRows hhistory).trans (List.nil_append _)
  rw [readOut_takes hfits columns hfuel, hrows]

/-- Two rows that differ in width. -/
def executesTwice : List CResultSet.Call :=
  [.executeQuery .mariadb .new [] oneRowAnswers, .gotoRow 7,
    .executeQuery .mariadb .new []
      ⟨⟨0, some ⟨1, 2, [fun _ => some [50, 0]], le_rfl, by simp⟩⟩,
        oneRowAnswers.sqlite⟩]

theorem readOut_after_executesTwice :
    ∃ state, run CursorState.step (.initial .new) executesTwice = .ok state ∧
      readOut 1 2 state.resultSet =
        some (takeColumns 1
          (executesTwice.flatMap CResultSet.Call.appended)) ∧
      takeColumns 1 (executesTwice.flatMap CResultSet.Call.appended) =
        .ok [[[49]], [[50]]] ∧
      takeColumns 2 (executesTwice.flatMap CResultSet.Call.appended) =
        .error .outOfRange := by
  refine ⟨_, rfl, ?_, by decide, by decide⟩
  exact readOut_after_history executesTwice _ rfl (by decide) 1 2 (by decide)

end MDK
