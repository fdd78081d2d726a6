import MDK.QueryOutcome

/-!
# Reading a result out

The documented use of a result set: execute the query, go to the first row, and
read the columns of a row before every step to the next one.  On a non-empty
table the loop ends by itself and has seen the matrix of the table.
-/

namespace MDK

def readColumns (rs : CResultSet) :
    List ℕ → Except CppException (List Cell)
  | [] => .ok []
  | index :: rest =>
      match rs.getStringFromRow index with
      | .error exception => .error exception
      | .ok cell =>
          match readColumns rs rest with
          | .error exception => .error exception
          | .ok cells => .ok (cell :: cells)

/-- The loop `do { read the columns } while (GotoNextRow())`; `none` means that
it has not ended within the fuel. -/
def readLoop (columns : ℕ) :
    ℕ → CResultSet → Option (Except CppException (List (List Cell)))
  | 0, _ => none
  | fuel + 1, rs =>
      match readColumns rs (List.range columns) with
      | .error exception => some (.error exception)
      | .ok cells =>
          match rs.gotoNextRow with
          | (false, _) => some (.ok [cells])
          | (true, moved) =>
              match readLoop columns fuel moved with
              | some (.ok rows) => some (.ok (cells :: rows))
              | stopped => stopped

def readOut (columns fuel : ℕ) (rs : CResultSet) :
    Option (Except CppException (List (List Cell))) :=
  match rs.gotoFirstRow with
  | (false, _) => some (.ok [])
  | (true, first) => readLoop columns fuel first

/-- The getters read the columns of the current row from any index on. -/
theorem readColumns_from
    {rs : CResultSet} {row : List Cell}
    (hrow : rs.vvRows[rs.uiPos.toNat]? = some row) (start count : ℕ)
    (hcount : start + count = row.length) :
    readColumns rs (List.range' start count) = .ok (row.drop start) := by
  induction count generalizing start with
  | zero =>
      have hdrop : row.drop start = [] := List.drop_of_length_le (by omega)
      rw [hdrop]
      rfl
  | succ count ih =>
      have hlt : start < row.length := by omega
      have hread :=
        CResultSet.getStringFromRow_of_getElem hrow (List.getElem?_eq_getElem hlt)
      have hrest := ih (start + 1) (by omega)
      rw [List.range'_succ, List.drop_eq_getElem_cons hlt]
      simp only [readColumns, hread, hrest]

theorem readColumns_row
    {rs : CResultSet} {row : List Cell}
    (hrow : rs.vvRows[rs.uiPos.toNat]? = some row) :
    readColumns rs (List.range row.length) = .ok row := by
  rw [List.range_eq_range']
  simpa using readColumns_from hrow 0 row.length (by omega)

theorem gotoNextRow_of_more
    {rs : CResultSet} (hsize : rs.vvRows.length < 2 ^ 63)
    (hmore : rs.uiPos.toNat + 1 < rs.vvRows.length) :
    rs.gotoNextRow = (true, { rs with uiPos := rs.uiPos + 1 }) := by
  have hnext : (rs.uiPos + 1 + 1).toNat = rs.uiPos.toNat + 2 := by
    simp only [UInt64.toNat_add, UInt64.toNat_one]
    omega
  have hnot : ¬ rs.vvRows.length < (rs.uiPos + 1 + 1).toNat := by omega
  simp only [CResultSet.gotoNextRow, if_neg hnot]

theorem gotoNextRow_of_last
    {rs : CResultSet} (hsize : rs.vvRows.length < 2 ^ 63)
    (hlast : rs.uiPos.toNat + 1 = rs.vvRows.length) :
    rs.gotoNextRow = (false, { rs with uiPos := rs.uiPos + 1 }) := by
  have hnext : (rs.uiPos + 1 + 1).toNat = rs.uiPos.toNat + 2 := by
    simp only [UInt64.toNat_add, UInt64.toNat_one]
    omega
  have hlt : rs.vvRows.length < (rs.uiPos + 1 + 1).toNat := by omega
  simp only [CResultSet.gotoNextRow, if_pos hlt]

/-- From a cursor on a row, the loop reads that row and all rows behind it. -/
theorem readLoop_from
    {columns : ℕ} (remaining fuel : ℕ) (rs : CResultSet)
    (hsize : rs.vvRows.length < 2 ^ 63)
    (hwidth : ∀ row ∈ rs.vvRows, row.length = columns)
    (hpos : rs.uiPos.toNat + remaining + 1 = rs.vvRows.length)
    (hfuel : remaining < fuel) :
    readLoop columns fuel rs =
      some (.ok (rs.vvRows.drop rs.uiPos.toNat)) := by
  induction remaining generalizing fuel rs with
  | zero =>
      rcases Nat.exists_eq_add_of_lt hfuel with ⟨extra, rfl⟩
      have hlt : rs.uiPos.toNat < rs.vvRows.length := by omega
      have hrow := List.getElem?_eq_getElem hlt
      have hread := readColumns_row hrow
      rw [hwidth _ (List.getElem_mem hlt)] at hread
      have hdrop : rs.vvRows.drop (rs.uiPos.toNat + 1) = [] :=
        List.drop_of_length_le (by omega)
      rw [show 0 + extra + 1 = extra + 1 by omega, readLoop, hread,
        gotoNextRow_of_last hsize (by omega), List.drop_eq_getElem_cons hlt,
        hdrop]
  | succ remaining ih =>
      rcases Nat.exists_eq_add_of_lt hfuel with ⟨extra, rfl⟩
      have hlt : rs.uiPos.toNat < rs.vvRows.length := by omega
      have hrow := List.getElem?_eq_getElem hlt
      have hread := readColumns_row hrow
      rw [hwidth _ (List.getElem_mem hlt)] at hread
      have hnext : (rs.uiPos + 1).toNat = rs.uiPos.toNat + 1 := by
        simp only [UInt64.toNat_add, UInt64.toNat_one]
        omega
      have htail := ih (remaining + 1 + extra) { rs with uiPos := rs.uiPos + 1 }
        hsize hwidth (by simp only [hnext]; omega) (by omega)
      rw [readLoop, hread, gotoNextRow_of_more hsize (by omega)]
      simp only [htail, hnext]
      rw [List.drop_eq_getElem_cons hlt]

/-- `max_size` of a vector of 24-byte elements: no row vector holds more. -/
def vectorMaxSize : ℕ := (2 ^ 63 - 1) / 24

theorem executeQuery_table
    {table : Table} (hrows : table.rows ≠ []) {build : Build} {db : CDatabase}
    (hengine : (db.engine build).isSome) {client : ClientAnswers}
    (hmariadb : client.mariadb.Presents (.table table))
    (hsqlite : client.sqlite.Presents (.table table))
    (rs : CResultSet) (sql : List UInt8) :
    (rs.executeQuery build db sql client).returned = .ok true ∧
      (rs.executeQuery build db sql client).resultSet =
        { rs with vvRows := rs.vvRows ++ table.matrix } := by
  rcases Option.isSome_iff_exists.mp hengine with ⟨engine, hbranch⟩
  cases engine with
  | mariadb =>
      simp only [CResultSet.executeQuery, hbranch]
      exact executeMariaDB_table hmariadb hrows rs db.pointedDb sql
  | sqlite =>
      simp only [CResultSet.executeQuery, hbranch]
      exact executeSqlite_table hsqlite hrows rs db.pointedDb sql

/-- Executing on a fresh object and reading out in the documented way yields
the table: every row once, in order, without an exception, in as many rounds as
there are rows. -/
theorem readOut_executeQuery
    (table : Table) (hrows : table.rows ≠ [])
    (hfits : table.rows.length ≤ vectorMaxSize)
    (build : Build) (db : CDatabase) (hengine : (db.engine build).isSome)
    (client : ClientAnswers)
    (hmariadb : client.mariadb.Presents (.table table))
    (hsqlite : client.sqlite.Presents (.table table))
    (sql : List UInt8) :
    let executed := CResultSet.new.executeQuery build db sql client
    executed.returned = .ok true ∧
      executed.resultSet.getTotalRows = table.rows.length ∧
      ∀ fuel, table.rows.length ≤ fuel →
        readOut table.columns fuel executed.resultSet =
          some (.ok table.matrix) := by
  dsimp only
  rcases executeQuery_table hrows hengine hmariadb hsqlite CResultSet.new sql
    with ⟨hreturned, hset⟩
  rw [hset]
  have hlength := table.matrix_length
  refine ⟨hreturned, by simpa [CResultSet.new, CResultSet.getTotalRows] using hlength, ?_⟩
  intro fuel hfuel
  have hpos : 0 < table.rows.length := List.length_pos_iff.mpr hrows
  have hmatrix : table.matrix ≠ [] := by
    rw [← List.length_pos_iff, hlength]
    exact hpos
  let first : CResultSet := ⟨table.matrix, 0⟩
  have hsize : first.vvRows.length < 2 ^ 63 := by
    have hmax : vectorMaxSize < 2 ^ 63 := by decide
    simp only [first, hlength]
    omega
  have hfirst :
      CResultSet.gotoFirstRow
          { CResultSet.new with vvRows := CResultSet.new.vvRows ++ table.matrix } =
        (true, first) := by
    rw [CResultSet.gotoFirstRow_of_ne_nil (by simpa [CResultSet.new] using hmatrix)]
    rfl
  have hloop := readLoop_from (table.rows.length - 1) fuel first hsize
    (fun row hrow => table.length_of_mem_matrix hrow)
    (by simp only [first, hlength, UInt64.toNat_zero]; omega) (by omega)
  rw [readOut, hfirst]
  simpa [first] using hloop

def twoRowTable : Table where
  columns := 1
  columns_pos := by decide
  rows := [fun _ => [49], fun _ => [50]]
  nul_notMem := by decide

theorem readOut_executeQuery_twoRows :
    let executed := CResultSet.new.executeQuery .mariadbSqlite ⟨none, .sqlite, 0⟩ []
      ⟨⟨0, some twoRowTable.mysqlRes⟩, ⟨sqliteOk, some twoRowTable.sqliteStmt⟩⟩
    executed.returned = .ok true ∧
      executed.resultSet.getTotalRows = twoRowTable.rows.length ∧
      ∀ fuel, twoRowTable.rows.length ≤ fuel →
        readOut twoRowTable.columns fuel executed.resultSet =
          some (.ok twoRowTable.matrix) :=
  readOut_executeQuery twoRowTable (by simp [twoRowTable]) (by decide)
    .mariadbSqlite ⟨none, .sqlite, 0⟩ rfl _ ⟨rfl, rfl⟩ ⟨rfl, rfl⟩ []

end MDK
