import MDK.QueryExecution

/-!
# What a query can come to

The outcome of a query without the engine that ran it: an error, a statement
without result columns, or a table.  Each engine presents an outcome through
its own client interface, and `ExecuteQuery` reads a table back through either
interface as the rows of the table.
-/

namespace MDK

open CString

/-- A result of text cells, none of which is SQL NULL or holds a NUL byte. -/
structure Table where
  columns : ℕ
  columns_pos : 0 < columns
  rows : List (Fin columns → Cell)
  nul_notMem : ∀ row ∈ rows, ∀ i, 0 ∉ row i

def Table.matrix (table : Table) : List (List Cell) :=
  table.rows.map fun row => List.ofFn row

/-- Both libraries hand a cell out as its bytes and a terminator. -/
def Table.fetched (table : Table) : List (FetchedRow table.columns) :=
  table.rows.map fun row i => some (row i ++ [0])

inductive QueryOutcome where
  | error
  | noColumns
  | table (table : Table)

def Table.mysqlRes (table : Table) : MysqlRes where
  rowCount := table.rows.length
  fields := table.columns
  fetched := table.fetched
  fetched_le := by simp [Table.fetched]
  fetched_nil := fun hzero => absurd hzero table.columns_pos.ne'

def Table.sqliteStmt (table : Table) : SqliteStmt where
  fields := table.columns
  rows := table.fetched
  last := sqliteDone
  last_ne_row := sqliteDone_ne_sqliteRow
  rows_nil := fun hzero => absurd hzero table.columns_pos.ne'

/-- MariaDB refuses the statement, or has no result to store for it. -/
def MariaDBAnswers.Presents (answers : MariaDBAnswers) : QueryOutcome → Prop
  | .error => answers.query ≠ 0
  | .noColumns => answers.query = 0 ∧ answers.stored = none
  | .table table => answers.query = 0 ∧ answers.stored = some table.mysqlRes

/-- SQLite refuses a statement when it is prepared or at its first step. -/
def SqliteAnswers.Presents (answers : SqliteAnswers) : QueryOutcome → Prop
  | .error =>
      answers.prepare ≠ sqliteOk ∨
        answers.prepare = sqliteOk ∧ ∃ stmt, answers.stmt = some stmt ∧
          0 < stmt.fields ∧ stmt.rows = [] ∧ stmt.last ≠ sqliteDone
  | .noColumns =>
      answers.prepare = sqliteOk ∧ ∃ stmt, answers.stmt = some stmt ∧
        stmt.fields = 0 ∧ stmt.rows = [] ∧ stmt.last = sqliteDone
  | .table table =>
      answers.prepare = sqliteOk ∧ answers.stmt = some table.sqliteStmt

/-! ## Reading a table back -/

theorem Table.fetched_nullFree (table : Table) :
    ∀ row ∈ table.fetched, NullFree row := by
  intro row hrow
  rcases List.mem_map.mp hrow with ⟨source, _, rfl⟩
  intro i
  rfl

theorem Table.map_rowTexts_fetched (table : Table) :
    table.fetched.map rowTexts = table.matrix := by
  unfold Table.fetched Table.matrix
  rw [List.map_map]
  apply List.map_congr_left
  intro row hrow
  have hcells : ∀ i, cellText (some (row i ++ [0])) = row i := by
    intro i
    exact cString_append_zero (table.nul_notMem row hrow i) []
  simp [rowTexts, hcells, List.ofFn_eq_map]

theorem Table.matrix_length (table : Table) :
    table.matrix.length = table.rows.length := by
  simp [Table.matrix]

theorem Table.fetched_eq_nil_iff (table : Table) :
    table.fetched = [] ↔ table.rows = [] := by
  simp [Table.fetched]

theorem Table.length_of_mem_matrix
    (table : Table) {cells : List Cell} (hcells : cells ∈ table.matrix) :
    cells.length = table.columns := by
  rcases List.mem_map.mp hcells with ⟨row, _, rfl⟩
  simp

/-- A non-empty table is appended whole by the MariaDB branch. -/
theorem executeMariaDB_table
    {answers : MariaDBAnswers} {table : Table}
    (hpresents : answers.Presents (.table table)) (hrows : table.rows ≠ [])
    (rs : CResultSet) (db : DatabasePointer) (sql : List UInt8) :
    (executeMariaDB rs db sql answers).returned = .ok true ∧
      (executeMariaDB rs db sql answers).resultSet =
        { rs with vvRows := rs.vvRows ++ table.matrix } := by
  rcases hpresents with ⟨hquery, hstored⟩
  have hfields : table.mysqlRes.fields ≠ 0 := table.columns_pos.ne'
  have hfetched : table.mysqlRes.fetched ≠ [] :=
    fun hnil => hrows (table.fetched_eq_nil_iff.mp hnil)
  have hnull : ∀ row ∈ table.mysqlRes.fetched, NullFree row :=
    table.fetched_nullFree
  have hmatrix : table.mysqlRes.fetched.map rowTexts = table.matrix :=
    table.map_rowTexts_fetched
  rw [executeMariaDB_of_rows rs db sql hquery hstored hfields hfetched,
    finish_of_nullFree hnull, hmatrix]
  exact ⟨rfl, rfl⟩

/-- A non-empty table is appended whole by the SQLite branch. -/
theorem executeSqlite_table
    {answers : SqliteAnswers} {table : Table}
    (hpresents : answers.Presents (.table table)) (hrows : table.rows ≠ [])
    (rs : CResultSet) (db : DatabasePointer) (sql : List UInt8) :
    (executeSqlite rs db sql answers).returned = .ok true ∧
      (executeSqlite rs db sql answers).resultSet =
        { rs with vvRows := rs.vvRows ++ table.matrix } := by
  rcases hpresents with ⟨hprepare, hstmt⟩
  have hfields : table.sqliteStmt.fields ≠ 0 := table.columns_pos.ne'
  have hfetched : table.sqliteStmt.rows ≠ [] :=
    fun hnil => hrows (table.fetched_eq_nil_iff.mp hnil)
  have hnull : ∀ row ∈ table.sqliteStmt.rows, NullFree row :=
    table.fetched_nullFree
  have hmatrix : table.sqliteStmt.rows.map rowTexts = table.matrix :=
    table.map_rowTexts_fetched
  rw [executeSqlite_of_rows rs db sql hprepare hstmt hfields hfetched,
    finish_of_nullFree hnull, hmatrix]
  exact ⟨rfl, rfl⟩

end MDK
