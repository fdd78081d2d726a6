import MDK.Database
import MDK.ResultSet

/-!
# Executing a query

`CResultSet::ExecuteQuery` in its two engine branches.  The client libraries
are not part of the repository, so what they answer to the calls of one
execution is a record, and every call is logged with the pointer it is made on
and the result that decides how the code goes on.  A row is fetched as one
pointer per column: `none` is the null pointer that stands for SQL NULL.
-/

namespace MDK

open CString

abbrev FetchedCell := Option (List UInt8)

abbrev FetchedRow (fields : ℕ) := Fin fields → FetchedCell

/-- A stored result of MariaDB.  `mysql_fetch_row` delivers no more rows than
the result counts, and none without columns. -/
structure MysqlRes where
  rowCount : ℕ
  fields : ℕ
  fetched : List (FetchedRow fields)
  fetched_le : fetched.length ≤ rowCount
  fetched_nil : fields = 0 → fetched = []

structure MariaDBAnswers where
  query : ℤ
  stored : Option MysqlRes

def sqliteOk : ℤ := 0

def sqliteRow : ℤ := 100

def sqliteDone : ℤ := 101

theorem sqliteDone_ne_sqliteRow : sqliteDone ≠ sqliteRow := by decide

/-- A prepared statement of SQLite: the rows its steps deliver, and the result
of the step after the last row. -/
structure SqliteStmt where
  fields : ℕ
  rows : List (FetchedRow fields)
  last : ℤ
  last_ne_row : last ≠ sqliteRow
  rows_nil : fields = 0 → rows = []

structure SqliteAnswers where
  prepare : ℤ
  stmt : Option SqliteStmt

structure ClientAnswers where
  mariadb : MariaDBAnswers
  sqlite : SqliteAnswers

inductive ClientCall where
  | mysqlQuery (db : DatabasePointer) (sql : List UInt8) (result : ℤ)
  | mysqlStoreResult (db : DatabasePointer) (stored : Bool)
  | mysqlFetchRow (delivered : Bool)
  | mysqlFreeResult
  | mysqlError (db : DatabasePointer)
  | mysqlErrorOfDatabaseObject
  | sqlitePrepare (db : DatabasePointer) (sql : List UInt8) (length : ℤ)
      (result : ℤ) (acquired : Bool)
  | sqliteStep (result : ℤ)
  | sqliteFinalize (acquired : Bool)
  | sqliteErrmsg (db : DatabasePointer)
  deriving DecidableEq, Repr

/-! ## Reading rows -/

/-- `std::string` from a `const char *`, which throws on a null pointer. -/
def stdString : FetchedCell → Except CppException Cell
  | some memory => .ok (cString memory)
  | none => .error .logicError

def readCells {fields : ℕ} (row : FetchedRow fields) :
    List (Fin fields) → List Cell → Except CppException (List Cell)
  | [], vec => .ok vec
  | i :: rest, vec =>
      match stdString (row i) with
      | .error exception => .error exception
      | .ok text => readCells row rest (vec ++ [text])

def readRow {fields : ℕ} (row : FetchedRow fields) :
    Except CppException (List Cell) :=
  readCells row (List.finRange fields) []

structure FetchedRows where
  resultSet : CResultSet
  calls : List ClientCall
  thrown : Option CppException

/-- The `do ... while` loop of both branches, entered with the first row
already fetched: each round reads a row, appends it and fetches the next. -/
def fetchLoop {fields : ℕ} (fetch : Bool → ClientCall) :
    CResultSet → List (FetchedRow fields) → FetchedRows
  | rs, [] => ⟨rs, [], none⟩
  | rs, row :: rest =>
      match readRow row with
      | .error exception => ⟨rs, [], some exception⟩
      | .ok vec =>
          let tail := fetchLoop fetch { rs with vvRows := rs.vvRows ++ [vec] } rest
          ⟨tail.resultSet, fetch (!rest.isEmpty) :: tail.calls, tail.thrown⟩

/-! ## The two branches -/

def SqliteStmt.stepCall (stmt : SqliteStmt) (more : Bool) : ClientCall :=
  .sqliteStep (if more then sqliteRow else stmt.last)

structure Execution where
  resultSet : CResultSet
  calls : List ClientCall
  returned : Except CppException Bool

/-- The end of a branch: an exception leaves before the result is released. -/
def FetchedRows.finish (loop : FetchedRows) (before : List ClientCall)
    (release : ClientCall) : Execution :=
  match loop.thrown with
  | some exception => ⟨loop.resultSet, before ++ loop.calls, .error exception⟩
  | none => ⟨loop.resultSet, before ++ loop.calls ++ [release], .ok true⟩

def executeMariaDB (rs : CResultSet) (db : DatabasePointer) (sql : List UInt8)
    (client : MariaDBAnswers) : Execution :=
  let query := ClientCall.mysqlQuery db (cString sql) client.query
  if client.query ≠ 0 then ⟨rs, [query, .mysqlError db], .ok false⟩
  else
    match client.stored with
    | none => ⟨rs, [query, .mysqlStoreResult db false, .mysqlError db], .ok false⟩
    | some result =>
        let stored := [query, .mysqlStoreResult db true]
        if result.rowCount = 0 then ⟨rs, stored ++ [.mysqlFreeResult], .ok true⟩
        else if result.fields = 0 then ⟨rs, stored ++ [.mysqlFreeResult], .ok true⟩
        else if result.fetched.isEmpty then
          -- The error text is asked of `db`, the `CDatabase`, not of its handle.
          ⟨rs, stored ++ [.mysqlFetchRow false, .mysqlFreeResult,
            .mysqlErrorOfDatabaseObject], .ok false⟩
        else
          (fetchLoop .mysqlFetchRow rs result.fetched).finish
            (stored ++ [.mysqlFetchRow true]) .mysqlFreeResult

def executeSqlite (rs : CResultSet) (db : DatabasePointer) (sql : List UInt8)
    (client : SqliteAnswers) : Execution :=
  let prepare := ClientCall.sqlitePrepare db sql (toInt sql.length) client.prepare
  if client.prepare ≠ sqliteOk then
    ⟨rs, [prepare false, .sqliteErrmsg db], .ok false⟩
  else
    match client.stmt with
    | none =>
        -- An empty text prepares to a null statement, which has no columns.
        ⟨rs, [prepare false, .sqliteFinalize false], .ok false⟩
    | some stmt =>
        if stmt.fields = 0 then
          ⟨rs, [prepare true, .sqliteFinalize true], .ok false⟩
        else if stmt.rows.isEmpty then
          ⟨rs, [prepare true, .sqliteStep stmt.last, .sqliteFinalize true],
            .ok false⟩
        else
          (fetchLoop stmt.stepCall rs stmt.rows).finish
            [prepare true, .sqliteStep sqliteRow] (.sqliteFinalize true)

/-- Without a branch for the type of the database the source falls through to
`return true`. -/
def CResultSet.executeQuery (rs : CResultSet) (build : Build) (db : CDatabase)
    (sql : List UInt8) (client : ClientAnswers) : Execution :=
  match db.engine build with
  | some .mariadb => executeMariaDB rs db.pointedDb sql client.mariadb
  | some .sqlite => executeSqlite rs db.pointedDb sql client.sqlite
  | none => ⟨rs, [], .ok true⟩

/-- Both engines deliver one row of one cell, and then SQLite ends with `last`. -/
def oneCellAnswers (cell : FetchedCell) (last : ℤ) (hlast : last ≠ sqliteRow) :
    ClientAnswers where
  mariadb := ⟨0, some ⟨1, 1, [fun _ => cell], le_rfl, by simp⟩⟩
  sqlite := ⟨sqliteOk, some ⟨1, [fun _ => cell], last, hlast, by simp⟩⟩

/-! ## What reading a row yields -/

/-- No cell of the row is SQL NULL. -/
def NullFree {fields : ℕ} (row : FetchedRow fields) : Prop :=
  ∀ i, (row i).isSome

instance {fields : ℕ} (row : FetchedRow fields) : Decidable (NullFree row) :=
  inferInstanceAs (Decidable (∀ i, (row i).isSome))

def cellText (cell : FetchedCell) : Cell := cString (cell.getD [])

def rowTexts {fields : ℕ} (row : FetchedRow fields) : List Cell :=
  (List.finRange fields).map fun i => cellText (row i)

@[simp] theorem rowTexts_length {fields : ℕ} (row : FetchedRow fields) :
    (rowTexts row).length = fields := by
  simp [rowTexts]

theorem readCells_of_isSome
    {fields : ℕ} {row : FetchedRow fields} {indices : List (Fin fields)}
    (hcells : ∀ i ∈ indices, (row i).isSome) (vec : List Cell) :
    readCells row indices vec =
      .ok (vec ++ indices.map fun i => cellText (row i)) := by
  induction indices generalizing vec with
  | nil => simp [readCells]
  | cons i rest ih =>
      rcases Option.isSome_iff_exists.mp (hcells i (by simp)) with ⟨memory, hcell⟩
      have hrest : ∀ j ∈ rest, (row j).isSome :=
        fun j hmem => hcells j (by simp [hmem])
      simp [readCells, hcell, stdString, ih hrest, cellText]

theorem readCells_of_null
    {fields : ℕ} {row : FetchedRow fields} {indices : List (Fin fields)}
    {i : Fin fields} (hmem : i ∈ indices) (hnull : row i = none)
    (vec : List Cell) :
    readCells row indices vec = .error .logicError := by
  induction indices generalizing vec with
  | nil => simp at hmem
  | cons j rest ih =>
      cases hcell : row j with
      | none => simp [readCells, hcell, stdString]
      | some memory =>
          have hne : i ≠ j := by
            intro heq
            rw [heq, hcell] at hnull
            contradiction
          have hrest : i ∈ rest := by simpa [hne] using hmem
          simp [readCells, hcell, stdString, ih hrest]

theorem readRow_of_nullFree
    {fields : ℕ} {row : FetchedRow fields} (hrow : NullFree row) :
    readRow row = .ok (rowTexts row) := by
  unfold readRow
  rw [readCells_of_isSome (fun i _ => hrow i)]
  simp [rowTexts]

theorem readRow_of_not_nullFree
    {fields : ℕ} {row : FetchedRow fields} (hrow : ¬ NullFree row) :
    readRow row = .error .logicError := by
  have hnull : ∃ i, row i = none := by
    simpa [NullFree] using hrow
  rcases hnull with ⟨i, hi⟩
  exact readCells_of_null (List.mem_finRange i) hi []

/-! ## What the fetch loop does -/

/-- The rows the loop appends: those before the first row with a NULL. -/
def readableRows {fields : ℕ} (rows : List (FetchedRow fields)) :
    List (List Cell) :=
  (rows.takeWhile fun row => decide (NullFree row)).map rowTexts

theorem readableRows_of_nullFree
    {fields : ℕ} {rows : List (FetchedRow fields)}
    (hrows : ∀ row ∈ rows, NullFree row) :
    readableRows rows = rows.map rowTexts := by
  unfold readableRows
  rw [List.takeWhile_eq_self_iff.mpr]
  intro row hrow
  simpa using hrows row hrow

theorem fetchLoop_resultSet
    {fields : ℕ} (fetch : Bool → ClientCall) (rs : CResultSet)
    (rows : List (FetchedRow fields)) :
    (fetchLoop fetch rs rows).resultSet =
      { rs with vvRows := rs.vvRows ++ readableRows rows } := by
  induction rows generalizing rs with
  | nil => simp [fetchLoop, readableRows]
  | cons row rest ih =>
      by_cases hrow : NullFree row
      · simp only [fetchLoop, readRow_of_nullFree hrow]
        rw [ih]
        simp [readableRows, hrow]
      · simp [fetchLoop, readRow_of_not_nullFree hrow, readableRows, hrow]

theorem fetchLoop_thrown
    {fields : ℕ} (fetch : Bool → ClientCall) (rs : CResultSet)
    (rows : List (FetchedRow fields)) :
    (fetchLoop fetch rs rows).thrown =
      if ∀ row ∈ rows, NullFree row then none else some .logicError := by
  induction rows generalizing rs with
  | nil => simp [fetchLoop]
  | cons row rest ih =>
      by_cases hrow : NullFree row
      · simp only [fetchLoop, readRow_of_nullFree hrow]
        rw [ih]
        simp [hrow]
      · simp [fetchLoop, readRow_of_not_nullFree hrow, hrow]

theorem fetchLoop_calls
    {fields : ℕ} (fetch : Bool → ClientCall) (first second : CResultSet)
    (rows : List (FetchedRow fields)) :
    (fetchLoop fetch first rows).calls = (fetchLoop fetch second rows).calls := by
  induction rows generalizing first second with
  | nil => simp [fetchLoop]
  | cons row rest ih =>
      by_cases hrow : NullFree row
      · simp only [fetchLoop, readRow_of_nullFree hrow]
        rw [ih]
      · simp [fetchLoop, readRow_of_not_nullFree hrow]

theorem fetchLoop_calls_subset
    {fields : ℕ} (fetch : Bool → ClientCall) (rs : CResultSet)
    (rows : List (FetchedRow fields)) :
    ∀ call ∈ (fetchLoop fetch rs rows).calls, ∃ more, call = fetch more := by
  induction rows generalizing rs with
  | nil => simp [fetchLoop]
  | cons row rest ih =>
      by_cases hrow : NullFree row
      · simp only [fetchLoop, readRow_of_nullFree hrow, List.mem_cons]
        rintro call (rfl | hmem)
        · exact ⟨_, rfl⟩
        · exact ih _ call hmem
      · simp [fetchLoop, readRow_of_not_nullFree hrow]

theorem finish_of_nullFree
    {fields : ℕ} {rows : List (FetchedRow fields)}
    (hrows : ∀ row ∈ rows, NullFree row) (fetch : Bool → ClientCall)
    (rs : CResultSet) (before : List ClientCall) (release : ClientCall) :
    (fetchLoop fetch rs rows).finish before release =
      ⟨{ rs with vvRows := rs.vvRows ++ rows.map rowTexts },
        before ++ (fetchLoop fetch rs rows).calls ++ [release], .ok true⟩ := by
  have hthrown := fetchLoop_thrown fetch rs rows
  rw [if_pos hrows] at hthrown
  simp only [FetchedRows.finish, hthrown, fetchLoop_resultSet,
    readableRows_of_nullFree hrows]

theorem finish_of_null
    {fields : ℕ} {rows : List (FetchedRow fields)}
    (hrows : ¬ ∀ row ∈ rows, NullFree row) (fetch : Bool → ClientCall)
    (rs : CResultSet) (before : List ClientCall) (release : ClientCall) :
    (fetchLoop fetch rs rows).finish before release =
      ⟨{ rs with vvRows := rs.vvRows ++ readableRows rows },
        before ++ (fetchLoop fetch rs rows).calls, .error .logicError⟩ := by
  have hthrown := fetchLoop_thrown fetch rs rows
  rw [if_neg hrows] at hthrown
  simp only [FetchedRows.finish, hthrown, fetchLoop_resultSet]

/-! ## Branch by branch -/

section MariaDB

variable {client : MariaDBAnswers} (rs : CResultSet) (db : DatabasePointer)
  (sql : List UInt8)

theorem executeMariaDB_of_queryFailed (hquery : client.query ≠ 0) :
    executeMariaDB rs db sql client =
      ⟨rs, [.mysqlQuery db (cString sql) client.query, .mysqlError db],
        .ok false⟩ := by
  simp [executeMariaDB, hquery]

theorem executeMariaDB_of_notStored
    (hquery : client.query = 0) (hstored : client.stored = none) :
    executeMariaDB rs db sql client =
      ⟨rs, [.mysqlQuery db (cString sql) 0, .mysqlStoreResult db false,
        .mysqlError db], .ok false⟩ := by
  simp [executeMariaDB, hquery, hstored]

theorem executeMariaDB_of_noCells
    {result : MysqlRes} (hquery : client.query = 0)
    (hstored : client.stored = some result)
    (hcells : result.rowCount = 0 ∨ result.fields = 0) :
    executeMariaDB rs db sql client =
      ⟨rs, [.mysqlQuery db (cString sql) 0, .mysqlStoreResult db true,
        .mysqlFreeResult], .ok true⟩ := by
  by_cases hcount : result.rowCount = 0
  · simp [executeMariaDB, hquery, hstored, hcount]
  · have hfields : result.fields = 0 := hcells.resolve_left hcount
    simp [executeMariaDB, hquery, hstored, hcount, hfields]

theorem executeMariaDB_of_noFetch
    {result : MysqlRes} (hquery : client.query = 0)
    (hstored : client.stored = some result) (hcount : result.rowCount ≠ 0)
    (hfields : result.fields ≠ 0) (hfetched : result.fetched = []) :
    executeMariaDB rs db sql client =
      ⟨rs, [.mysqlQuery db (cString sql) 0, .mysqlStoreResult db true,
        .mysqlFetchRow false, .mysqlFreeResult, .mysqlErrorOfDatabaseObject],
        .ok false⟩ := by
  simp [executeMariaDB, hquery, hstored, hcount, hfields, hfetched]

theorem executeMariaDB_of_rows
    {result : MysqlRes} (hquery : client.query = 0)
    (hstored : client.stored = some result)
    (hfields : result.fields ≠ 0) (hfetched : result.fetched ≠ []) :
    executeMariaDB rs db sql client =
      (fetchLoop .mysqlFetchRow rs result.fetched).finish
        [.mysqlQuery db (cString sql) 0, .mysqlStoreResult db true,
          .mysqlFetchRow true] .mysqlFreeResult := by
  have hcount : result.rowCount ≠ 0 := by
    have hpos := List.length_pos_iff.mpr hfetched
    have hle := result.fetched_le
    omega
  simp [executeMariaDB, hquery, hstored, hcount, hfields, hfetched]

end MariaDB

section Sqlite

variable {client : SqliteAnswers} (rs : CResultSet) (db : DatabasePointer)
  (sql : List UInt8)

theorem executeSqlite_of_prepareFailed (hprepare : client.prepare ≠ sqliteOk) :
    executeSqlite rs db sql client =
      ⟨rs, [.sqlitePrepare db sql (toInt sql.length) client.prepare false,
        .sqliteErrmsg db], .ok false⟩ := by
  simp [executeSqlite, hprepare]

theorem executeSqlite_of_noStatement
    (hprepare : client.prepare = sqliteOk) (hstmt : client.stmt = none) :
    executeSqlite rs db sql client =
      ⟨rs, [.sqlitePrepare db sql (toInt sql.length) sqliteOk false,
        .sqliteFinalize false], .ok false⟩ := by
  simp [executeSqlite, hprepare, hstmt]

theorem executeSqlite_of_noFields
    {stmt : SqliteStmt} (hprepare : client.prepare = sqliteOk)
    (hstmt : client.stmt = some stmt) (hfields : stmt.fields = 0) :
    executeSqlite rs db sql client =
      ⟨rs, [.sqlitePrepare db sql (toInt sql.length) sqliteOk true,
        .sqliteFinalize true], .ok false⟩ := by
  simp [executeSqlite, hprepare, hstmt, hfields]

theorem executeSqlite_of_noRows
    {stmt : SqliteStmt} (hprepare : client.prepare = sqliteOk)
    (hstmt : client.stmt = some stmt) (hfields : stmt.fields ≠ 0)
    (hrows : stmt.rows = []) :
    executeSqlite rs db sql client =
      ⟨rs, [.sqlitePrepare db sql (toInt sql.length) sqliteOk true,
        .sqliteStep stmt.last, .sqliteFinalize true], .ok false⟩ := by
  simp [executeSqlite, hprepare, hstmt, hfields, hrows]

theorem executeSqlite_of_rows
    {stmt : SqliteStmt} (hprepare : client.prepare = sqliteOk)
    (hstmt : client.stmt = some stmt) (hfields : stmt.fields ≠ 0)
    (hrows : stmt.rows ≠ []) :
    executeSqlite rs db sql client =
      (fetchLoop stmt.stepCall rs stmt.rows).finish
        [.sqlitePrepare db sql (toInt sql.length) sqliteOk true,
          .sqliteStep sqliteRow] (.sqliteFinalize true) := by
  simp [executeSqlite, hprepare, hstmt, hfields, hrows]

end Sqlite

/-! ## Past rows are a prefix -/

/-- The rows that an execution appends do not depend on the result set. -/
structure Execution.SameEffect (first second : Execution)
    (left right : CResultSet) : Prop where
  calls : first.calls = second.calls
  returned : first.returned = second.returned
  appended : ∃ rows,
    first.resultSet = { left with vvRows := left.vvRows ++ rows } ∧
    second.resultSet = { right with vvRows := right.vvRows ++ rows }

theorem Execution.sameEffect_of_unchanged
    (left right : CResultSet) (calls : List ClientCall) (value : Bool) :
    Execution.SameEffect ⟨left, calls, .ok value⟩ ⟨right, calls, .ok value⟩
      left right := by
  refine ⟨rfl, rfl, [], ?_⟩
  simp

theorem finish_sameEffect
    {fields : ℕ} (fetch : Bool → ClientCall) (rows : List (FetchedRow fields))
    (calls : List ClientCall) (release : ClientCall) (left right : CResultSet) :
    Execution.SameEffect
      ((fetchLoop fetch left rows).finish calls release)
      ((fetchLoop fetch right rows).finish calls release) left right := by
  have hcalls := fetchLoop_calls fetch left right rows
  by_cases hrows : ∀ row ∈ rows, NullFree row
  · rw [finish_of_nullFree hrows, finish_of_nullFree hrows, hcalls]
    exact ⟨rfl, rfl, rows.map rowTexts, rfl, rfl⟩
  · rw [finish_of_null hrows, finish_of_null hrows, hcalls]
    exact ⟨rfl, rfl, readableRows rows, rfl, rfl⟩

theorem executeMariaDB_sameEffect
    (left right : CResultSet) (db : DatabasePointer) (sql : List UInt8)
    (client : MariaDBAnswers) :
    Execution.SameEffect (executeMariaDB left db sql client)
      (executeMariaDB right db sql client) left right := by
  unfold executeMariaDB
  dsimp only
  split
  · exact Execution.sameEffect_of_unchanged left right _ false
  · cases client.stored with
    | none => exact Execution.sameEffect_of_unchanged left right _ false
    | some result =>
        dsimp only
        split
        · exact Execution.sameEffect_of_unchanged left right _ true
        · split
          · exact Execution.sameEffect_of_unchanged left right _ true
          · split
            · exact Execution.sameEffect_of_unchanged left right _ false
            · exact finish_sameEffect _ _ _ _ left right

theorem executeSqlite_sameEffect
    (left right : CResultSet) (db : DatabasePointer) (sql : List UInt8)
    (client : SqliteAnswers) :
    Execution.SameEffect (executeSqlite left db sql client)
      (executeSqlite right db sql client) left right := by
  unfold executeSqlite
  dsimp only
  split
  · exact Execution.sameEffect_of_unchanged left right _ false
  · cases client.stmt with
    | none => exact Execution.sameEffect_of_unchanged left right _ false
    | some stmt =>
        dsimp only
        split
        · exact Execution.sameEffect_of_unchanged left right _ false
        · split
          · exact Execution.sameEffect_of_unchanged left right _ false
          · exact finish_sameEffect _ _ _ _ left right

/-- Two result sets see the same calls, the same return and the same appended
rows: an execution never looks at the rows or the cursor it starts from. -/
theorem CResultSet.executeQuery_sameEffect
    (left right : CResultSet) (build : Build) (db : CDatabase)
    (sql : List UInt8) (client : ClientAnswers) :
    Execution.SameEffect (left.executeQuery build db sql client)
      (right.executeQuery build db sql client) left right := by
  unfold CResultSet.executeQuery
  split
  · exact executeMariaDB_sameEffect left right _ sql client.mariadb
  · exact executeSqlite_sameEffect left right _ sql client.sqlite
  · exact Execution.sameEffect_of_unchanged left right _ true

theorem CResultSet.executeQuery_vvRows
    (rs : CResultSet) (build : Build) (db : CDatabase) (sql : List UInt8)
    (client : ClientAnswers) :
    (rs.executeQuery build db sql client).resultSet.vvRows =
      rs.vvRows ++ (CResultSet.new.executeQuery build db sql client).resultSet.vvRows := by
  rcases (rs.executeQuery_sameEffect CResultSet.new build db sql client).appended
    with ⟨rows, hold, hnew⟩
  rw [hold, hnew]
  simp [CResultSet.new]

@[simp] theorem CResultSet.executeQuery_uiPos
    (rs : CResultSet) (build : Build) (db : CDatabase) (sql : List UInt8)
    (client : ClientAnswers) :
    (rs.executeQuery build db sql client).resultSet.uiPos = rs.uiPos := by
  rcases (rs.executeQuery_sameEffect rs build db sql client).appended
    with ⟨rows, hrows, _⟩
  rw [hrows]

end MDK
