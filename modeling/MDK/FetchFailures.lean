import MDK.QueryExecution

/-!
# Failures while rows are fetched

The fetch loop runs while rows come, so the SQLite branch cannot tell an error
from the end of the rows, and a cell that is SQL NULL leaves the loop by an
exception.  Each of the two laws below says exactly when an execution is spared
the failure.
-/

namespace MDK

open CString

/-! ## Exits of an execution -/

/-- The rows that a client library hands out in one execution. -/
structure Delivered where
  fields : ℕ
  rows : List (FetchedRow fields)

def Delivered.none : Delivered := ⟨0, []⟩

def MariaDBAnswers.delivered (client : MariaDBAnswers) : Delivered :=
  if client.query = 0 then
    match client.stored with
    | some result => ⟨result.fields, result.fetched⟩
    | .none => .none
  else .none

def SqliteAnswers.delivered (client : SqliteAnswers) : Delivered :=
  if client.prepare = sqliteOk then
    match client.stmt with
    | some stmt => ⟨stmt.fields, stmt.rows⟩
    | .none => .none
  else .none

def ClientAnswers.delivered (client : ClientAnswers) :
    EDatabaseType → Delivered
  | .mariadb => client.mariadb.delivered
  | .sqlite => client.sqlite.delivered

def ClientCall.acquires : ClientCall → Bool
  | .mysqlStoreResult _ stored => stored
  | .sqlitePrepare _ _ _ _ acquired => acquired
  | _ => false

def ClientCall.releases : ClientCall → Bool
  | .mysqlFreeResult => true
  | .sqliteFinalize acquired => acquired
  | _ => false

/-- Every result or statement acquired by the calls is released once. -/
def Balanced (calls : List ClientCall) : Prop :=
  calls.countP ClientCall.releases = calls.countP ClientCall.acquires

theorem fetchLoop_calls_balanced
    {fields : ℕ} {fetch : Bool → ClientCall}
    (hreleases : ∀ more, (fetch more).releases = false)
    (hacquires : ∀ more, (fetch more).acquires = false)
    (rs : CResultSet) (rows : List (FetchedRow fields)) :
    Balanced (fetchLoop fetch rs rows).calls := by
  have hcalls := fetchLoop_calls_subset fetch rs rows
  have hreleased :
      (fetchLoop fetch rs rows).calls.countP ClientCall.releases = 0 := by
    apply List.countP_eq_zero.mpr
    intro call hmem
    rcases hcalls call hmem with ⟨more, rfl⟩
    simp [hreleases more]
  have hacquired :
      (fetchLoop fetch rs rows).calls.countP ClientCall.acquires = 0 := by
    apply List.countP_eq_zero.mpr
    intro call hmem
    rcases hcalls call hmem with ⟨more, rfl⟩
    simp [hacquires more]
  unfold Balanced
  rw [hreleased, hacquired]

theorem MariaDBAnswers.delivered_of_stored
    {client : MariaDBAnswers} {result : MysqlRes} (hquery : client.query = 0)
    (hstored : client.stored = some result) :
    client.delivered = ⟨result.fields, result.fetched⟩ := by
  simp [MariaDBAnswers.delivered, hquery, hstored]

theorem MariaDBAnswers.delivered_of_not
    {client : MariaDBAnswers}
    (hnone : client.query ≠ 0 ∨ client.stored = none) :
    client.delivered = .none := by
  rcases hnone with hquery | hstored
  · simp [MariaDBAnswers.delivered, hquery]
  · simp [MariaDBAnswers.delivered, hstored]

theorem SqliteAnswers.delivered_of_stmt
    {client : SqliteAnswers} {stmt : SqliteStmt}
    (hprepare : client.prepare = sqliteOk) (hstmt : client.stmt = some stmt) :
    client.delivered = ⟨stmt.fields, stmt.rows⟩ := by
  simp [SqliteAnswers.delivered, hprepare, hstmt]

theorem SqliteAnswers.delivered_of_not
    {client : SqliteAnswers}
    (hnone : client.prepare ≠ sqliteOk ∨ client.stmt = none) :
    client.delivered = .none := by
  rcases hnone with hprepare | hstmt
  · simp [SqliteAnswers.delivered, hprepare]
  · simp [SqliteAnswers.delivered, hstmt]

/-- The execution ends before any row is delivered: nothing was appended. -/
structure Execution.EndsEarly (execution : Execution) (rs : CResultSet)
    (delivered : Delivered) : Prop where
  returned : ∃ value, execution.returned = .ok value
  resultSet : execution.resultSet = rs
  balanced : Balanced execution.calls
  rows : delivered.rows = []

theorem Execution.EndsEarly.nullFree
    {execution : Execution} {rs : CResultSet} {delivered : Delivered}
    (hearly : execution.EndsEarly rs delivered) :
    ∀ row ∈ delivered.rows, NullFree row := by
  rw [hearly.rows]
  simp

theorem executeMariaDB_exits
    (rs : CResultSet) (db : DatabasePointer) (sql : List UInt8)
    (client : MariaDBAnswers) :
    (executeMariaDB rs db sql client).EndsEarly rs client.delivered ∨
      client.delivered.rows ≠ [] ∧
        executeMariaDB rs db sql client =
          (fetchLoop .mysqlFetchRow rs client.delivered.rows).finish
            [.mysqlQuery db (cString sql) 0, .mysqlStoreResult db true,
              .mysqlFetchRow true] .mysqlFreeResult := by
  by_cases hquery : client.query = 0
  · cases hstored : client.stored with
    | none =>
        left
        rw [executeMariaDB_of_notStored rs db sql hquery hstored,
          MariaDBAnswers.delivered_of_not (.inr hstored)]
        exact ⟨⟨false, rfl⟩, rfl, rfl, rfl⟩
    | some result =>
        rw [MariaDBAnswers.delivered_of_stored hquery hstored]
        by_cases hfetched : result.fetched = []
        · left
          by_cases hcells : result.rowCount = 0 ∨ result.fields = 0
          · rw [executeMariaDB_of_noCells rs db sql hquery hstored hcells]
            exact ⟨⟨true, rfl⟩, rfl, rfl, hfetched⟩
          · rw [not_or] at hcells
            rw [executeMariaDB_of_noFetch rs db sql hquery hstored hcells.1
              hcells.2 hfetched]
            exact ⟨⟨false, rfl⟩, rfl, rfl, hfetched⟩
        · right
          have hfields : result.fields ≠ 0 :=
            fun hzero => hfetched (result.fetched_nil hzero)
          exact ⟨hfetched,
            executeMariaDB_of_rows rs db sql hquery hstored hfields hfetched⟩
  · left
    rw [executeMariaDB_of_queryFailed rs db sql hquery,
      MariaDBAnswers.delivered_of_not (.inl hquery)]
    exact ⟨⟨false, rfl⟩, rfl, rfl, rfl⟩

theorem executeSqlite_exits
    (rs : CResultSet) (db : DatabasePointer) (sql : List UInt8)
    (client : SqliteAnswers) :
    (executeSqlite rs db sql client).EndsEarly rs client.delivered ∧
        (executeSqlite rs db sql client).returned = .ok false ∨
      ∃ stmt, client.prepare = sqliteOk ∧ client.stmt = some stmt ∧
        stmt.rows ≠ [] ∧ client.delivered = ⟨stmt.fields, stmt.rows⟩ ∧
        executeSqlite rs db sql client =
          (fetchLoop stmt.stepCall rs stmt.rows).finish
            [.sqlitePrepare db sql (toInt sql.length) sqliteOk true,
              .sqliteStep sqliteRow] (.sqliteFinalize true) := by
  by_cases hprepare : client.prepare = sqliteOk
  · cases hstmt : client.stmt with
    | none =>
        left
        rw [executeSqlite_of_noStatement rs db sql hprepare hstmt,
          SqliteAnswers.delivered_of_not (.inr hstmt)]
        exact ⟨⟨⟨false, rfl⟩, rfl, rfl, rfl⟩, rfl⟩
    | some stmt =>
        rw [SqliteAnswers.delivered_of_stmt hprepare hstmt]
        by_cases hrows : stmt.rows = []
        · left
          by_cases hfields : stmt.fields = 0
          · rw [executeSqlite_of_noFields rs db sql hprepare hstmt hfields]
            exact ⟨⟨⟨false, rfl⟩, rfl, rfl, hrows⟩, rfl⟩
          · rw [executeSqlite_of_noRows rs db sql hprepare hstmt hfields hrows]
            exact ⟨⟨⟨false, rfl⟩, rfl, rfl, hrows⟩, rfl⟩
        · right
          have hfields : stmt.fields ≠ 0 := fun hzero => hrows (stmt.rows_nil hzero)
          exact ⟨stmt, hprepare, rfl, hrows, rfl,
            executeSqlite_of_rows rs db sql hprepare hstmt hfields hrows⟩
  · left
    rw [executeSqlite_of_prepareFailed rs db sql hprepare,
      SqliteAnswers.delivered_of_not (.inl hprepare)]
    exact ⟨⟨⟨false, rfl⟩, rfl, rfl, rfl⟩, rfl⟩

theorem executeQuery_of_sqlite
    {build : Build} {db : CDatabase} (hengine : db.engine build = some .sqlite)
    (rs : CResultSet) (sql : List UInt8) (client : ClientAnswers) :
    rs.executeQuery build db sql client =
      executeSqlite rs db.pointedDb sql client.sqlite := by
  simp only [CResultSet.executeQuery, hengine]

theorem executeQuery_of_mariadb
    {build : Build} {db : CDatabase} (hengine : db.engine build = some .mariadb)
    (rs : CResultSet) (sql : List UInt8) (client : ClientAnswers) :
    rs.executeQuery build db sql client =
      executeMariaDB rs db.pointedDb sql client.mariadb := by
  simp only [CResultSet.executeQuery, hengine]

/-! ## Errors behind a row -/

/-- The execution returns true only for a fetch that reached the end and
appended every row, and leaves the object alone when it returns false. -/
structure CResultSet.ReportsTruncation
    (rs : CResultSet) (build : Build) (db : CDatabase) (sql : List UInt8)
    (client : ClientAnswers) : Prop where
  complete :
    (rs.executeQuery build db sql client).returned = .ok true →
      ∃ stmt, client.sqlite.stmt = some stmt ∧ stmt.last = sqliteDone ∧
        (rs.executeQuery build db sql client).resultSet.vvRows =
          rs.vvRows ++ stmt.rows.map rowTexts
  atomic :
    (rs.executeQuery build db sql client).returned = .ok false →
      (rs.executeQuery build db sql client).resultSet = rs

/-- Some step fails after the first row was delivered. -/
def SqliteAnswers.FailsBehindRow (client : SqliteAnswers) : Prop :=
  client.prepare = sqliteOk ∧ ∃ stmt, client.stmt = some stmt ∧
    stmt.rows ≠ [] ∧ stmt.last ≠ sqliteDone

/-- An execution on SQLite reports truncation exactly when no step fails behind
a delivered row. -/
theorem executeQuery_reportsTruncation_iff
    (rs : CResultSet) (build : Build) (db : CDatabase)
    (hengine : db.engine build = some .sqlite)
    (sql : List UInt8) (client : ClientAnswers)
    (hcells : ∀ stmt, client.sqlite.stmt = some stmt →
      ∀ row ∈ stmt.rows, NullFree row) :
    rs.ReportsTruncation build db sql client ↔
      ¬ client.sqlite.FailsBehindRow := by
  have hexecute := executeQuery_of_sqlite hengine rs sql client
  rcases executeSqlite_exits rs db.pointedDb sql client.sqlite with
    ⟨hearly, hfalse⟩ | ⟨stmt, hprepare, hstmt, hrows, _, hloop⟩
  · have hnot : ¬ client.sqlite.FailsBehindRow := by
      rintro ⟨hprepare, stmt, hstmt, hrows, _⟩
      rw [SqliteAnswers.delivered_of_stmt hprepare hstmt] at hearly
      exact hrows hearly.rows
    refine iff_of_true ⟨?_, ?_⟩ hnot
    · rw [hexecute, hfalse]
      simp
    · intro _
      rw [hexecute, hearly.resultSet]
  · rw [finish_of_nullFree (hcells stmt hstmt)] at hloop
    rw [hloop] at hexecute
    constructor
    · rintro hreports ⟨_, other, hother, _, hlast⟩
      rcases hreports.complete (by rw [hexecute]) with ⟨done, hdone, hend, _⟩
      rw [hdone, Option.some.injEq] at hother
      exact hlast (hother ▸ hend)
    · intro hnot
      have hlast : stmt.last = sqliteDone := by
        by_contra hne
        exact hnot ⟨hprepare, stmt, hstmt, hrows, hne⟩
      refine ⟨?_, ?_⟩
      · intro _
        exact ⟨stmt, hstmt, hlast, by rw [hexecute]⟩
      · rw [hexecute]
        simp

def sqliteBusy : ℤ := 5

theorem sqliteBusy_ne_sqliteRow : sqliteBusy ≠ sqliteRow := by decide

/-- One row, and then the step fails. -/
def busyAnswers : ClientAnswers :=
  oneCellAnswers (some [49, 0]) sqliteBusy sqliteBusy_ne_sqliteRow

theorem executeQuery_reportsTruncation_busy :
    CResultSet.new.ReportsTruncation .mariadbSqlite ⟨none, .sqlite, 0⟩ []
        busyAnswers ↔
      ¬ busyAnswers.sqlite.FailsBehindRow :=
  executeQuery_reportsTruncation_iff .new .mariadbSqlite ⟨none, .sqlite, 0⟩ rfl []
    busyAnswers (by rintro stmt ⟨⟩; decide)

/-- A step that fails behind the first row is reported as success. -/
theorem executeQuery_busy_returns_true :
    ¬ ∀ (rs : CResultSet) (build : Build) (db : CDatabase),
      db.engine build = some .sqlite →
      ∀ (sql : List UInt8) (client : ClientAnswers),
      (∀ stmt, client.sqlite.stmt = some stmt →
        ∀ row ∈ stmt.rows, NullFree row) →
      rs.ReportsTruncation build db sql client := by
  intro hall
  have hreports := hall .new .mariadbSqlite ⟨none, .sqlite, 0⟩ rfl [] busyAnswers
    (by rintro stmt ⟨⟩; decide)
  rcases hreports.complete (by decide) with ⟨stmt, hstmt, hlast, _⟩
  cases hstmt
  revert hlast
  decide

/-! ## Cells that are SQL NULL -/

/-- The execution returns, appends one vector of all columns for every
delivered row, and releases what it acquired. -/
structure Execution.SurvivesNulls (execution : Execution) (rs : CResultSet)
    (delivered : Delivered) : Prop where
  returned : ∃ value, execution.returned = .ok value
  appended : ∃ rows, execution.resultSet.vvRows = rs.vvRows ++ rows ∧
    rows.length = delivered.rows.length ∧
    ∀ row ∈ rows, row.length = delivered.fields
  balanced : Balanced execution.calls

theorem Execution.EndsEarly.survivesNulls
    {execution : Execution} {rs : CResultSet} {delivered : Delivered}
    (hearly : execution.EndsEarly rs delivered) :
    execution.SurvivesNulls rs delivered := by
  refine ⟨hearly.returned, ⟨[], ?_, ?_, ?_⟩, hearly.balanced⟩
  · rw [hearly.resultSet]
    simp
  · rw [hearly.rows]
    rfl
  · simp

theorem finish_survivesNulls_iff
    {fields : ℕ} {fetch : Bool → ClientCall}
    (hreleases : ∀ more, (fetch more).releases = false)
    (hacquires : ∀ more, (fetch more).acquires = false)
    (rs : CResultSet) (rows : List (FetchedRow fields))
    {before : List ClientCall} {release : ClientCall}
    (hbalanced : Balanced (before ++ [release])) :
    ((fetchLoop fetch rs rows).finish before release).SurvivesNulls rs
        ⟨fields, rows⟩ ↔
      ∀ row ∈ rows, NullFree row := by
  by_cases hrows : ∀ row ∈ rows, NullFree row
  · refine iff_of_true ?_ hrows
    rw [finish_of_nullFree hrows]
    refine ⟨⟨true, rfl⟩, ⟨rows.map rowTexts, rfl, by simp, ?_⟩, ?_⟩
    · intro cells hcells
      rcases List.mem_map.mp hcells with ⟨row, _, rfl⟩
      exact rowTexts_length row
    · have hloop := fetchLoop_calls_balanced hreleases hacquires rs rows
      unfold Balanced at hloop hbalanced ⊢
      simp only [List.countP_append] at hbalanced ⊢
      omega
  · refine iff_of_false ?_ hrows
    rw [finish_of_null hrows]
    rintro ⟨⟨value, hreturned⟩, _, _⟩
    contradiction

/-- On either engine an execution survives its result exactly when no cell that
is delivered to it is SQL NULL. -/
theorem executeQuery_survivesNulls_iff
    (rs : CResultSet) (build : Build) (db : CDatabase) (engine : EDatabaseType)
    (hengine : db.engine build = some engine)
    (sql : List UInt8) (client : ClientAnswers) :
    (rs.executeQuery build db sql client).SurvivesNulls rs
        (client.delivered engine) ↔
      ∀ row ∈ (client.delivered engine).rows, NullFree row := by
  cases engine with
  | mariadb =>
      rw [executeQuery_of_mariadb hengine]
      rcases executeMariaDB_exits rs db.pointedDb sql client.mariadb with
        hearly | ⟨_, hloop⟩
      · exact iff_of_true hearly.survivesNulls hearly.nullFree
      · rw [hloop]
        exact finish_survivesNulls_iff (fun _ => rfl) (fun _ => rfl) rs _ rfl
  | sqlite =>
      rw [executeQuery_of_sqlite hengine]
      rcases executeSqlite_exits rs db.pointedDb sql client.sqlite with
        ⟨hearly, _⟩ | ⟨stmt, _, _, _, hdelivered, hloop⟩
      · exact iff_of_true hearly.survivesNulls hearly.nullFree
      · rw [hloop, ClientAnswers.delivered, hdelivered]
        exact finish_survivesNulls_iff (fun _ => rfl) (fun _ => rfl) rs _ rfl

def nullAnswers : ClientAnswers :=
  oneCellAnswers none sqliteDone sqliteDone_ne_sqliteRow

theorem executeQuery_survivesNulls_null :
    (CResultSet.new.executeQuery .mariadb .new [] nullAnswers).SurvivesNulls .new
        (nullAnswers.delivered .mariadb) ↔
      ∀ row ∈ (nullAnswers.delivered .mariadb).rows, NullFree row :=
  executeQuery_survivesNulls_iff .new .mariadb .new .mariadb rfl [] nullAnswers

/-- One cell that is SQL NULL ends the execution by an exception. -/
theorem executeQuery_null_throws :
    ¬ ∀ (rs : CResultSet) (build : Build) (db : CDatabase)
      (engine : EDatabaseType), db.engine build = some engine →
      ∀ (sql : List UInt8) (client : ClientAnswers),
      (rs.executeQuery build db sql client).SurvivesNulls rs
        (client.delivered engine) := by
  intro hall
  have hsurvives := hall .new .mariadb .new .mariadb rfl [] nullAnswers
  rcases hsurvives.returned with ⟨value, hreturned⟩
  have hthrown :
      (CResultSet.new.executeQuery .mariadb .new [] nullAnswers).returned =
        .error .logicError := by decide
  rw [hthrown] at hreturned
  contradiction

end MDK
