import MDK.ConnectAgreement
import MDK.FetchFailures

/-!
# A successful query was executed

`mdk_only_run_query` and `ExecuteQuery` return true when no branch fails, and
no branch fails where none is taken.  What a library executed can be read off
its calls: the text it took, on which handle, and how it ended.
-/

namespace MDK

open CString StepSystem

/-- The text that `sqlite3_prepare_v2` reads: up to a NUL byte, and no more
bytes than the length, unless that is negative. -/
def preparedText (text : List UInt8) (length : ℤ) : List UInt8 :=
  if length < 0 then cString text else cString (text.take length.toNat)

/-- The calls show that the backend took the whole text on this pointer and came
to its end.  SQLite prepares only the first statement of a text, and `remains`
says whether another one remains. -/
def ExecutedBy (remains : List UInt8 → Bool) (calls : List DatabaseCall)
    (sql : List UInt8) : EDatabaseType → DatabasePointer → Prop
  | .mariadb, pointer => .query (.mysqlQuery pointer sql 0) ∈ calls
  | .sqlite, pointer =>
      .sqliteExec pointer sql sqliteOk ∈ calls ∨
      ∃ text length,
        .query (.sqlitePrepare pointer text length sqliteOk true) ∈ calls ∧
        preparedText text length = sql ∧ remains sql = false ∧
        .query (.sqliteStep sqliteDone) ∈ calls

/-- No byte of the text is lost on the way to `sqlite3_prepare_v2`. -/
def ReachesSqlite (sql : List UInt8) : Prop :=
  0 ∉ sql ∧ (sql.length < 2 ^ 31 ∨ 2 ^ 31 ≤ sql.length % 2 ^ 32)

namespace DatabaseSession

/-- The pointer leads to a handle of this backend. -/
def Holds (session : DatabaseSession) (type : EDatabaseType) : Prop :=
  ∃ name, session.db.pointedDb = some name ∧ session.backendOf name = some type

/-- Exactly one backend executed the text, on the open handle of the object. -/
def Executed (session : DatabaseSession) (remains : List UInt8 → Bool)
    (calls : List DatabaseCall) (sql : List UInt8) : Prop :=
  session.hasOpenHandle = true ∧ ∃ type, session.Holds type ∧
    ∀ backend pointer, ExecutedBy remains calls sql backend pointer ↔
      backend = type ∧ pointer = session.db.pointedDb

def callsSince (session next : DatabaseSession) : List DatabaseCall :=
  next.calls.drop session.calls.length

end DatabaseSession

/-! ## Texts -/

theorem cString_eq_self_iff {text : List UInt8} :
    cString text = text ↔ 0 ∉ text := by
  unfold cString
  rw [List.takeWhile_eq_self_iff]
  constructor
  · intro hall hmem
    simpa using hall 0 hmem
  · intro hzero byte hmem
    have hne : byte ≠ 0 := fun heq => hzero (heq ▸ hmem)
    simpa using hne

theorem preparedText_eq_self_iff {sql : List UInt8} :
    preparedText sql (toInt sql.length) = sql ↔ ReachesSqlite sql := by
  unfold preparedText ReachesSqlite
  rw [toInt_eq]
  by_cases hhigh : 2 ^ 31 ≤ sql.length % 2 ^ 32
  · rw [if_neg (Nat.not_lt.mpr hhigh), if_pos (by omega), cString_eq_self_iff]
    exact (and_iff_left (Or.inr hhigh)).symm
  · rw [if_pos (Nat.not_le.mp hhigh), if_neg (by omega)]
    by_cases hshort : sql.length < 2 ^ 31
    · have hlength : (((sql.length : ℤ) % 2 ^ 32).toNat) = sql.length := by omega
      rw [hlength, List.take_length, cString_eq_self_iff]
      exact (and_iff_left (Or.inl hshort)).symm
    · have hless : (((sql.length : ℤ) % 2 ^ 32).toNat) < sql.length := by omega
      apply iff_of_false
      · intro heq
        have hlength := congrArg List.length heq
        have hle : (cString (sql.take ((sql.length : ℤ) % 2 ^ 32).toNat)).length ≤
            ((sql.length : ℤ) % 2 ^ 32).toNat :=
          (List.takeWhile_prefix _).length_le.trans (List.length_take_le _ _)
        omega
      · rintro ⟨_, hsmall | hlarge⟩
        · exact hshort hsmall
        · exact hhigh hlarge

/-! ## What the calls of a query show -/

theorem FetchedRows.mem_finish_calls
    {loop : FetchedRows} {before : List ClientCall} {release call : ClientCall}
    (hmem : call ∈ (loop.finish before release).calls) :
    call ∈ before ∨ call ∈ loop.calls ∨ call = release := by
  cases hthrown : loop.thrown with
  | none =>
      simp only [FetchedRows.finish, hthrown, List.mem_append,
        List.mem_singleton] at hmem
      exact or_assoc.mp hmem
  | some exception =>
      simp only [FetchedRows.finish, hthrown, List.mem_append] at hmem
      obtain hbefore | hloop := hmem
      · exact Or.inl hbefore
      · exact Or.inr (Or.inl hloop)

/-- The text MariaDB is asked to run is the one the code hands over. -/
theorem mysqlQuery_mem_executeMariaDB_iff
    {rs : CResultSet} {db pointer : DatabasePointer} {sql text : List UInt8}
    {client : MariaDBAnswers} {result : ℤ} :
    .mysqlQuery pointer text result ∈ (executeMariaDB rs db sql client).calls ↔
      pointer = db ∧ text = cString sql ∧ result = client.query := by
  constructor
  · intro hmem
    unfold executeMariaDB at hmem
    dsimp only at hmem
    split_ifs at hmem with hquery
    · simpa using hmem
    · cases hstored : client.stored with
      | none => simpa [hstored] using hmem
      | some stored =>
          simp only [hstored] at hmem
          split_ifs at hmem
          · simpa using hmem
          · simpa using hmem
          · simpa using hmem
          · obtain hbefore | hloop | hrelease := FetchedRows.mem_finish_calls hmem
            · simpa using hbefore
            · obtain ⟨more, hcall⟩ := fetchLoop_calls_subset _ _ _ _ hloop
              contradiction
            · contradiction
  · rintro ⟨rfl, rfl, rfl⟩
    exact mysqlQuery_mem_executeMariaDB rs pointer sql client

/-- SQLite is given the text of the query with its length. -/
theorem sqlitePrepare_of_mem_executeSqlite
    {rs : CResultSet} {db pointer : DatabasePointer} {sql text : List UInt8}
    {client : SqliteAnswers} {length result : ℤ} {acquired : Bool}
    (hmem : .sqlitePrepare pointer text length result acquired ∈
      (executeSqlite rs db sql client).calls) :
    pointer = db ∧ text = sql ∧ length = toInt sql.length := by
  have hprepared : ∀ code stored,
      ClientCall.sqlitePrepare pointer text length result acquired =
        .sqlitePrepare db sql (toInt sql.length) code stored →
      pointer = db ∧ text = sql ∧ length = toInt sql.length := by
    intro code stored hsame
    cases hsame
    exact ⟨rfl, rfl, rfl⟩
  unfold executeSqlite at hmem
  dsimp only at hmem
  split_ifs at hmem with hprepare
  · exact hprepared _ _ (by simpa using hmem)
  · cases hstmt : client.stmt with
    | none => exact hprepared _ _ (by simpa [hstmt] using hmem)
    | some stmt =>
        simp only [hstmt] at hmem
        split_ifs at hmem
        · exact hprepared _ _ (by simpa using hmem)
        · exact hprepared _ _ (by simpa using hmem)
        · obtain hbefore | hloop | hrelease := FetchedRows.mem_finish_calls hmem
          · exact hprepared _ _ (by simpa using hbefore)
          · obtain ⟨more, hcall⟩ := fetchLoop_calls_subset _ _ _ _ hloop
            simp [SqliteStmt.stepCall] at hcall
          · contradiction

theorem fetch_false_mem_fetchLoop
    {fields : ℕ} {rows : List (FetchedRow fields)}
    (hrows : ∀ row ∈ rows, NullFree row) (hne : rows ≠ [])
    (fetch : Bool → ClientCall) (rs : CResultSet) :
    fetch false ∈ (fetchLoop fetch rs rows).calls := by
  induction rows generalizing rs with
  | nil => contradiction
  | cons row rest ih =>
      simp only [fetchLoop, readRow_of_nullFree (hrows row (by simp)),
        List.mem_cons]
      cases rest with
      | nil =>
          left
          rfl
      | cons second rest =>
          right
          exact ih (fun other hmem => hrows other (by simp [hmem])) (by simp) _

/-! ## When ExecuteQuery returns true -/

def MariaDBAnswers.Succeeds (client : MariaDBAnswers) : Prop :=
  client.query = 0 ∧ ∃ result, client.stored = some result ∧
    (result.rowCount = 0 ∨ result.fields = 0 ∨
      result.fetched ≠ [] ∧ ∀ row ∈ result.fetched, NullFree row)

def SqliteAnswers.DeliversRows (client : SqliteAnswers) : Prop :=
  client.prepare = sqliteOk ∧ ∃ stmt, client.stmt = some stmt ∧
    stmt.rows ≠ [] ∧ ∀ row ∈ stmt.rows, NullFree row

theorem finish_returned_true_iff
    {fields : ℕ} {rows : List (FetchedRow fields)} {fetch : Bool → ClientCall}
    {rs : CResultSet} {before : List ClientCall} {release : ClientCall} :
    ((fetchLoop fetch rs rows).finish before release).returned = .ok true ↔
      ∀ row ∈ rows, NullFree row := by
  by_cases hrows : ∀ row ∈ rows, NullFree row
  · rw [finish_of_nullFree hrows]
    exact iff_of_true rfl hrows
  · rw [finish_of_null hrows]
    exact iff_of_false (by simp) hrows

theorem executeMariaDB_returned_true_iff
    {rs : CResultSet} {db : DatabasePointer} {sql : List UInt8}
    {client : MariaDBAnswers} :
    (executeMariaDB rs db sql client).returned = .ok true ↔ client.Succeeds := by
  unfold MariaDBAnswers.Succeeds
  by_cases hquery : client.query = 0
  · cases hstored : client.stored with
    | none =>
        rw [executeMariaDB_of_notStored rs db sql hquery hstored]
        simp
    | some result =>
        by_cases hcells : result.rowCount = 0 ∨ result.fields = 0
        · rw [executeMariaDB_of_noCells rs db sql hquery hstored hcells]
          simp only [hquery, Option.some.injEq, exists_eq_left', true_and,
            true_iff]
          exact or_assoc.mp (Or.inl hcells)
        · obtain ⟨hcount, hfields⟩ := not_or.mp hcells
          by_cases hfetched : result.fetched = []
          · rw [executeMariaDB_of_noFetch rs db sql hquery hstored hcount hfields
              hfetched]
            simp [hcount, hfields, hfetched]
          · rw [executeMariaDB_of_rows rs db sql hquery hstored hfields hfetched,
              finish_returned_true_iff]
            simp [hquery, hcount, hfields, hfetched]
  · rw [executeMariaDB_of_queryFailed rs db sql hquery]
    simp [hquery]

theorem executeSqlite_returned_true_iff
    {rs : CResultSet} {db : DatabasePointer} {sql : List UInt8}
    {client : SqliteAnswers} :
    (executeSqlite rs db sql client).returned = .ok true ↔
      client.DeliversRows := by
  unfold SqliteAnswers.DeliversRows
  by_cases hprepare : client.prepare = sqliteOk
  · cases hstmt : client.stmt with
    | none =>
        rw [executeSqlite_of_noStatement rs db sql hprepare hstmt]
        simp
    | some stmt =>
        by_cases hrows : stmt.rows = []
        · by_cases hfields : stmt.fields = 0
          · rw [executeSqlite_of_noFields rs db sql hprepare hstmt hfields]
            simp [hrows]
          · rw [executeSqlite_of_noRows rs db sql hprepare hstmt hfields hrows]
            simp [hrows]
        · have hfields : stmt.fields ≠ 0 := fun hzero => hrows (stmt.rows_nil hzero)
          rw [executeSqlite_of_rows rs db sql hprepare hstmt hfields hrows,
            finish_returned_true_iff]
          simp [hprepare, hrows]
  · rw [executeSqlite_of_prepareFailed rs db sql hprepare]
    simp [hprepare]

/-! ## Honest answers -/

namespace DatabaseSession

/-- A library takes a query only on an open connection, where the handle is its
own.  Nothing is known of what it does with a handle of another library. -/
structure TruthfulRun (session : DatabaseSession) (answers : RunAnswers) :
    Prop where
  query : session.Holds .mariadb → answers.query = 0 →
    session.hasOpenHandle = true
  exec : session.Holds .sqlite → answers.exec = sqliteOk →
    session.hasOpenHandle = true

structure TruthfulExecution (session : DatabaseSession) (client : ClientAnswers) :
    Prop where
  query : session.Holds .mariadb → client.mariadb.query = 0 →
    session.hasOpenHandle = true
  prepare : session.Holds .sqlite → client.sqlite.prepare = sqliteOk →
    session.hasOpenHandle = true

/-- Where the calls amount to an execution by one backend under a condition,
the object has the text executed if that backend made its handle. -/
theorem executed_iff
    {session : DatabaseSession} {remains : List UInt8 → Bool}
    {calls : List DatabaseCall} {sql : List UInt8} {type : EDatabaseType}
    {Whole : Prop}
    (hby : ∀ backend pointer, ExecutedBy remains calls sql backend pointer ↔
      (backend = type ∧ pointer = session.db.pointedDb) ∧ Whole)
    (htruth : session.Holds type → session.hasOpenHandle = true) :
    session.Executed remains calls sql ↔ session.Holds type ∧ Whole := by
  constructor
  · rintro ⟨_, other, hholds, hall⟩
    obtain ⟨⟨hother, _⟩, hwhole⟩ :=
      (hby other session.db.pointedDb).mp ((hall other _).mpr ⟨rfl, rfl⟩)
    exact ⟨hother ▸ hholds, hwhole⟩
  · rintro ⟨hholds, hwhole⟩
    refine ⟨htruth hholds, type, hholds, ?_⟩
    intro backend pointer
    rw [hby, and_iff_left hwhole]

theorem not_executed_of_nil
    (session : DatabaseSession) (remains : List UInt8 → Bool)
    (sql : List UInt8) : ¬ session.Executed remains [] sql := by
  rintro ⟨_, type, _, hall⟩
  have hby := (hall type session.db.pointedDb).mpr ⟨rfl, rfl⟩
  cases type with
  | mariadb => simp [ExecutedBy] at hby
  | sqlite => simp [ExecutedBy] at hby

@[simp] theorem callsSince_log
    (session : DatabaseSession) (calls : List DatabaseCall) :
    session.callsSince (session.log calls) = calls := by
  simp [callsSince, log]

@[simp] theorem callsSince_self (session : DatabaseSession) :
    session.callsSince session = [] := by
  simp [callsSince]

/-! ### mdk_only_run_query -/

/-- There is no handle, or a branch for the type, which the library refuses, or
runs whole on a handle of its own. -/
def RunsTruly (session : DatabaseSession) (build : Build) (sql : List UInt8)
    (answers : RunAnswers) : Prop :=
  session.db.pointedDb ≠ none →
    match session.db.engine build with
    | none => False
    | some .mariadb => answers.query = 0 → session.Holds .mariadb ∧ 0 ∉ sql
    | some .sqlite => answers.exec = sqliteOk → session.Holds .sqlite ∧ 0 ∉ sql

theorem executedBy_mysqlQuery
    (remains : List UInt8 → Bool) (pointer : DatabasePointer)
    (sql : List UInt8) (backend : EDatabaseType) (other : DatabasePointer) :
    ExecutedBy remains [.query (.mysqlQuery pointer (cString sql) 0)] sql backend
        other ↔
      (backend = .mariadb ∧ other = pointer) ∧ 0 ∉ sql := by
  rw [← cString_eq_self_iff]
  cases backend with
  | mariadb => simp [ExecutedBy, eq_comm]
  | sqlite => simp [ExecutedBy]

theorem executedBy_sqliteExec
    (remains : List UInt8 → Bool) (pointer : DatabasePointer)
    (sql : List UInt8) (backend : EDatabaseType) (other : DatabasePointer) :
    ExecutedBy remains [.sqliteExec pointer (cString sql) sqliteOk] sql backend
        other ↔
      (backend = .sqlite ∧ other = pointer) ∧ 0 ∉ sql := by
  rw [← cString_eq_self_iff]
  cases backend with
  | mariadb => simp [ExecutedBy]
  | sqlite =>
      simp [ExecutedBy]
      exact fun _ => eq_comm

theorem mdkOnlyRunQuery_executed_iff
    {session : DatabaseSession} {answers : RunAnswers}
    (htruth : session.TruthfulRun answers) (build : Build)
    (remains : List UInt8 → Bool) (sql : List UInt8) :
    ((session.mdkOnlyRunQuery build sql answers).1 = true →
        session.Executed remains
          (session.callsSince (session.mdkOnlyRunQuery build sql answers).2)
          sql) ↔
      session.RunsTruly build sql answers := by
  unfold RunsTruly mdkOnlyRunQuery
  by_cases hpointer : session.db.pointedDb = none
  · simp [hpointer]
  · simp only [hpointer, if_false, ne_eq, not_false_eq_true, true_imp_iff]
    cases hengine : session.db.engine build with
    | none =>
        simp only [callsSince_self, true_imp_iff, iff_false]
        exact not_executed_of_nil session remains sql
    | some type =>
        cases type with
        | mariadb =>
            by_cases hquery : answers.query = 0
            · simp only [hquery, not_true_eq_false, if_false, true_imp_iff,
                callsSince_log]
              exact executed_iff (executedBy_mysqlQuery remains _ sql)
                fun hholds => htruth.query hholds hquery
            · simp [hquery]
        | sqlite =>
            by_cases hexec : answers.exec = sqliteOk
            · simp only [hexec, decide_true, true_imp_iff, callsSince_log]
              exact executed_iff (executedBy_sqliteExec remains _ sql)
                fun hholds => htruth.exec hholds hexec
            · simp [hexec]

/-! ### ExecuteQuery -/

/-- There is a branch for the type, whose library fails, or runs the text whole
and to its end on a handle of its own. -/
def ExecutesTruly (session : DatabaseSession) (build : Build)
    (sql : List UInt8) (client : ClientAnswers) (remains : List UInt8 → Bool) :
    Prop :=
  match session.db.engine build with
  | none => False
  | some .mariadb =>
      client.mariadb.Succeeds → session.Holds .mariadb ∧ 0 ∉ sql
  | some .sqlite =>
      client.sqlite.DeliversRows → session.Holds .sqlite ∧ ReachesSqlite sql ∧
        remains sql = false ∧
        ∀ stmt, client.sqlite.stmt = some stmt → stmt.last = sqliteDone

theorem executedBy_executeMariaDB
    {rs : CResultSet} {db : DatabasePointer} {sql : List UInt8}
    {client : MariaDBAnswers} (hquery : client.query = 0)
    (remains : List UInt8 → Bool) (backend : EDatabaseType)
    (pointer : DatabasePointer) :
    ExecutedBy remains ((executeMariaDB rs db sql client).calls.map .query) sql
        backend pointer ↔
      (backend = .mariadb ∧ pointer = db) ∧ 0 ∉ sql := by
  rw [← cString_eq_self_iff]
  cases backend with
  | mariadb =>
      simp only [ExecutedBy, List.mem_map, DatabaseCall.query.injEq,
        exists_eq_right, mysqlQuery_mem_executeMariaDB_iff, hquery, true_and]
      simp [eq_comm]
  | sqlite =>
      simp only [ExecutedBy, reduceCtorEq, false_and, iff_false, not_or]
      constructor
      · simp
      · rintro ⟨text, length, hmem, _⟩
        obtain ⟨call, hcall, heq⟩ := List.mem_map.mp hmem
        have happlied := executeMariaDB_onHandle rs db sql client call hcall
        rw [DatabaseCall.query.inj heq] at happlied
        simp [ClientCall.appliedTo] at happlied

theorem executedBy_executeSqlite
    {rs : CResultSet} {db : DatabasePointer} {sql : List UInt8}
    {client : SqliteAnswers} {stmt : SqliteStmt}
    (hprepare : client.prepare = sqliteOk) (hstmt : client.stmt = some stmt)
    (hne : stmt.rows ≠ []) (hrows : ∀ row ∈ stmt.rows, NullFree row)
    (remains : List UInt8 → Bool) (backend : EDatabaseType)
    (pointer : DatabasePointer) :
    ExecutedBy remains ((executeSqlite rs db sql client).calls.map .query) sql
        backend pointer ↔
      (backend = .sqlite ∧ pointer = db) ∧ ReachesSqlite sql ∧
        remains sql = false ∧ stmt.last = sqliteDone := by
  have hfields : stmt.fields ≠ 0 := fun hzero => hne (stmt.rows_nil hzero)
  cases backend with
  | mariadb =>
      simp only [ExecutedBy, reduceCtorEq, false_and, iff_false]
      intro hmem
      obtain ⟨call, hcall, heq⟩ := List.mem_map.mp hmem
      have happlied := executeSqlite_onHandle rs db sql client call hcall
      rw [DatabaseCall.query.inj heq] at happlied
      simp [ClientCall.appliedTo] at happlied
  | sqlite =>
      have hexecute := executeSqlite_of_rows rs db sql hprepare hstmt hfields hne
      rw [← preparedText_eq_self_iff]
      constructor
      · rintro (hexec | ⟨text, length, hmem, htext, hremains, hdone⟩)
        · simp at hexec
        · obtain ⟨call, hcall, heq⟩ := List.mem_map.mp hmem
          cases DatabaseCall.query.inj heq
          obtain ⟨hpointer, rfl, rfl⟩ := sqlitePrepare_of_mem_executeSqlite hcall
          refine ⟨⟨rfl, hpointer⟩, htext, hremains, ?_⟩
          obtain ⟨step, hstep, heq⟩ := List.mem_map.mp hdone
          cases DatabaseCall.query.inj heq
          rw [hexecute] at hstep
          obtain hbefore | hloop | hrelease := FetchedRows.mem_finish_calls hstep
          · simp [sqliteDone, sqliteRow] at hbefore
          · obtain ⟨more, hmore⟩ := fetchLoop_calls_subset _ _ _ _ hloop
            cases more with
            | false => simpa [SqliteStmt.stepCall] using hmore.symm
            | true => simp [SqliteStmt.stepCall, sqliteDone, sqliteRow] at hmore
          · contradiction
      · rintro ⟨⟨_, rfl⟩, htext, hremains, hlast⟩
        right
        refine ⟨sql, toInt sql.length, ?_, htext, hremains, ?_⟩
        · apply List.mem_map_of_mem
          rw [hexecute]
          exact FetchedRows.mem_finish_of_mem _ (by simp) _
        · apply List.mem_map_of_mem
          have hloop := fetch_false_mem_fetchLoop hrows hne stmt.stepCall rs
          rw [hexecute, finish_of_nullFree hrows, ← hlast]
          exact List.mem_append_left _ (List.mem_append_right _ hloop)

theorem executeQuery_executed_iff
    {session : DatabaseSession} {client : ClientAnswers}
    (htruth : session.TruthfulExecution client) (build : Build)
    (remains : List UInt8 → Bool) (resultSet : CResultSet) (sql : List UInt8) :
    ((session.executeQuery build resultSet sql client).1.returned = .ok true →
        session.Executed remains
          (session.callsSince
            (session.executeQuery build resultSet sql client).2) sql) ↔
      session.ExecutesTruly build sql client remains := by
  unfold ExecutesTruly executeQuery
  rw [callsSince_log]
  cases hengine : session.db.engine build with
  | none =>
      simp only [CResultSet.executeQuery, hengine, true_imp_iff, iff_false,
        List.map_nil]
      exact not_executed_of_nil session remains sql
  | some type =>
      cases type with
      | mariadb =>
          rw [executeQuery_of_mariadb hengine]
          simp only [executeMariaDB_returned_true_iff]
          apply forall_congr'
          intro hsucceeds
          exact executed_iff (executedBy_executeMariaDB hsucceeds.1 remains)
            fun hholds => htruth.query hholds hsucceeds.1
      | sqlite =>
          rw [executeQuery_of_sqlite hengine]
          simp only [executeSqlite_returned_true_iff]
          apply forall_congr'
          rintro ⟨hprepare, stmt, hstmt, hne, hrows⟩
          rw [executed_iff
            (executedBy_executeSqlite hprepare hstmt hne hrows remains)
            fun hholds => htruth.prepare hholds hprepare]
          simp [hstmt]

end DatabaseSession

/-! ## Histories -/

def DatabaseEvent.Truthful (session : DatabaseSession) : DatabaseEvent → Prop
  | .mdkOnlyRunQuery _ answers => session.TruthfulRun answers
  | .executeQuery _ _ client => session.TruthfulExecution client
  | _ => True

/-- A query that is reported done was executed. -/
def DatabaseEvent.ReportsTruly (build : Build) (remains : List UInt8 → Bool)
    (session : DatabaseSession) : DatabaseEvent → Prop
  | .mdkOnlyRunQuery sql answers =>
      (session.mdkOnlyRunQuery build sql answers).1 = true →
        session.Executed remains
          (session.callsSince (session.mdkOnlyRunQuery build sql answers).2) sql
  | .executeQuery resultSet sql client =>
      (session.executeQuery build resultSet sql client).1.returned = .ok true →
        session.Executed remains
          (session.callsSince
            (session.executeQuery build resultSet sql client).2) sql
  | _ => True

def DatabaseEvent.IsServed (build : Build) (remains : List UInt8 → Bool)
    (session : DatabaseSession) : DatabaseEvent → Prop
  | .mdkOnlyRunQuery sql answers => session.RunsTruly build sql answers
  | .executeQuery _ sql client => session.ExecutesTruly build sql client remains
  | _ => True

namespace DatabaseSession

/-- In every history the queries that are reported done were executed exactly
when each of them is served. -/
theorem reportsTruly_iff_isServed
    (build : Build) (remains : List UInt8 → Bool) (events : List DatabaseEvent)
    (htruth : StepsMeet (step build) DatabaseEvent.Truthful new events) :
    StepsMeet (step build) (DatabaseEvent.ReportsTruly build remains) new events ↔
      StepsMeet (step build) (DatabaseEvent.IsServed build remains) new events := by
  apply htruth.iff_of_forall
  intro session event htruthful
  cases event with
  | mdkOnlyRunQuery sql answers =>
      exact mdkOnlyRunQuery_executed_iff htruthful build remains sql
  | executeQuery resultSet sql client =>
      exact executeQuery_executed_iff htruthful build remains resultSet sql
  | _ => exact Iff.rfl

/-- A library built without SQLite that is told to connect to it. -/
def connectsToNothing : List DatabaseEvent :=
  [.connect .mariadb ⟨none, 0, none, none, none⟩ .success,
    .connect .sqlite ⟨none, 0, none, some [], none⟩ .success,
    .mdkOnlyRunQuery [] ⟨0, sqliteOk⟩]

theorem reportsTruly_iff_isServed_nothing :
    StepsMeet (step .mariadb)
        (DatabaseEvent.ReportsTruly .mariadb fun _ => false) new
        connectsToNothing ↔
      StepsMeet (step .mariadb)
        (DatabaseEvent.IsServed .mariadb fun _ => false) new
        connectsToNothing := by
  apply reportsTruly_iff_isServed
  unfold connectsToNothing
  rw [stepsMeet_cons_iff rfl, stepsMeet_cons_iff rfl, stepsMeet_cons_iff rfl]
  exact ⟨trivial, trivial, ⟨fun _ _ => rfl, fun _ _ => rfl⟩, stepsMeet_nil _ _ _⟩

/-- Both functions report success, and no library was called. -/
theorem query_reported_without_engine :
    ∃ session,
      run (step .mariadb) new
        [.connect .mariadb ⟨none, 0, none, none, none⟩ .success,
          .connect .sqlite ⟨none, 0, none, some [], none⟩ .success] =
        .ok session ∧
      ∀ (sql : List UInt8) (answers : RunAnswers) (client : ClientAnswers),
        (session.mdkOnlyRunQuery .mariadb sql answers).1 = true ∧
        session.callsSince (session.mdkOnlyRunQuery .mariadb sql answers).2 = [] ∧
        (session.executeQuery .mariadb .new sql client).1.returned = .ok true ∧
        session.callsSince (session.executeQuery .mariadb .new sql client).2 =
          [] ∧
        ¬ ∀ remains : List UInt8 → Bool,
          (session.mdkOnlyRunQuery .mariadb sql answers).1 = true →
            session.Executed remains
              (session.callsSince
                (session.mdkOnlyRunQuery .mariadb sql answers).2) sql := by
  refine ⟨_, rfl, ?_⟩
  intro sql answers client
  refine ⟨rfl, rfl, rfl, rfl, ?_⟩
  intro hall
  exact not_executed_of_nil _ _ _ (hall (fun _ => false) rfl)

end DatabaseSession

end MDK
