import MDK.DatabaseRuns

/-!
# What Connect and IsConnected say

`Connect` goes by what the library returned, and by nothing for a type without
a branch; `IsConnected` goes by the pointer, and asks `mysql_stat` besides when
the type is MariaDB.  The two agree on MariaDB only.
-/

namespace MDK

open StepSystem

namespace DatabaseSession

/-- What `IsConnected()` returns when `mysql_stat` tells the truth. -/
def saysConnected (session : DatabaseSession) : Bool :=
  (session.isConnected session.mysqlStat).1

theorem saysConnected_of_mariadb
    {session : DatabaseSession} (htype : session.db.databaseType = .mariadb) :
    session.saysConnected = session.mysqlStat := by
  unfold saysConnected isConnected
  cases hpointer : session.db.pointedDb with
  | none => simp [mysqlStat, hasOpenHandle, hpointer]
  | some name => simp [htype]

theorem saysConnected_of_sqlite
    {session : DatabaseSession} (htype : session.db.databaseType = .sqlite) :
    session.saysConnected = session.db.pointedDb.isSome := by
  unfold saysConnected isConnected
  cases hpointer : session.db.pointedDb with
  | none => simp
  | some name => simp [htype]

theorem Valid.isOpen_pointed
    {session : DatabaseSession} (hvalid : session.Valid) {name : ℕ}
    (hpointer : session.db.pointedDb = some name) :
    session.isOpen name =
      (session.handles.get? name).any DatabaseHandle.connected := by
  have hunclosed : (session.calls.all fun call =>
      call.closesName ≠ some name) = true := by
    rw [List.all_eq_true]
    intro call hmem
    exact decide_eq_true (hvalid.closesName_ne_pointed hpointer call hmem)
  unfold isOpen
  rw [hunclosed, Bool.and_true]

/-! ## The branches of Connect -/

theorem get?_realConnect
    {session : DatabaseSession} {name : ℕ} {type : EDatabaseType}
    (hpointer : session.db.pointedDb = some name)
    (hbackend : session.backendOf name = some type) (connected : Bool) :
    (session.realConnect connected).handles.get? name =
      some ⟨type, connected⟩ := by
  obtain ⟨handle, hget, htype⟩ := Option.map_eq_some_iff.mp hbackend
  unfold realConnect
  simp only [hpointer]
  rw [Arena.get?_modify_self hget, ← htype]
  rfl

theorem mysqlConnect_get?
    {session : DatabaseSession} {name : ℕ} {type : EDatabaseType}
    (hpointer : session.db.pointedDb = some name)
    (hbackend : session.backendOf name = some type)
    (arguments : ConnectArguments) (answers : ConnectAnswers) :
    (session.mysqlConnect arguments answers).2.handles.get? name =
      some ⟨type, answers.realConnect⟩ := by
  rw [mysqlConnect_eq]
  apply get?_realConnect
  · exact hpointer
  · exact hbackend

/-- After the MariaDB branch `mysql_stat` answers as `mysql_real_connect` did. -/
theorem mysqlConnect_mysqlStat
    {session : DatabaseSession} {arguments : ConnectArguments}
    {answers : ConnectAnswers} (htype : session.db.databaseType = .mariadb)
    (hpointed : ∀ name, session.db.pointedDb = some name →
      ∃ type, session.backendOf name = some type)
    (hnone : session.db.pointedDb = none → answers.realConnect = false)
    (hnext : (session.mysqlConnect arguments answers).2.Valid) :
    (session.mysqlConnect arguments answers).2.mysqlStat =
      answers.realConnect := by
  have hsame := (mysqlConnect_uses session htype arguments answers).pointedDb
  cases hpointer : session.db.pointedDb with
  | none =>
      rw [hnone hpointer]
      simp [mysqlStat, hasOpenHandle, hsame, hpointer]
  | some name =>
      obtain ⟨type, hbackend⟩ := hpointed name hpointer
      have hafter := hsame.trans hpointer
      calc
        (session.mysqlConnect arguments answers).2.mysqlStat =
            (session.mysqlConnect arguments answers).2.isOpen name := by
          simp [mysqlStat, hasOpenHandle, hafter]
        _ = answers.realConnect := by
          rw [hnext.isOpen_pointed hafter,
            mysqlConnect_get? hpointer hbackend arguments answers]
          rfl

theorem mysqlConnect_fst
    (session : DatabaseSession) (arguments : ConnectArguments)
    (answers : ConnectAnswers) :
    (session.mysqlConnect arguments answers).1 = answers.realConnect := by
  rw [mysqlConnect_eq]

theorem mysqlInit_pointed
    (session : DatabaseSession) (made : Bool) {name : ℕ}
    (hpointer : (session.mysqlInit made).db.pointedDb = some name) :
    ∃ type, (session.mysqlInit made).backendOf name = some type := by
  cases made with
  | false =>
      have hnone : (session.mysqlInit false).db.pointedDb = none := rfl
      rw [hnone] at hpointer
      contradiction
  | true =>
      have hfresh : session.handles.fresh = name := Option.some.inj hpointer
      refine ⟨.mariadb, ?_⟩
      unfold mysqlInit
      rw [backendOf_log, if_pos rfl, backendOf_create_some, if_pos hfresh.symm]

theorem connect_mariadb_agrees
    {build : Build} {session : DatabaseSession} (hvalid : session.Valid)
    (arguments : ConnectArguments) (answers : ConnectAnswers) :
    (session.connect build .mariadb arguments answers).1 =
      (session.connect build .mariadb arguments answers).2.saysConnected := by
  have htype : (session.setType .mariadb).db.databaseType = .mariadb := rfl
  have hsteps := connect_steps build session .mariadb arguments answers
  have hnext := hsteps.valid hvalid
  have hnextType : (session.connect build .mariadb arguments
      answers).2.db.databaseType = .mariadb := by
    cases hsteps with
    | reconnects _ huses => exact huses.databaseType
    | inits _ hcreates => exact hcreates.databaseType
    | asks hasks _ _ => simp [DatabaseEvent.asks] at hasks
    | releases hevent _ => simp [DatabaseEvent.releases] at hevent
  rw [saysConnected_of_mariadb hnextType]
  simp only [connect, CDatabase.engine_of_mariadb htype, connectMariaDB]
    at hnext ⊢
  by_cases hpointer : (session.setType .mariadb).db.pointedDb = none
  · rw [if_pos hpointer] at hnext ⊢
    rw [mysqlConnect_fst, mysqlConnect_mysqlStat _ _ _ hnext]
    · exact (mysqlInit_databaseType _ answers.init).trans htype
    · exact fun name => mysqlInit_pointed _ answers.init
    · intro hnone
      by_contra hconnected
      have hinit := answers.init_of_realConnect (by simpa using hconnected)
      rw [hinit] at hnone
      contradiction
  · rw [if_neg hpointer] at hnext ⊢
    rw [mysqlConnect_fst, mysqlConnect_mysqlStat htype hvalid.pointed _ hnext]
    exact fun hnone => absurd hnone hpointer

theorem connect_sqlite_fst
    (build : Build) (session : DatabaseSession)
    (arguments : ConnectArguments) (answers : ConnectAnswers) :
    (session.connect build .sqlite arguments answers).1 =
      if build.hasSqlite then decide (answers.openResult = sqliteOk)
      else true := by
  have htype : (session.setType .sqlite).db.databaseType = .sqlite := rfl
  simp only [connect, CDatabase.engine_of_sqlite htype]
  cases build.hasSqlite with
  | true => simp only [if_true, connectSqlite_eq]
  | false => simp

/-! ## Agreement -/

/-- `Connect` and `IsConnected` will agree: SQLite opens the database, or
without its branch the pointer leads to a handle anyway. -/
def ConnectsTruly (build : Build) (session : DatabaseSession)
    (type : EDatabaseType) (answers : ConnectAnswers) : Prop :=
  match type with
  | .mariadb => True
  | .sqlite =>
      if build.hasSqlite then answers.openResult = sqliteOk
      else session.db.pointedDb ≠ none

theorem connect_sqlite_agrees_iff
    {build : Build} {session : DatabaseSession}
    (arguments : ConnectArguments) {answers : ConnectAnswers}
    (hstored : answers.stored = true) :
    ((session.connect build .sqlite arguments answers).1 =
      (session.connect build .sqlite arguments answers).2.saysConnected) ↔
      session.ConnectsTruly build .sqlite answers := by
  have hsteps := connect_steps build session .sqlite arguments answers
  rw [connect_sqlite_fst]
  unfold ConnectsTruly
  cases hsteps with
  | opens hbuild hcreates =>
      rw [saysConnected_of_sqlite hcreates.databaseType, hcreates.pointedDb,
        hstored, hbuild]
      simp
  | skips hbuild huses =>
      rw [saysConnected_of_sqlite huses.databaseType, huses.pointedDb, hbuild]
      cases session.db.pointedDb with
      | none => simp
      | some name => simp
  | asks hasks _ _ => simp [DatabaseEvent.asks] at hasks
  | releases hevent _ => simp [DatabaseEvent.releases] at hevent

/-- From every state that a history reaches, disconnected or not, `Connect`
returns what `IsConnected` says next exactly when it connects truly. -/
theorem connect_agrees_iff_connectsTruly
    (build : Build) (events : List DatabaseEvent) (session : DatabaseSession)
    (hrun : run (step build) new events = .ok session)
    (type : EDatabaseType) (arguments : ConnectArguments)
    (answers : ConnectAnswers) (hstored : answers.stored = true) :
    ((session.connect build type arguments answers).1 = true ↔
        (session.connect build type arguments answers).2.saysConnected = true) ↔
      session.ConnectsTruly build type answers := by
  have hvalid := (step_preserves_valid build fun _ => True).run new_valid
    (fun _ _ => trivial) hrun
  rw [← Bool.eq_iff_iff]
  cases type with
  | mariadb =>
      exact iff_of_true (connect_mariadb_agrees hvalid arguments answers) trivial
  | sqlite => exact connect_sqlite_agrees_iff arguments hstored

/-- A SQLite database that cannot be opened (`SQLITE_CANTOPEN`). -/
def sqliteCannotOpen : ConnectAnswers where
  init := true
  realConnect := false
  stored := true
  openResult := 14
  init_of_realConnect _ := rfl
  stored_of_open _ := rfl

theorem connect_agrees_iff_connectsTruly_cannotOpen :
    ((new.connect .mariadbSqlite .sqlite ⟨none, 0, none, some [], none⟩
          sqliteCannotOpen).1 = true ↔
        (new.connect .mariadbSqlite .sqlite ⟨none, 0, none, some [], none⟩
          sqliteCannotOpen).2.saysConnected = true) ↔
      new.ConnectsTruly .mariadbSqlite .sqlite sqliteCannotOpen :=
  connect_agrees_iff_connectsTruly .mariadbSqlite [] new rfl .sqlite _
    sqliteCannotOpen rfl

/-- `Connect` reports the failure, and `IsConnected` a connection. -/
theorem failed_connect_says_connected :
    new.saysConnected = false ∧
      (new.connect .mariadbSqlite .sqlite ⟨none, 0, none, some [], none⟩
        sqliteCannotOpen).1 = false ∧
      (new.connect .mariadbSqlite .sqlite ⟨none, 0, none, some [], none⟩
        sqliteCannotOpen).2.saysConnected = true := by
  decide

end DatabaseSession

end MDK
