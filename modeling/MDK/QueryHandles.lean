import MDK.DatabaseConnection

/-!
# The handle a query is made on

Whatever a query runs into, all its calls on a handle are made on the pointer
of the database, with functions of the one engine that the type selects.
-/

namespace MDK

open CString

/-- The calls on a handle among these are made with functions of one backend on
one pointer. -/
def OnHandle (type : EDatabaseType) (pointer : DatabasePointer)
    (calls : List ClientCall) : Prop :=
  ∀ call ∈ calls, call.appliedTo = none ∨ call.appliedTo = some (type, pointer)

theorem FetchedRows.onHandle_finish
    {type : EDatabaseType} {pointer : DatabasePointer} {loop : FetchedRows}
    {before : List ClientCall} {release : ClientCall}
    (hbefore : OnHandle type pointer before)
    (hloop : OnHandle type pointer loop.calls)
    (hrelease : release.appliedTo = none) :
    OnHandle type pointer (loop.finish before release).calls := by
  intro call hmem
  cases hthrown : loop.thrown with
  | none =>
      simp only [FetchedRows.finish, hthrown, List.mem_append,
        List.mem_singleton] at hmem
      obtain (hmem | hmem) | hmem := hmem
      · exact hbefore call hmem
      · exact hloop call hmem
      · left
        rw [hmem]
        exact hrelease
  | some exception =>
      simp only [FetchedRows.finish, hthrown, List.mem_append] at hmem
      obtain hmem | hmem := hmem
      · exact hbefore call hmem
      · exact hloop call hmem

theorem FetchedRows.mem_finish_of_mem
    {before : List ClientCall} {call : ClientCall} (loop : FetchedRows)
    (hmem : call ∈ before) (release : ClientCall) :
    call ∈ (loop.finish before release).calls := by
  cases hthrown : loop.thrown with
  | none => simp [FetchedRows.finish, hthrown, hmem]
  | some exception => simp [FetchedRows.finish, hthrown, hmem]

theorem fetchLoop_onHandle
    {fields : ℕ} {fetch : Bool → ClientCall}
    (hfetch : ∀ more, (fetch more).appliedTo = none) (rs : CResultSet)
    (rows : List (FetchedRow fields)) (type : EDatabaseType)
    (pointer : DatabasePointer) :
    OnHandle type pointer (fetchLoop fetch rs rows).calls := by
  intro call hmem
  obtain ⟨more, hcall⟩ := fetchLoop_calls_subset fetch rs rows call hmem
  left
  rw [hcall]
  exact hfetch more

theorem executeMariaDB_onHandle
    (rs : CResultSet) (db : DatabasePointer) (sql : List UInt8)
    (client : MariaDBAnswers) :
    OnHandle .mariadb db (executeMariaDB rs db sql client).calls := by
  unfold executeMariaDB
  dsimp only
  split_ifs
  · simp [OnHandle, ClientCall.appliedTo]
  · cases client.stored with
    | none => simp [OnHandle, ClientCall.appliedTo]
    | some result =>
        dsimp only
        split_ifs
        · simp [OnHandle, ClientCall.appliedTo]
        · simp [OnHandle, ClientCall.appliedTo]
        · simp [OnHandle, ClientCall.appliedTo]
        · apply FetchedRows.onHandle_finish
          · simp [OnHandle, ClientCall.appliedTo]
          · exact fetchLoop_onHandle (fun _ => rfl) _ _ _ _
          · rfl

theorem executeSqlite_onHandle
    (rs : CResultSet) (db : DatabasePointer) (sql : List UInt8)
    (client : SqliteAnswers) :
    OnHandle .sqlite db (executeSqlite rs db sql client).calls := by
  unfold executeSqlite
  dsimp only
  split_ifs
  · simp [OnHandle, ClientCall.appliedTo]
  · cases client.stmt with
    | none => simp [OnHandle, ClientCall.appliedTo]
    | some stmt =>
        dsimp only
        split_ifs
        · simp [OnHandle, ClientCall.appliedTo]
        · simp [OnHandle, ClientCall.appliedTo]
        · apply FetchedRows.onHandle_finish
          · simp [OnHandle, ClientCall.appliedTo]
          · exact fetchLoop_onHandle (fun _ => rfl) _ _ _ _
          · rfl

/-- Whatever it ends with, the MariaDB branch begins with `mysql_query`. -/
theorem mysqlQuery_mem_executeMariaDB
    (rs : CResultSet) (db : DatabasePointer) (sql : List UInt8)
    (client : MariaDBAnswers) :
    .mysqlQuery db (cString sql) client.query ∈
      (executeMariaDB rs db sql client).calls := by
  unfold executeMariaDB
  dsimp only
  split_ifs
  · simp
  · cases client.stored with
    | none => simp
    | some result =>
        dsimp only
        split_ifs
        · simp
        · simp
        · simp
        · exact FetchedRows.mem_finish_of_mem _ (by simp) _

theorem sqlitePrepare_mem_executeSqlite
    (rs : CResultSet) (db : DatabasePointer) (sql : List UInt8)
    (client : SqliteAnswers) :
    ∃ acquired, .sqlitePrepare db sql (toInt sql.length) client.prepare acquired ∈
      (executeSqlite rs db sql client).calls := by
  unfold executeSqlite
  dsimp only
  split_ifs
  · exact ⟨false, by simp⟩
  · cases client.stmt with
    | none => exact ⟨false, by simp⟩
    | some stmt =>
        dsimp only
        split_ifs
        · exact ⟨true, by simp⟩
        · exact ⟨true, by simp⟩
        · exact ⟨true, FetchedRows.mem_finish_of_mem _ (by simp) _⟩

theorem CDatabase.engine_eq_some
    {build : Build} {db : CDatabase} {type : EDatabaseType}
    (hengine : db.engine build = some type) : db.databaseType = type := by
  unfold CDatabase.engine at hengine
  cases htype : db.databaseType with
  | mariadb => simpa [htype] using hengine
  | sqlite =>
      simp only [htype] at hengine
      split_ifs at hengine with hbuild
      simpa using hengine

theorem CDatabase.engine_of_mariadb
    {db : CDatabase} (htype : db.databaseType = .mariadb) (build : Build) :
    db.engine build = some .mariadb := by
  simp [CDatabase.engine, htype]

theorem CDatabase.engine_of_sqlite
    {db : CDatabase} (htype : db.databaseType = .sqlite) (build : Build) :
    db.engine build = if build.hasSqlite then some .sqlite else none := by
  simp [CDatabase.engine, htype]

theorem executeQuery_onHandle
    (rs : CResultSet) (build : Build) (db : CDatabase) (sql : List UInt8)
    (client : ClientAnswers) :
    OnHandle db.databaseType db.pointedDb
      (rs.executeQuery build db sql client).calls := by
  unfold CResultSet.executeQuery
  cases hengine : db.engine build with
  | none => simp [OnHandle]
  | some type =>
      rw [db.engine_eq_some hengine]
      cases type with
      | mariadb => exact executeMariaDB_onHandle rs db.pointedDb sql client.mariadb
      | sqlite => exact executeSqlite_onHandle rs db.pointedDb sql client.sqlite

theorem executeQuery_asks_iff
    (rs : CResultSet) (build : Build) (db : CDatabase) (sql : List UInt8)
    (client : ClientAnswers) :
    (∃ call ∈ (rs.executeQuery build db sql client).calls,
        call.appliedTo ≠ none) ↔ db.engine build ≠ none := by
  unfold CResultSet.executeQuery
  cases hengine : db.engine build with
  | none => simp
  | some type =>
      simp only [ne_eq, reduceCtorEq, not_false_eq_true, iff_true]
      cases type with
      | mariadb =>
          exact ⟨_, mysqlQuery_mem_executeMariaDB rs db.pointedDb sql client.mariadb,
            by simp [ClientCall.appliedTo]⟩
      | sqlite =>
          obtain ⟨acquired, hmem⟩ :=
            sqlitePrepare_mem_executeSqlite rs db.pointedDb sql client.sqlite
          exact ⟨_, hmem, by simp [ClientCall.appliedTo]⟩

end MDK
