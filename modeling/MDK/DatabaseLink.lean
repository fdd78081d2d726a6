import MDK.DatabaseHandles
import MDK.DatabaseTag
import MDK.QuerySuccess

/-!
# A connection as a program thinks of it

A program that connects an idle object only, disconnects after a failure, and
makes queries while it is connected sees an ideal connection: the object says
what the connection says, the backend of the connection gets each text once and
in order, and no handle is mixed up, called on after its close, or lost.
-/

namespace MDK

open CString StepSystem

/-! ## The ideal connection -/

inductive Link where
  | idle
  | failed (type : EDatabaseType)
  | connected (type : EDatabaseType)
  | gone
  deriving DecidableEq, Repr

/-- The texts are the ones that a backend was given to execute. -/
structure LinkState where
  link : Link
  replies : List (Option Bool)
  texts : List (EDatabaseType × List UInt8)
  deriving DecidableEq, Repr

inductive LinkStop where
  | misused
  deriving DecidableEq, Repr

def Build.compiles (build : Build) : EDatabaseType → Bool
  | .mariadb => true
  | .sqlite => build.hasSqlite

/-- The library has memory for a handle. -/
def ConnectAnswers.makes (answers : ConnectAnswers) : EDatabaseType → Bool
  | .mariadb => answers.init
  | .sqlite => answers.stored

def ConnectAnswers.connects (answers : ConnectAnswers) : EDatabaseType → Bool
  | .mariadb => answers.realConnect
  | .sqlite => answers.openResult = sqliteOk

def RunAnswers.succeeds (answers : RunAnswers) : EDatabaseType → Bool
  | .mariadb => answers.query = 0
  | .sqlite => answers.exec = sqliteOk

/-- The backend has a result, and hands out no SQL NULL. -/
def ClientAnswers.Succeeds (client : ClientAnswers) : EDatabaseType → Prop
  | .mariadb => client.mariadb.Succeeds
  | .sqlite => client.sqlite.DeliversRows

/-- A text that reaches either backend whole. -/
def PlainText (sql : List UInt8) : Prop :=
  0 ∉ sql ∧ sql.length < 2 ^ 31

instance (sql : List UInt8) : Decidable (PlainText sql) :=
  inferInstanceAs (Decidable (_ ∧ _))

namespace LinkState

def initial : LinkState := ⟨.idle, [], []⟩

def reply (state : LinkState) (link : Link) (value : Option Bool) : LinkState :=
  { state with link := link, replies := state.replies ++ [value] }

def execute (state : LinkState) (type : EDatabaseType) (sql : List UInt8)
    (value : Bool) : LinkState :=
  { state with
    replies := state.replies ++ [some value]
    texts := state.texts ++ [(type, sql)] }

open Classical in
/-- What is not listed is a misuse. -/
noncomputable def step (build : Build) (state : LinkState)
    (event : DatabaseEvent) : Except LinkStop LinkState :=
  match state.link, event with
  | .gone, _ => .error .misused
  | .idle, .connect type _ answers =>
      if build.compiles type ∧ answers.makes type then
        if answers.connects type then
          .ok (state.reply (.connected type) (some true))
        else .ok (state.reply (.failed type) (some false))
      else .error .misused
  | _, .connect _ _ _ => .error .misused
  | _, .disconnect => .ok (state.reply .idle none)
  | _, .destroy => .ok (state.reply .gone none)
  | .failed _, _ => .error .misused
  | .idle, .isConnected _ => .ok (state.reply .idle (some false))
  | .connected type, .isConnected alive =>
      .ok (state.reply (.connected type) (some (type = .sqlite ∨ alive)))
  | .idle, .mdkOnlyRunQuery _ _ => .ok (state.reply .idle (some false))
  | .connected type, .mdkOnlyRunQuery sql answers =>
      if PlainText sql then .ok (state.execute type sql (answers.succeeds type))
      else .error .misused
  | .idle, .executeQuery _ _ _ => .error .misused
  | .connected type, .executeQuery _ sql client =>
      if PlainText sql then
        .ok (state.execute type sql (decide (client.Succeeds type)))
      else .error .misused

end LinkState

/-! ## The object with its replies -/

/-- What the call returns, where an exception counts as a failure. -/
def DatabaseEvent.reply (build : Build) (session : DatabaseSession) :
    DatabaseEvent → Option Bool
  | .connect type arguments answers =>
      some (session.connect build type arguments answers).1
  | .disconnect => none
  | .isConnected alive => some (session.isConnected alive).1
  | .mdkOnlyRunQuery sql answers =>
      some (session.mdkOnlyRunQuery build sql answers).1
  | .executeQuery resultSet sql client =>
      match (session.executeQuery build resultSet sql client).1.returned with
      | .ok value => some value
      | .error _ => some false
  | .destroy => none

structure AnsweringSession where
  session : DatabaseSession
  replies : List (Option Bool)

def AnsweringSession.step (build : Build) (answering : AnsweringSession)
    (event : DatabaseEvent) : Except DatabaseStop AnsweringSession :=
  match answering.session.step build event with
  | .error stop => .error stop
  | .ok next =>
      .ok ⟨next, answering.replies ++ [event.reply build answering.session]⟩

/-- The text that a call gives to a backend for execution. -/
def DatabaseCall.text : DatabaseCall → Option (EDatabaseType × List UInt8)
  | .query (.mysqlQuery _ sql _) => some (.mariadb, sql)
  | .query (.sqlitePrepare _ sql length _ _) =>
      some (.sqlite, preparedText sql length)
  | .sqliteExec _ sql _ => some (.sqlite, sql)
  | _ => none

def DatabaseSession.texts (session : DatabaseSession) :
    List (EDatabaseType × List UInt8) :=
  session.calls.filterMap DatabaseCall.text

/-! ## The relation -/

def Link.Describes (build : Build) (session : DatabaseSession) : Link → Prop
  | .idle => session.destroyed = false ∧ session.db.pointedDb = none
  | .failed type => session.destroyed = false ∧
      session.db.engine build = some type ∧ session.hasOpenHandle = false
  | .connected type => session.destroyed = false ∧
      session.db.engine build = some type ∧ session.hasOpenHandle = true
  | .gone => session.destroyed = true ∧ session.db.pointedDb = none

/-- No handle is mixed up, missing, used after its close, or lost. -/
structure DatabaseSession.Clean (session : DatabaseSession) : Prop where
  orderly : session.Orderly
  tagged : session.Tagged
  neverNull : session.NeverNull
  conserves : session.Conserves

structure LinkState.IsSeenAs (build : Build) (state : LinkState)
    (answering : AnsweringSession) : Prop where
  clean : answering.session.Clean
  describes : state.link.Describes build answering.session
  replies : answering.replies = state.replies
  texts : answering.session.texts = state.texts

namespace DatabaseSession

theorem Clean.step
    {build : Build} {session next : DatabaseSession} {event : DatabaseEvent}
    (hclean : session.Clean) (hstep : session.step build event = .ok next)
    (htag : event.KeepsTag build session)
    (hhas : event.HasHandle build session)
    (hkeeps : event.KeepsHandle build session) : next.Clean where
  orderly := (steps_of_step hstep).orderly hclean.orderly
  tagged := ((steps_of_step hstep).tagged_iff hclean.tagged).mpr htag
  neverNull := (steps_of_step hstep).neverNull_iff.mpr ⟨hclean.neverNull, hhas⟩
  conserves := ((steps_of_step hstep).conserves_iff
    hclean.orderly.toValid).mpr ⟨hclean.conserves, hkeeps⟩

/-! ## Texts of the calls -/

theorem texts_log
    (session : DatabaseSession) (calls : List DatabaseCall) :
    (session.log calls).texts =
      session.texts ++ calls.filterMap DatabaseCall.text := by
  simp [texts, log]

end DatabaseSession

theorem finish_texts
    {fields : ℕ} (fetch : Bool → ClientCall) (rs : CResultSet)
    (rows : List (FetchedRow fields)) (before : List ClientCall)
    (release : ClientCall)
    (hfetch : ∀ more, (DatabaseCall.query (fetch more)).text = none)
    (hrelease : (DatabaseCall.query release).text = none) :
    (((fetchLoop fetch rs rows).finish before release).calls.map
        .query).filterMap DatabaseCall.text =
      (before.map .query).filterMap DatabaseCall.text := by
  have hloop : ((fetchLoop fetch rs rows).calls.map .query).filterMap
      DatabaseCall.text = [] := by
    rw [List.filterMap_eq_nil_iff]
    intro call hmem
    obtain ⟨client, hclient, rfl⟩ := List.mem_map.mp hmem
    obtain ⟨more, rfl⟩ := fetchLoop_calls_subset fetch rs rows client hclient
    exact hfetch more
  unfold FetchedRows.finish
  cases (fetchLoop fetch rs rows).thrown with
  | some exception => simp [hloop]
  | none => simp [hloop, hrelease]

theorem executeMariaDB_texts
    (rs : CResultSet) (db : DatabasePointer) (sql : List UInt8)
    (client : MariaDBAnswers) :
    ((executeMariaDB rs db sql client).calls.map .query).filterMap
      DatabaseCall.text = [(.mariadb, cString sql)] := by
  unfold executeMariaDB
  dsimp only
  split_ifs
  · rfl
  · cases client.stored with
    | none => rfl
    | some result =>
        dsimp only
        split_ifs
        · rfl
        · rfl
        · rfl
        · exact finish_texts _ _ _ _ _ (fun _ => rfl) rfl

theorem executeSqlite_texts
    (rs : CResultSet) (db : DatabasePointer) (sql : List UInt8)
    (client : SqliteAnswers) :
    ((executeSqlite rs db sql client).calls.map .query).filterMap
      DatabaseCall.text =
        [(.sqlite, preparedText sql (toInt sql.length))] := by
  unfold executeSqlite
  dsimp only
  split_ifs
  · rfl
  · cases client.stmt with
    | none => rfl
    | some stmt =>
        dsimp only
        split_ifs
        · rfl
        · rfl
        · exact finish_texts _ _ _ _ _ (fun _ => rfl) rfl

theorem PlainText.cString_eq {sql : List UInt8} (hplain : PlainText sql) :
    cString sql = sql :=
  cString_eq_self_iff.mpr hplain.1

theorem PlainText.preparedText_eq {sql : List UInt8} (hplain : PlainText sql) :
    preparedText sql (toInt sql.length) = sql :=
  preparedText_eq_self_iff.mpr ⟨hplain.1, Or.inl hplain.2⟩

/-! ## Queries on a connection -/

namespace DatabaseSession

theorem Valid.hasOpenHandle_eq
    {session : DatabaseSession} (hvalid : session.Valid) :
    session.hasOpenHandle = session.db.pointedDb.any fun name =>
      (session.handles.get? name).any DatabaseHandle.connected := by
  unfold hasOpenHandle
  cases hpointer : session.db.pointedDb with
  | none => rfl
  | some name => exact hvalid.isOpen_pointed hpointer

theorem pointedDb_ne_none_of_hasOpenHandle
    {session : DatabaseSession} (hopen : session.hasOpenHandle = true) :
    session.db.pointedDb ≠ none := by
  intro hnone
  simp [hasOpenHandle, hnone] at hopen

/-- A call that only asks: the object stays as it is. -/
structure Asked (session next : DatabaseSession)
    (texts : List (EDatabaseType × List UInt8)) : Prop where
  db : next.db = session.db
  handles : next.handles = session.handles
  destroyed : next.destroyed = session.destroyed
  texts : next.texts = session.texts ++ texts

theorem asked_self (session : DatabaseSession) : session.Asked session [] :=
  ⟨rfl, rfl, rfl, (List.append_nil _).symm⟩

theorem asked_log
    (session : DatabaseSession) (calls : List DatabaseCall) :
    session.Asked (session.log calls) (calls.filterMap DatabaseCall.text) :=
  ⟨rfl, rfl, rfl, session.texts_log calls⟩

theorem Asked.hasOpenHandle_eq
    {session next : DatabaseSession} {texts : List (EDatabaseType × List UInt8)}
    (hasked : session.Asked next texts) (hvalid : session.Valid)
    (hnext : next.Valid) : next.hasOpenHandle = session.hasOpenHandle := by
  rw [hnext.hasOpenHandle_eq, hvalid.hasOpenHandle_eq, hasked.db,
    hasked.handles]

theorem isConnected_asked (session : DatabaseSession) (alive : Bool) :
    session.Asked (session.isConnected alive).2 [] := by
  unfold isConnected
  split_ifs
  · exact session.asked_self
  · cases session.db.databaseType with
    | mariadb => exact session.asked_log _
    | sqlite => exact session.asked_self

theorem mdkOnlyRunQuery_connected
    {session : DatabaseSession} {build : Build} {type : EDatabaseType}
    (hengine : session.db.engine build = some type)
    (hopen : session.hasOpenHandle = true) {sql : List UInt8}
    (hplain : PlainText sql) (answers : RunAnswers) :
    (session.mdkOnlyRunQuery build sql answers).1 = answers.succeeds type ∧
      session.Asked (session.mdkOnlyRunQuery build sql answers).2
        [(type, sql)] := by
  have hpointer := pointedDb_ne_none_of_hasOpenHandle hopen
  unfold mdkOnlyRunQuery
  simp only [if_neg hpointer, hengine, hplain.cString_eq]
  cases type with
  | mariadb =>
      by_cases hquery : answers.query = 0
      · simp only [hquery, ne_eq, not_true_eq_false, if_false,
          RunAnswers.succeeds, decide_true, true_and]
        exact session.asked_log _
      · simp only [hquery, ne_eq, not_false_eq_true, if_true,
          RunAnswers.succeeds, decide_false, true_and, log_log]
        exact session.asked_log _
  | sqlite => exact ⟨rfl, session.asked_log _⟩

theorem executeQuery_connected
    {session : DatabaseSession} {build : Build} {type : EDatabaseType}
    (hengine : session.db.engine build = some type) {sql : List UInt8}
    (hplain : PlainText sql) (resultSet : CResultSet) (client : ClientAnswers) :
    ((session.executeQuery build resultSet sql client).1.returned = .ok true ↔
        client.Succeeds type) ∧
      session.Asked (session.executeQuery build resultSet sql client).2
        [(type, sql)] := by
  unfold executeQuery
  cases type with
  | mariadb =>
      rw [executeQuery_of_mariadb hengine]
      have htexts := executeMariaDB_texts resultSet session.db.pointedDb sql
        client.mariadb
      have hasked := session.asked_log ((executeMariaDB resultSet
        session.db.pointedDb sql client.mariadb).calls.map .query)
      rw [htexts, hplain.cString_eq] at hasked
      exact ⟨executeMariaDB_returned_true_iff, hasked⟩
  | sqlite =>
      rw [executeQuery_of_sqlite hengine]
      have htexts := executeSqlite_texts resultSet session.db.pointedDb sql
        client.sqlite
      have hasked := session.asked_log ((executeSqlite resultSet
        session.db.pointedDb sql client.sqlite).calls.map .query)
      rw [htexts, hplain.preparedText_eq] at hasked
      exact ⟨executeSqlite_returned_true_iff, hasked⟩

end DatabaseSession

open Classical in
theorem DatabaseEvent.reply_executeQuery
    {session : DatabaseSession} {build : Build} {type : EDatabaseType}
    (hengine : session.db.engine build = some type) {sql : List UInt8}
    (hplain : PlainText sql) (resultSet : CResultSet) (client : ClientAnswers) :
    (DatabaseEvent.executeQuery resultSet sql client).reply build session =
      some (decide (client.Succeeds type)) := by
  have hiff := (DatabaseSession.executeQuery_connected hengine hplain resultSet
    client).1
  simp only [DatabaseEvent.reply, ← hiff]
  cases (session.executeQuery build resultSet sql client).1.returned with
  | ok value => simp
  | error exception => simp

/-! ## Connecting -/

namespace DatabaseSession

theorem engine_setType
    (session : DatabaseSession) {build : Build} {type : EDatabaseType}
    (hcompiles : build.compiles type = true) :
    (session.setType type).db.engine build = some type := by
  cases type with
  | mariadb => rfl
  | sqlite =>
      have hbuild : build.hasSqlite = true := hcompiles
      simp [setType, CDatabase.engine, hbuild]

@[simp] theorem texts_realConnect
    (session : DatabaseSession) (connected : Bool) :
    (session.realConnect connected).texts = session.texts := by
  simp [texts]

@[simp] theorem destroyed_realConnect
    (session : DatabaseSession) (connected : Bool) :
    (session.realConnect connected).destroyed = session.destroyed := by
  unfold realConnect
  cases session.db.pointedDb with
  | none => rfl
  | some name => rfl

theorem mysqlConnectCalls_texts
    (pointer : DatabasePointer) (arguments : ConnectArguments)
    (answers : ConnectAnswers) :
    (mysqlConnectCalls pointer arguments answers).filterMap
      DatabaseCall.text = [] := by
  unfold mysqlConnectCalls
  cases answers.realConnect with
  | false => rfl
  | true => rfl

theorem mysqlConnect_texts
    (session : DatabaseSession) (arguments : ConnectArguments)
    (answers : ConnectAnswers) :
    (session.mysqlConnect arguments answers).2.texts = session.texts := by
  rw [mysqlConnect_eq, texts_realConnect, texts_log, mysqlConnectCalls_texts,
    List.append_nil]
  rfl

/-- What a program finds after a `Connect` that the library had memory for. -/
structure ConnectedAs (session : DatabaseSession) (build : Build)
    (type : EDatabaseType) (connected : Bool)
    (result : Bool × DatabaseSession) : Prop where
  returned : result.1 = connected
  engine : result.2.db.engine build = some type
  isOpen : result.2.hasOpenHandle = connected
  destroyed : result.2.destroyed = session.destroyed
  texts : result.2.texts = session.texts

theorem connectMariaDB_idle
    {session : DatabaseSession} (htype : session.db.databaseType = .mariadb)
    (hpointer : session.db.pointedDb = none) (build : Build)
    (arguments : ConnectArguments) {answers : ConnectAnswers}
    (hinit : answers.init = true)
    (hnext : (session.connectMariaDB arguments answers).2.Valid) :
    session.ConnectedAs build .mariadb answers.realConnect
      (session.connectMariaDB arguments answers) := by
  unfold connectMariaDB at hnext ⊢
  rw [if_pos hpointer, hinit] at hnext ⊢
  have hinitType := (session.mysqlInit_databaseType true).trans htype
  have huses := mysqlConnect_uses (session.mysqlInit true) hinitType arguments
    answers
  constructor
  · exact mysqlConnect_fst _ arguments answers
  · exact CDatabase.engine_of_mariadb huses.databaseType build
  · apply mysqlConnect_mysqlStat hinitType
      (fun name => mysqlInit_pointed session true) _ hnext
    intro hnone
    simp [mysqlInit, create, setPointer, log] at hnone
  · rw [mysqlConnect_eq]
    simp [mysqlInit, create, setPointer, log, setProtocol]
  · rw [mysqlConnect_texts]
    simp [mysqlInit, create, setPointer, log, texts, DatabaseCall.text]

theorem connectSqlite_made
    {session : DatabaseSession} (htype : session.db.databaseType = .sqlite)
    {build : Build} (hbuild : build.hasSqlite = true)
    (arguments : ConnectArguments) {answers : ConnectAnswers}
    (hstored : answers.stored = true)
    (hnext : (session.connectSqlite arguments answers).2.Valid) :
    session.ConnectedAs build .sqlite (answers.openResult = sqliteOk)
      (session.connectSqlite arguments answers) := by
  rw [connectSqlite_eq, hstored] at hnext ⊢
  have herrmsg : ∀ pointer, (sqliteErrmsgCalls pointer answers).filterMap
      DatabaseCall.text = [] := by
    intro pointer
    unfold sqliteErrmsgCalls
    split_ifs
    · rfl
    · rfl
  constructor
  · rfl
  · refine (CDatabase.engine_of_sqlite ?_ build).trans (if_pos hbuild)
    exact (session.create_databaseType _).trans htype
  · rw [hnext.hasOpenHandle_eq]
    simp [create, setPointer, log, sqliteHandle]
  · rfl
  · rw [texts_log, texts_log, herrmsg]
    simp [create, setPointer, texts, DatabaseCall.text]

theorem connect_idle
    {session : DatabaseSession} (hvalid : session.Valid)
    (hpointer : session.db.pointedDb = none) {build : Build}
    {type : EDatabaseType} (hcompiles : build.compiles type = true)
    (arguments : ConnectArguments) {answers : ConnectAnswers}
    (hmakes : answers.makes type = true) :
    session.ConnectedAs build type (answers.connects type)
      (session.connect build type arguments answers) := by
  have hnext := (connect_steps build session type arguments answers).valid hvalid
  have hengine := session.engine_setType hcompiles
  have hidle : (session.setType type).db.pointedDb = none := hpointer
  unfold connect at hnext ⊢
  cases type with
  | mariadb =>
      simp only [hengine] at hnext ⊢
      have hconnected := connectMariaDB_idle rfl hidle build arguments hmakes
        hnext
      exact ⟨hconnected.returned, hconnected.engine, hconnected.isOpen,
        hconnected.destroyed, hconnected.texts⟩
  | sqlite =>
      simp only [hengine] at hnext ⊢
      have hconnected := connectSqlite_made rfl hcompiles arguments hmakes hnext
      exact ⟨hconnected.returned, hconnected.engine, hconnected.isOpen,
        hconnected.destroyed, hconnected.texts⟩

end DatabaseSession

end MDK
