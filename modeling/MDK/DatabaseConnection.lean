import MDK.Arena
import MDK.QueryExecution

/-!
# Connecting to a database

`CDatabase::Connect`, `Disconnect` and `IsConnected`, and the queries on the
object.  The handles belong to the client libraries, which answer as the
arguments say.  Every call of a library is logged with the pointer it is made
on, whoever created the handle there.
-/

namespace MDK

open CString

/-- A C string argument, `none` for NULL. -/
abbrev CStringArgument := Option (List UInt8)

/-- A handle of a client library.  It is connected when the last
`mysql_real_connect` on it, or the `sqlite3_open_v2` that made it, succeeded. -/
structure DatabaseHandle where
  backend : EDatabaseType
  connected : Bool
  deriving DecidableEq, Repr

def DatabaseHandle.realConnect (connected : Bool) (handle : DatabaseHandle) :
    DatabaseHandle :=
  { handle with connected := connected }

inductive DatabaseCall where
  | mysqlInit (created : DatabasePointer)
  | mysqlOptions (db : DatabasePointer) (protocol : ℕ)
  | mysqlRealConnect (db : DatabasePointer)
      (host username password databaseName : CStringArgument) (port : ℤ)
      (unixSocket : CStringArgument) (connected : Bool)
  | mysqlStat (db : DatabasePointer) (alive : Bool)
  | mysqlClose (db : DatabasePointer)
  | sqliteOpen (databaseName : CStringArgument) (stored : DatabasePointer)
      (result : ℤ)
  | sqliteClose (db : DatabasePointer)
  | sqliteExec (db : DatabasePointer) (sql : List UInt8) (result : ℤ)
  | query (call : ClientCall)
  deriving DecidableEq, Repr

/-- The backend whose function is called, and the pointer it is applied to. -/
def ClientCall.appliedTo : ClientCall → Option (EDatabaseType × DatabasePointer)
  | .mysqlQuery db _ _ => some (.mariadb, db)
  | .mysqlStoreResult db _ => some (.mariadb, db)
  | .mysqlError db => some (.mariadb, db)
  | .sqlitePrepare db _ _ _ _ => some (.sqlite, db)
  | .sqliteErrmsg db => some (.sqlite, db)
  | .mysqlFetchRow _ => none
  | .mysqlFreeResult => none
  | .mysqlErrorOfDatabaseObject => none
  | .sqliteStep _ => none
  | .sqliteFinalize _ => none

def DatabaseCall.appliedTo :
    DatabaseCall → Option (EDatabaseType × DatabasePointer)
  | .mysqlInit _ => none
  | .mysqlOptions db _ => some (.mariadb, db)
  | .mysqlRealConnect db _ _ _ _ _ _ _ => some (.mariadb, db)
  | .mysqlStat db _ => some (.mariadb, db)
  | .mysqlClose db => some (.mariadb, db)
  | .sqliteOpen _ _ _ => none
  | .sqliteClose db => some (.sqlite, db)
  | .sqliteExec db _ _ => some (.sqlite, db)
  | .query call => call.appliedTo

/-- The handle that a call closes, with the backend that closes it. -/
def DatabaseCall.closes : DatabaseCall → Option (EDatabaseType × ℕ)
  | .mysqlClose (some name) => some (.mariadb, name)
  | .sqliteClose (some name) => some (.sqlite, name)
  | _ => none

/-- The handle a call is applied to. -/
def DatabaseCall.touches (call : DatabaseCall) : Option ℕ :=
  call.appliedTo.bind Prod.snd

def DatabaseCall.closesName (call : DatabaseCall) : Option ℕ :=
  call.closes.map Prod.snd

/-! ## The object and its libraries -/

structure DatabaseSession where
  db : CDatabase
  handles : Arena DatabaseHandle
  calls : List DatabaseCall
  destroyed : Bool
  deriving DecidableEq, Repr

namespace DatabaseSession

def new : DatabaseSession := ⟨.new, .empty, [], false⟩

def log (session : DatabaseSession) (calls : List DatabaseCall) :
    DatabaseSession :=
  { session with calls := session.calls ++ calls }

def setPointer (session : DatabaseSession) (pointer : DatabasePointer) :
    DatabaseSession :=
  { session with db := { session.db with pointedDb := pointer } }

def setType (session : DatabaseSession) (type : EDatabaseType) :
    DatabaseSession :=
  { session with db := { session.db with databaseType := type } }

def setProtocol (session : DatabaseSession) (protocol : ℕ) : DatabaseSession :=
  { session with db := { session.db with protocol := protocol } }

/-- `mysql_real_connect` marks the handle behind the pointer, if there is one. -/
def realConnect (session : DatabaseSession) (connected : Bool) :
    DatabaseSession :=
  match session.db.pointedDb with
  | none => session
  | some name =>
      { session with
        handles := session.handles.modify name (.realConnect connected) }

/-- A library creates a handle, or none, and the pointer is set to it. -/
def create (session : DatabaseSession) (handle : Option DatabaseHandle) :
    DatabaseSession :=
  match handle with
  | none => session.setPointer none
  | some handle =>
      { session with handles := session.handles.alloc handle }.setPointer
        (some session.handles.fresh)

end DatabaseSession

/-! ## Connect -/

structure ConnectArguments where
  host : CStringArgument
  port : ℤ
  username : CStringArgument
  databaseName : CStringArgument
  password : CStringArgument
  deriving DecidableEq, Repr

/-- What the libraries answer during one `Connect`: whether `mysql_init` made a
handle and `mysql_real_connect` connected it, whether `sqlite3_open_v2` stored a
handle and what it returned.  Without a handle nothing succeeds. -/
structure ConnectAnswers where
  init : Bool
  realConnect : Bool
  stored : Bool
  openResult : ℤ
  init_of_realConnect : realConnect = true → init = true
  stored_of_open : openResult = sqliteOk → stored = true

def ConnectAnswers.success : ConnectAnswers where
  init := true
  realConnect := true
  stored := true
  openResult := sqliteOk
  init_of_realConnect _ := rfl
  stored_of_open _ := rfl

def mysqlProtocolTcp : ℕ := 1

def mysqlProtocolSocket : ℕ := 2

namespace DatabaseSession

def mysqlInit (session : DatabaseSession) (made : Bool) : DatabaseSession :=
  let session := session.create
    (if made then some ⟨.mariadb, false⟩ else none)
  session.log [.mysqlInit session.db.pointedDb]

/-- The rest of the MariaDB branch, whether or not there is a handle now. -/
def mysqlConnect (session : DatabaseSession) (arguments : ConnectArguments)
    (answers : ConnectAnswers) : Bool × DatabaseSession :=
  let protocol :=
    if arguments.port > 0 then mysqlProtocolTcp else mysqlProtocolSocket
  let session := session.setProtocol protocol
  let pointer := session.db.pointedDb
  let host := if arguments.port > 0 then arguments.host else none
  let unixSocket := if arguments.port > 0 then none else arguments.host
  let session := session.log [.mysqlOptions pointer protocol,
    .mysqlRealConnect pointer host arguments.username arguments.password
      arguments.databaseName arguments.port unixSocket answers.realConnect]
  let session := session.realConnect answers.realConnect
  if answers.realConnect then (true, session)
  else (false, session.log [.query (.mysqlError pointer)])

def connectMariaDB (session : DatabaseSession) (arguments : ConnectArguments)
    (answers : ConnectAnswers) : Bool × DatabaseSession :=
  let session :=
    if session.db.pointedDb = none then session.mysqlInit answers.init
    else session
  session.mysqlConnect arguments answers

/-- `sqlite3_open_v2` writes the new handle to `m_Pointed_db` itself. -/
def connectSqlite (session : DatabaseSession) (arguments : ConnectArguments)
    (answers : ConnectAnswers) : Bool × DatabaseSession :=
  let session := session.create
    (if answers.stored then
      some ⟨.sqlite, answers.openResult = sqliteOk⟩ else none)
  let pointer := session.db.pointedDb
  let session := session.log
    [.sqliteOpen arguments.databaseName pointer answers.openResult]
  if answers.openResult ≠ sqliteOk then
    (false, session.log [.query (.sqliteErrmsg pointer)])
  else (true, session)

def connect (session : DatabaseSession) (build : Build) (type : EDatabaseType)
    (arguments : ConnectArguments) (answers : ConnectAnswers) :
    Bool × DatabaseSession :=
  let session := session.setType type
  match session.db.engine build with
  | some .mariadb => session.connectMariaDB arguments answers
  | some .sqlite => session.connectSqlite arguments answers
  | none => (true, session)

/-! ## Disconnect and IsConnected -/

def disconnect (session : DatabaseSession) (build : Build) : DatabaseSession :=
  let session :=
    if session.db.pointedDb = none then session
    else
      match session.db.engine build with
      | some .mariadb => session.log [.mysqlClose session.db.pointedDb]
      | some .sqlite => session.log [.sqliteClose session.db.pointedDb]
      | none => session
  session.setPointer none

/-- The destructor. -/
def destroy (session : DatabaseSession) (build : Build) : DatabaseSession :=
  { session.disconnect build with destroyed := true }

/-- `alive` says whether `mysql_stat` answers with a text. -/
def isConnected (session : DatabaseSession) (alive : Bool) :
    Bool × DatabaseSession :=
  if session.db.pointedDb = none then (false, session)
  else
    match session.db.databaseType with
    | .mariadb => (alive, session.log [.mysqlStat session.db.pointedDb alive])
    | .sqlite => (true, session)

/-- The handle was connected, and nobody has closed it. -/
def isOpen (session : DatabaseSession) (name : ℕ) : Bool :=
  (session.handles.get? name).any DatabaseHandle.connected &&
    session.calls.all fun call => call.closesName ≠ some name

def hasOpenHandle (session : DatabaseSession) : Bool :=
  session.db.pointedDb.any session.isOpen

/-- `mysql_stat` answers exactly on an open handle. -/
def mysqlStat (session : DatabaseSession) : Bool :=
  session.hasOpenHandle

end DatabaseSession

/-! ## Queries -/

/-- What `mysql_query` and `sqlite3_exec` return. -/
structure RunAnswers where
  query : ℤ
  exec : ℤ
  deriving DecidableEq, Repr

namespace DatabaseSession

/-- Without a branch for the type of the database the source falls through to
`return true`. -/
def mdkOnlyRunQuery (session : DatabaseSession) (build : Build)
    (sql : List UInt8) (answers : RunAnswers) : Bool × DatabaseSession :=
  let pointer := session.db.pointedDb
  if pointer = none then (false, session)
  else
    match session.db.engine build with
    | some .mariadb =>
        let session := session.log
          [.query (.mysqlQuery pointer (cString sql) answers.query)]
        if answers.query ≠ 0 then
          (false, session.log [.query (.mysqlError pointer)])
        else (true, session)
    | some .sqlite =>
        -- The text of the error is handed out by `sqlite3_exec` itself.
        (answers.exec = sqliteOk,
          session.log [.sqliteExec pointer (cString sql) answers.exec])
    | none => (true, session)

/-- `CResultSet::ExecuteQuery` on this database. -/
def executeQuery (session : DatabaseSession) (build : Build)
    (resultSet : CResultSet) (sql : List UInt8) (client : ClientAnswers) :
    Execution × DatabaseSession :=
  let execution := resultSet.executeQuery build session.db sql client
  (execution, session.log (execution.calls.map .query))

end DatabaseSession

end MDK
