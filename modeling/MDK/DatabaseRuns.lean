import MDK.QueryHandles
import MDK.StepSystem

/-!
# Histories of a database object

A history is a list of calls on one `CDatabase`, with what the client libraries
answer, up to its destructor.  A call uses the handle that the object has, or
creates one, or gives the one it has away.
-/

namespace MDK

open StepSystem

inductive DatabaseEvent where
  | connect (type : EDatabaseType) (arguments : ConnectArguments)
      (answers : ConnectAnswers)
  | disconnect
  | isConnected (alive : Bool)
  | mdkOnlyRunQuery (sql : List UInt8) (answers : RunAnswers)
  | executeQuery (resultSet : CResultSet) (sql : List UInt8)
      (client : ClientAnswers)
  | destroy

inductive DatabaseStop where
  | destroyed
  deriving DecidableEq, Repr

namespace DatabaseSession

def step (build : Build) (session : DatabaseSession) (event : DatabaseEvent) :
    Except DatabaseStop DatabaseSession :=
  if session.destroyed then .error .destroyed
  else
    match event with
    | .connect type arguments answers =>
        .ok (session.connect build type arguments answers).2
    | .disconnect => .ok (session.disconnect build)
    | .isConnected alive => .ok (session.isConnected alive).2
    | .mdkOnlyRunQuery sql answers =>
        .ok (session.mdkOnlyRunQuery build sql answers).2
    | .executeQuery resultSet sql client =>
        .ok (session.executeQuery build resultSet sql client).2
    | .destroy => .ok (session.destroy build)

/-! ## Handles and their backends -/

/-- The backend that created the handle of this name. -/
def backendOf (session : DatabaseSession) (name : ℕ) : Option EDatabaseType :=
  (session.handles.get? name).map DatabaseHandle.backend

@[simp] theorem backendOf_log
    (session : DatabaseSession) (calls : List DatabaseCall) (name : ℕ) :
    (session.log calls).backendOf name = session.backendOf name := rfl

theorem log_log (session : DatabaseSession) (first second : List DatabaseCall) :
    (session.log first).log second = session.log (first ++ second) := by
  simp [log]

@[simp] theorem db_realConnect (session : DatabaseSession) (connected : Bool) :
    (session.realConnect connected).db = session.db := by
  unfold realConnect
  cases session.db.pointedDb with
  | none => simp
  | some name => simp

@[simp] theorem calls_realConnect
    (session : DatabaseSession) (connected : Bool) :
    (session.realConnect connected).calls = session.calls := by
  unfold realConnect
  cases session.db.pointedDb with
  | none => simp
  | some name => simp

@[simp] theorem backendOf_realConnect
    (session : DatabaseSession) (connected : Bool) (name : ℕ) :
    (session.realConnect connected).backendOf name = session.backendOf name := by
  unfold realConnect
  cases session.db.pointedDb with
  | none => simp
  | some pointed =>
      simp only [backendOf, Arena.get?_modify]
      by_cases heq : name = pointed
      · rw [if_pos heq, Option.map_map]
        congr 1
      · rw [if_neg heq]

theorem backendOf_create_none (session : DatabaseSession) (name : ℕ) :
    (session.create none).backendOf name = session.backendOf name := rfl

theorem backendOf_create_some
    (session : DatabaseSession) (handle : DatabaseHandle) (name : ℕ) :
    (session.create (some handle)).backendOf name =
      if name = session.handles.fresh then some handle.backend
      else session.backendOf name := by
  simp only [create, backendOf, setPointer, Arena.get?_alloc]
  by_cases heq : name = session.handles.fresh
  · simp [heq]
  · simp [heq]

@[simp] theorem backendOf_fresh (session : DatabaseSession) :
    session.backendOf session.handles.fresh = none := by
  simp [backendOf]

end DatabaseSession

/-! ## What a step can do -/

/-- The calls are made on one pointer with functions of one backend, and close
nothing. -/
structure AppliedOnly (type : EDatabaseType) (pointer : DatabasePointer)
    (calls : List DatabaseCall) : Prop where
  applied : ∀ call ∈ calls,
    call.appliedTo = none ∨ call.appliedTo = some (type, pointer)
  closes : ∀ call ∈ calls, call.closes = none

theorem appliedOnly_nil (type : EDatabaseType) (pointer : DatabasePointer) :
    AppliedOnly type pointer [] := ⟨by simp, by simp⟩

theorem AppliedOnly.eq_of_appliedTo
    {type backend : EDatabaseType} {pointer target : DatabasePointer}
    {calls : List DatabaseCall} (hcalls : AppliedOnly type pointer calls)
    {call : DatabaseCall} (hmem : call ∈ calls)
    (happlied : call.appliedTo = some (backend, target)) :
    type = backend ∧ pointer = target := by
  obtain hnone | hsome := hcalls.applied call hmem
  · rw [hnone] at happlied
    contradiction
  · rw [hsome] at happlied
    exact Prod.mk.inj (Option.some.inj happlied)

theorem DatabaseCall.closesName_eq_some_iff
    {call : DatabaseCall} {name : ℕ} :
    call.closesName = some name ↔ ∃ type, call.closes = some (type, name) := by
  unfold DatabaseCall.closesName
  cases call.closes with
  | none => simp
  | some closed => simp [Prod.ext_iff]

namespace DatabaseSession

/-- The object keeps its pointer, whatever it calls. -/
structure Uses (session : DatabaseSession) (type : EDatabaseType)
    (added : List DatabaseCall) (next : DatabaseSession) : Prop where
  databaseType : next.db.databaseType = type
  pointedDb : next.db.pointedDb = session.db.pointedDb
  backendOf : ∀ name, next.backendOf name = session.backendOf name
  calls : next.calls = session.calls ++ added
  appliedOnly : AppliedOnly type session.db.pointedDb added

/-- A library is asked for a handle, and the pointer is set to what it made. -/
structure Creates (session : DatabaseSession) (type : EDatabaseType)
    (made : Bool) (added : List DatabaseCall) (next : DatabaseSession) :
    Prop where
  databaseType : next.db.databaseType = type
  pointedDb : next.db.pointedDb =
    if made then some session.handles.fresh else none
  backendOf : ∀ name, next.backendOf name =
    if made = true ∧ name = session.handles.fresh then some type
    else session.backendOf name
  calls : next.calls = session.calls ++ added
  appliedOnly : AppliedOnly type next.db.pointedDb added
  askedNull : made = false →
    ∃ call ∈ added, call.appliedTo = some (type, none)

/-- The call that closes the handle, if the type of the object has a branch. -/
def closeCalls (session : DatabaseSession) (build : Build) :
    List DatabaseCall :=
  if session.db.pointedDb = none then []
  else
    match session.db.engine build with
    | some .mariadb => [.mysqlClose session.db.pointedDb]
    | some .sqlite => [.sqliteClose session.db.pointedDb]
    | none => []

structure Releases (session : DatabaseSession) (build : Build)
    (next : DatabaseSession) : Prop where
  databaseType : next.db.databaseType = session.db.databaseType
  pointedDb : next.db.pointedDb = none
  backendOf : ∀ name, next.backendOf name = session.backendOf name
  calls : next.calls = session.calls ++ session.closeCalls build

end DatabaseSession

/-- An event that only asks the object. -/
def DatabaseEvent.asks : DatabaseEvent → Bool
  | .isConnected _ => true
  | .mdkOnlyRunQuery _ _ => true
  | .executeQuery _ _ _ => true
  | _ => false

def DatabaseEvent.releases : DatabaseEvent → Bool
  | .disconnect => true
  | .destroy => true
  | _ => false

/-- `ExecuteQuery` is the one function that does not look at the pointer. -/
def DatabaseEvent.ignoresPointer : DatabaseEvent → Bool
  | .executeQuery _ _ _ => true
  | _ => false

inductive DatabaseSession.Steps (build : Build) (session : DatabaseSession) :
    DatabaseEvent → DatabaseSession → Prop where
  | reconnects {arguments : ConnectArguments} {answers : ConnectAnswers}
      {added : List DatabaseCall} {next : DatabaseSession}
      (hpointer : session.db.pointedDb ≠ none)
      (huses : session.Uses .mariadb added next) :
      Steps build session (.connect .mariadb arguments answers) next
  | inits {arguments : ConnectArguments} {answers : ConnectAnswers}
      {added : List DatabaseCall} {next : DatabaseSession}
      (hpointer : session.db.pointedDb = none)
      (hcreates : session.Creates .mariadb answers.init added next) :
      Steps build session (.connect .mariadb arguments answers) next
  | opens {arguments : ConnectArguments} {answers : ConnectAnswers}
      {added : List DatabaseCall} {next : DatabaseSession}
      (hbuild : build.hasSqlite = true)
      (hcreates : session.Creates .sqlite answers.stored added next) :
      Steps build session (.connect .sqlite arguments answers) next
  | skips {arguments : ConnectArguments} {answers : ConnectAnswers}
      {next : DatabaseSession} (hbuild : build.hasSqlite = false)
      (huses : session.Uses .sqlite [] next) :
      Steps build session (.connect .sqlite arguments answers) next
  | asks {event : DatabaseEvent} {added : List DatabaseCall}
      {next : DatabaseSession} (hasks : event.asks = true)
      (huses : session.Uses session.db.databaseType added next)
      (hnull : session.db.pointedDb = none →
        ((∃ call ∈ added, call.appliedTo ≠ none) ↔
          event.ignoresPointer = true ∧ session.db.engine build ≠ none)) :
      Steps build session event next
  | releases {event : DatabaseEvent} {next : DatabaseSession}
      (hevent : event.releases = true) (hreleases : session.Releases build next) :
      Steps build session event next

/-! ## Every step is one of these -/

theorem AppliedOnly.of_onHandle
    {type : EDatabaseType} {pointer : DatabasePointer} {calls : List ClientCall}
    (hcalls : OnHandle type pointer calls) :
    AppliedOnly type pointer (calls.map .query) where
  applied call hmem := by
    obtain ⟨client, hclient, rfl⟩ := List.mem_map.mp hmem
    exact hcalls client hclient
  closes call hmem := by
    obtain ⟨client, _, rfl⟩ := List.mem_map.mp hmem
    rfl

namespace DatabaseSession

theorem log_uses
    (session : DatabaseSession) {type : EDatabaseType}
    (htype : session.db.databaseType = type) {calls : List DatabaseCall}
    (hcalls : AppliedOnly type session.db.pointedDb calls) :
    session.Uses type calls (session.log calls) where
  databaseType := htype
  pointedDb := rfl
  backendOf _ := rfl
  calls := rfl
  appliedOnly := hcalls

theorem self_uses
    {session : DatabaseSession} {type : EDatabaseType}
    (htype : session.db.databaseType = type) : session.Uses type [] session where
  databaseType := htype
  pointedDb := rfl
  backendOf _ := rfl
  calls := (List.append_nil _).symm
  appliedOnly := appliedOnly_nil _ _

def mysqlConnectCalls (pointer : DatabasePointer) (arguments : ConnectArguments)
    (answers : ConnectAnswers) : List DatabaseCall :=
  let overTcp : Bool := arguments.port > 0
  [.mysqlOptions pointer
      (if overTcp then mysqlProtocolTcp else mysqlProtocolSocket),
    .mysqlRealConnect pointer (if overTcp then arguments.host else none)
      arguments.username arguments.password arguments.databaseName
      arguments.port (if overTcp then none else arguments.host)
      answers.realConnect] ++
  if answers.realConnect then [] else [.query (.mysqlError pointer)]

theorem mysqlConnectCalls_appliedOnly
    (pointer : DatabasePointer) (arguments : ConnectArguments)
    (answers : ConnectAnswers) :
    AppliedOnly .mariadb pointer
      (mysqlConnectCalls pointer arguments answers) := by
  unfold mysqlConnectCalls
  constructor
  · cases answers.realConnect with
    | false => simp [DatabaseCall.appliedTo, ClientCall.appliedTo]
    | true => simp [DatabaseCall.appliedTo]
  · cases answers.realConnect with
    | false => simp [DatabaseCall.closes]
    | true => simp [DatabaseCall.closes]

theorem mysqlConnectCalls_applied
    (pointer : DatabasePointer) (arguments : ConnectArguments)
    (answers : ConnectAnswers) :
    ∃ call ∈ mysqlConnectCalls pointer arguments answers,
      call.appliedTo = some (.mariadb, pointer) := by
  unfold mysqlConnectCalls
  simp [DatabaseCall.appliedTo]

theorem mysqlConnect_eq
    (session : DatabaseSession) (arguments : ConnectArguments)
    (answers : ConnectAnswers) :
    session.mysqlConnect arguments answers =
      (answers.realConnect,
        ((session.setProtocol
            (if arguments.port > 0 then mysqlProtocolTcp
              else mysqlProtocolSocket)).log
          (mysqlConnectCalls session.db.pointedDb arguments
            answers)).realConnect answers.realConnect) := by
  unfold mysqlConnect mysqlConnectCalls realConnect log setProtocol
  cases answers.realConnect with
  | false =>
      cases hpointer : session.db.pointedDb with
      | none => simp [hpointer]
      | some name => simp [hpointer]
  | true => simp

theorem mysqlConnect_uses
    (session : DatabaseSession) (htype : session.db.databaseType = .mariadb)
    (arguments : ConnectArguments) (answers : ConnectAnswers) :
    session.Uses .mariadb
      (mysqlConnectCalls session.db.pointedDb arguments answers)
      (session.mysqlConnect arguments answers).2 := by
  rw [mysqlConnect_eq]
  constructor
  · rw [db_realConnect]
    exact htype
  · rw [db_realConnect]
    rfl
  · intro name
    rw [backendOf_realConnect]
    rfl
  · rw [calls_realConnect]
    rfl
  · exact mysqlConnectCalls_appliedOnly _ _ _

@[simp] theorem create_pointedDb
    (session : DatabaseSession) (made : Bool) (handle : DatabaseHandle) :
    (session.create (if made then some handle else none)).db.pointedDb =
      if made then some session.handles.fresh else none := by
  cases made with
  | false => simp [create, setPointer]
  | true => simp [create, setPointer]

/-- A library made a handle, or failed to, and was then called on the result. -/
theorem creates_of_uses
    {session next : DatabaseSession} {type : EDatabaseType} {made : Bool}
    {first second : List DatabaseCall} (handle : DatabaseHandle)
    (hbackend : handle.backend = type)
    (hfirst : ∀ pointer, AppliedOnly type pointer first)
    (huses : ((session.create
      (if made then some handle else none)).log first).Uses type second next)
    (hnull : made = false → ∃ call ∈ second, call.appliedTo = some (type, none)) :
    session.Creates type made (first ++ second) next where
  databaseType := huses.databaseType
  pointedDb := by
    rw [huses.pointedDb]
    exact create_pointedDb session made handle
  backendOf name := by
    rw [huses.backendOf, backendOf_log]
    cases made with
    | false => simp [backendOf_create_none]
    | true => simp [backendOf_create_some, hbackend]
  calls := by
    rw [huses.calls, ← List.append_assoc]
    cases made with
    | false => rfl
    | true => rfl
  appliedOnly := by
    have hsecond := huses.appliedOnly
    rw [← huses.pointedDb] at hsecond
    constructor
    · intro call hmem
      obtain hmem | hmem := List.mem_append.mp hmem
      · exact (hfirst next.db.pointedDb).applied call hmem
      · exact hsecond.applied call hmem
    · intro call hmem
      obtain hmem | hmem := List.mem_append.mp hmem
      · exact (hfirst none).closes call hmem
      · exact hsecond.closes call hmem
  askedNull hmade := by
    obtain ⟨call, hmem, happlied⟩ := hnull hmade
    exact ⟨call, List.mem_append_right first hmem, happlied⟩

@[simp] theorem mysqlInit_databaseType (session : DatabaseSession) (made : Bool) :
    (session.mysqlInit made).db.databaseType = session.db.databaseType := by
  cases made with
  | false => rfl
  | true => rfl

theorem mysqlInit_creates
    {session : DatabaseSession} (htype : session.db.databaseType = .mariadb)
    (arguments : ConnectArguments) (answers : ConnectAnswers) :
    ∃ added, session.Creates .mariadb answers.init added
      ((session.mysqlInit answers.init).mysqlConnect arguments answers).2 := by
  have hinitType := (session.mysqlInit_databaseType answers.init).trans htype
  refine ⟨_, creates_of_uses ⟨.mariadb, false⟩ rfl ?_
    (mysqlConnect_uses _ hinitType arguments answers) ?_⟩
  · intro pointer
    constructor
    · simp [DatabaseCall.appliedTo]
    · simp [DatabaseCall.closes]
  · intro hmade
    have hpointer : (session.mysqlInit answers.init).db.pointedDb = none := by
      rw [hmade]
      rfl
    rw [hpointer]
    exact mysqlConnectCalls_applied none arguments answers

@[simp] theorem create_databaseType
    (session : DatabaseSession) (handle : Option DatabaseHandle) :
    (session.create handle).db.databaseType = session.db.databaseType := by
  cases handle with
  | none => rfl
  | some handle => rfl

def sqliteErrmsgCalls (pointer : DatabasePointer) (answers : ConnectAnswers) :
    List DatabaseCall :=
  if answers.openResult = sqliteOk then [] else [.query (.sqliteErrmsg pointer)]

theorem sqliteErrmsgCalls_appliedOnly
    (pointer : DatabasePointer) (answers : ConnectAnswers) :
    AppliedOnly .sqlite pointer (sqliteErrmsgCalls pointer answers) := by
  unfold sqliteErrmsgCalls
  split_ifs
  · exact appliedOnly_nil _ _
  · constructor
    · simp [DatabaseCall.appliedTo, ClientCall.appliedTo]
    · simp [DatabaseCall.closes]

def sqliteHandle (answers : ConnectAnswers) : DatabaseHandle :=
  ⟨.sqlite, answers.openResult = sqliteOk⟩

theorem connectSqlite_eq
    (session : DatabaseSession) (arguments : ConnectArguments)
    (answers : ConnectAnswers) :
    let opened := session.create
      (if answers.stored then some (sqliteHandle answers) else none)
    session.connectSqlite arguments answers =
      (decide (answers.openResult = sqliteOk),
        (opened.log [.sqliteOpen arguments.databaseName opened.db.pointedDb
          answers.openResult]).log
            (sqliteErrmsgCalls opened.db.pointedDb answers)) := by
  unfold connectSqlite sqliteErrmsgCalls sqliteHandle
  by_cases hresult : answers.openResult = sqliteOk
  · simp [hresult, log]
  · simp [hresult, log]

theorem connectSqlite_creates
    {session : DatabaseSession} (htype : session.db.databaseType = .sqlite)
    (arguments : ConnectArguments) (answers : ConnectAnswers) :
    ∃ added, session.Creates .sqlite answers.stored added
      (session.connectSqlite arguments answers).2 := by
  have hopened := (session.create_databaseType
    (if answers.stored then some (sqliteHandle answers) else none)).trans htype
  rw [connectSqlite_eq]
  refine ⟨_, creates_of_uses (sqliteHandle answers) rfl ?_
    (log_uses (log _ _) hopened (sqliteErrmsgCalls_appliedOnly _ answers)) ?_⟩
  · intro pointer
    constructor
    · simp [DatabaseCall.appliedTo]
    · simp [DatabaseCall.closes]
  · intro hmade
    have hfailed : answers.openResult ≠ sqliteOk := by
      intro hresult
      have hstored := answers.stored_of_open hresult
      rw [hmade] at hstored
      contradiction
    rw [create_pointedDb, hmade]
    simp [sqliteErrmsgCalls, hfailed, DatabaseCall.appliedTo,
      ClientCall.appliedTo]

/-! ### The other functions -/

theorem disconnect_eq (session : DatabaseSession) (build : Build) :
    session.disconnect build =
      (session.log (session.closeCalls build)).setPointer none := by
  unfold disconnect closeCalls
  by_cases hpointer : session.db.pointedDb = none
  · simp [hpointer, log]
  · simp only [hpointer, if_false]
    cases session.db.engine build with
    | none => simp [log]
    | some type =>
        cases type with
        | mariadb => rfl
        | sqlite => rfl

theorem disconnect_releases (session : DatabaseSession) (build : Build) :
    session.Releases build (session.disconnect build) := by
  rw [disconnect_eq]
  constructor
  · rfl
  · rfl
  · intro _
    rfl
  · rfl

theorem destroy_releases (session : DatabaseSession) (build : Build) :
    session.Releases build (session.destroy build) := by
  have hreleases := session.disconnect_releases build
  exact ⟨hreleases.databaseType, hreleases.pointedDb, hreleases.backendOf,
    hreleases.calls⟩

theorem Uses.of_setType
    {session next : DatabaseSession} {type : EDatabaseType}
    {added : List DatabaseCall}
    (huses : (session.setType type).Uses type added next) :
    session.Uses type added next :=
  ⟨huses.databaseType, huses.pointedDb, huses.backendOf, huses.calls,
    huses.appliedOnly⟩

theorem Creates.of_setType
    {session next : DatabaseSession} {type : EDatabaseType} {made : Bool}
    {added : List DatabaseCall}
    (hcreates : (session.setType type).Creates type made added next) :
    session.Creates type made added next :=
  ⟨hcreates.databaseType, hcreates.pointedDb, hcreates.backendOf,
    hcreates.calls, hcreates.appliedOnly, hcreates.askedNull⟩

theorem isConnected_uses (session : DatabaseSession) (alive : Bool) :
    ∃ added, session.Uses session.db.databaseType added
        (session.isConnected alive).2 ∧
      (session.db.pointedDb = none → added = []) := by
  unfold isConnected
  by_cases hpointer : session.db.pointedDb = none
  · simp only [hpointer, if_true]
    exact ⟨[], self_uses rfl, fun _ => rfl⟩
  · simp only [hpointer, if_false]
    cases htype : session.db.databaseType with
    | mariadb =>
        refine ⟨_, session.log_uses htype ?_, fun hnone => hnone.elim⟩
        constructor
        · simp [DatabaseCall.appliedTo]
        · simp [DatabaseCall.closes]
    | sqlite => exact ⟨[], self_uses htype, fun _ => rfl⟩

theorem mdkOnlyRunQuery_uses
    (session : DatabaseSession) (build : Build) (sql : List UInt8)
    (answers : RunAnswers) :
    ∃ added, session.Uses session.db.databaseType added
        (session.mdkOnlyRunQuery build sql answers).2 ∧
      (session.db.pointedDb = none → added = []) := by
  unfold mdkOnlyRunQuery
  by_cases hpointer : session.db.pointedDb = none
  · simp only [hpointer, if_true]
    exact ⟨[], self_uses rfl, fun _ => rfl⟩
  · simp only [hpointer, if_false]
    cases hengine : session.db.engine build with
    | none => exact ⟨[], self_uses rfl, fun _ => rfl⟩
    | some type =>
        have htype := session.db.engine_eq_some hengine
        rw [htype]
        cases type with
        | mariadb =>
            by_cases hquery : answers.query = 0
            · simp only [hquery, ne_eq, not_true_eq_false, if_false]
              refine ⟨_, session.log_uses htype ?_, fun hnone => hnone.elim⟩
              constructor
              · simp [DatabaseCall.appliedTo, ClientCall.appliedTo]
              · simp [DatabaseCall.closes]
            · simp only [hquery, ne_eq, not_false_eq_true, if_true, log_log]
              refine ⟨_, session.log_uses htype ?_, fun hnone => hnone.elim⟩
              constructor
              · simp [DatabaseCall.appliedTo, ClientCall.appliedTo]
              · simp [DatabaseCall.closes]
        | sqlite =>
            refine ⟨_, session.log_uses htype ?_, fun hnone => hnone.elim⟩
            constructor
            · simp [DatabaseCall.appliedTo]
            · simp [DatabaseCall.closes]

theorem executeQuery_uses
    (session : DatabaseSession) (build : Build) (resultSet : CResultSet)
    (sql : List UInt8) (client : ClientAnswers) :
    ∃ added, session.Uses session.db.databaseType added
        (session.executeQuery build resultSet sql client).2 ∧
      ((∃ call ∈ added, call.appliedTo ≠ none) ↔
        session.db.engine build ≠ none) := by
  refine ⟨_, session.log_uses rfl (.of_onHandle
    (executeQuery_onHandle resultSet build session.db sql client)), ?_⟩
  rw [← executeQuery_asks_iff resultSet build session.db sql client]
  constructor
  · rintro ⟨call, hmem, happlied⟩
    obtain ⟨asked, hasked, rfl⟩ := List.mem_map.mp hmem
    exact ⟨asked, hasked, happlied⟩
  · rintro ⟨asked, hasked, happlied⟩
    exact ⟨.query asked, List.mem_map_of_mem hasked, happlied⟩

theorem asks_of_quiet
    {build : Build} {session next : DatabaseSession} {event : DatabaseEvent}
    {added : List DatabaseCall} (hasks : event.asks = true)
    (hlooks : event.ignoresPointer = false)
    (huses : session.Uses session.db.databaseType added next)
    (hquiet : session.db.pointedDb = none → added = []) :
    session.Steps build event next := by
  apply Steps.asks hasks huses
  intro hpointer
  rw [hquiet hpointer, hlooks]
  simp

theorem connect_steps
    (build : Build) (session : DatabaseSession) (type : EDatabaseType)
    (arguments : ConnectArguments) (answers : ConnectAnswers) :
    session.Steps build (.connect type arguments answers)
      (session.connect build type arguments answers).2 := by
  cases type with
  | mariadb =>
      have htype : (session.setType .mariadb).db.databaseType = .mariadb := rfl
      simp only [connect, CDatabase.engine_of_mariadb htype, connectMariaDB]
      by_cases hpointer : session.db.pointedDb = none
      · have hnone : (session.setType .mariadb).db.pointedDb = none := hpointer
        rw [if_pos hnone]
        obtain ⟨added, hcreates⟩ := mysqlInit_creates htype arguments answers
        exact .inits hpointer (.of_setType hcreates)
      · have hsome : (session.setType .mariadb).db.pointedDb ≠ none := hpointer
        rw [if_neg hsome]
        have huses := mysqlConnect_uses _ htype arguments answers
        exact .reconnects hpointer (.of_setType huses)
  | sqlite =>
      have htype : (session.setType .sqlite).db.databaseType = .sqlite := rfl
      simp only [connect, CDatabase.engine_of_sqlite htype]
      cases hbuild : build.hasSqlite with
      | false =>
          simp only [Bool.false_eq_true, if_false]
          exact .skips hbuild (.of_setType (self_uses htype))
      | true =>
          simp only [if_true]
          obtain ⟨added, hcreates⟩ :=
            connectSqlite_creates htype arguments answers
          exact .opens hbuild (.of_setType hcreates)

theorem steps_of_step
    {build : Build} {session next : DatabaseSession} {event : DatabaseEvent}
    (hstep : session.step build event = .ok next) :
    session.Steps build event next := by
  unfold step at hstep
  split_ifs at hstep with hdestroyed
  cases event with
  | connect type arguments answers =>
      cases hstep
      exact connect_steps build session type arguments answers
  | disconnect =>
      cases hstep
      exact .releases rfl (session.disconnect_releases build)
  | isConnected alive =>
      cases hstep
      obtain ⟨added, huses, hquiet⟩ := session.isConnected_uses alive
      exact asks_of_quiet rfl rfl huses hquiet
  | mdkOnlyRunQuery sql answers =>
      cases hstep
      obtain ⟨added, huses, hquiet⟩ :=
        session.mdkOnlyRunQuery_uses build sql answers
      exact asks_of_quiet rfl rfl huses hquiet
  | executeQuery resultSet sql client =>
      cases hstep
      obtain ⟨added, huses, hasked⟩ :=
        session.executeQuery_uses build resultSet sql client
      apply Steps.asks rfl huses
      intro _
      rw [hasked]
      simp [DatabaseEvent.ignoresPointer]
  | destroy =>
      cases hstep
      exact .releases rfl (session.destroy_releases build)

/-! ## Along a history -/

theorem closeCalls_of_none
    {session : DatabaseSession} (build : Build)
    (hnone : session.db.pointedDb = none ∨ session.db.engine build = none) :
    session.closeCalls build = [] := by
  unfold closeCalls
  by_cases hpointer : session.db.pointedDb = none
  · simp [hpointer]
  · simp [hpointer, hnone.resolve_left hpointer]

theorem closeCalls_of_some
    {build : Build} {session : DatabaseSession} {type : EDatabaseType} {name : ℕ}
    (hpointer : session.db.pointedDb = some name)
    (hengine : session.db.engine build = some type) :
    ∃ call, session.closeCalls build = [call] ∧
      call.closes = some (type, name) ∧
      call.appliedTo = some (type, some name) := by
  unfold closeCalls
  cases type with
  | mariadb =>
      refine ⟨.mysqlClose (some name), ?_, rfl, rfl⟩
      simp [hpointer, hengine]
  | sqlite =>
      refine ⟨.sqliteClose (some name), ?_, rfl, rfl⟩
      simp [hpointer, hengine]

theorem mem_closeCalls
    {build : Build} {session : DatabaseSession} {call : DatabaseCall}
    (hmem : call ∈ session.closeCalls build) :
    ∃ type name, session.db.engine build = some type ∧
      session.db.pointedDb = some name ∧ call.closes = some (type, name) ∧
      call.appliedTo = some (type, some name) := by
  cases hpointer : session.db.pointedDb with
  | none => simp [closeCalls_of_none build (.inl hpointer)] at hmem
  | some name =>
      cases hengine : session.db.engine build with
      | none => simp [closeCalls_of_none build (.inr hengine)] at hmem
      | some type =>
          obtain ⟨close, hcalls, hcloses, happlied⟩ :=
            closeCalls_of_some hpointer hengine
          rw [hcalls, List.mem_singleton] at hmem
          subst hmem
          exact ⟨type, name, rfl, rfl, hcloses, happlied⟩

/-- The pointer leads to a handle, which nobody has closed, and only handles
were ever closed. -/
structure Valid (session : DatabaseSession) : Prop where
  pointed : ∀ name, session.db.pointedDb = some name →
    ∃ type, session.backendOf name = some type
  unclosed : ∀ name, session.db.pointedDb = some name →
    ∀ call ∈ session.calls, ∀ type, call.closes ≠ some (type, name)
  known : ∀ call ∈ session.calls, ∀ type name,
    call.closes = some (type, name) →
      ∃ created, session.backendOf name = some created

theorem Valid.closesName_ne_pointed
    {session : DatabaseSession} (hvalid : session.Valid) {name : ℕ}
    (hpointer : session.db.pointedDb = some name) :
    ∀ call ∈ session.calls, call.closesName ≠ some name := by
  intro call hmem hcloses
  obtain ⟨type, htype⟩ := DatabaseCall.closesName_eq_some_iff.mp hcloses
  exact hvalid.unclosed name hpointer call hmem type htype

theorem new_valid : new.Valid where
  pointed name hpointer := by simp [new, CDatabase.new] at hpointer
  unclosed name hpointer := by simp [new, CDatabase.new] at hpointer
  known call hmem := by simp [new] at hmem

theorem Uses.valid
    {session next : DatabaseSession} {type : EDatabaseType}
    {added : List DatabaseCall} (huses : session.Uses type added next)
    (hvalid : session.Valid) : next.Valid where
  pointed name hpointer := by
    rw [huses.backendOf]
    exact hvalid.pointed name (huses.pointedDb ▸ hpointer)
  unclosed name hpointer call hmem closer := by
    rw [huses.calls, List.mem_append] at hmem
    obtain hmem | hmem := hmem
    · exact hvalid.unclosed name (huses.pointedDb ▸ hpointer) call hmem closer
    · simp [huses.appliedOnly.closes call hmem]
  known call hmem closer name hcloses := by
    rw [huses.calls, List.mem_append] at hmem
    rw [huses.backendOf]
    obtain hmem | hmem := hmem
    · exact hvalid.known call hmem closer name hcloses
    · simp [huses.appliedOnly.closes call hmem] at hcloses

theorem Creates.backendOf_of_known
    {session next : DatabaseSession} {type created : EDatabaseType} {made : Bool}
    {added : List DatabaseCall} (hcreates : session.Creates type made added next)
    {name : ℕ} (hknown : session.backendOf name = some created) :
    next.backendOf name = some created := by
  rw [hcreates.backendOf, if_neg, hknown]
  rintro ⟨_, hfresh⟩
  rw [hfresh, backendOf_fresh] at hknown
  contradiction

theorem Creates.valid
    {session next : DatabaseSession} {type : EDatabaseType} {made : Bool}
    {added : List DatabaseCall} (hcreates : session.Creates type made added next)
    (hvalid : session.Valid) : next.Valid where
  pointed name hpointer := by
    rw [hcreates.pointedDb] at hpointer
    split_ifs at hpointer with hmade
    have hname : session.handles.fresh = name := by simpa using hpointer
    exact ⟨type, by rw [hcreates.backendOf, if_pos ⟨hmade, hname.symm⟩]⟩
  unclosed name hpointer call hmem closer hcloses := by
    rw [hcreates.calls, List.mem_append] at hmem
    obtain hmem | hmem := hmem
    · obtain ⟨created, hcreated⟩ := hvalid.known call hmem closer name hcloses
      rw [hcreates.pointedDb] at hpointer
      split_ifs at hpointer
      have hname : session.handles.fresh = name := by simpa using hpointer
      rw [← hname, backendOf_fresh] at hcreated
      contradiction
    · simp [hcreates.appliedOnly.closes call hmem] at hcloses
  known call hmem closer name hcloses := by
    rw [hcreates.calls, List.mem_append] at hmem
    obtain hmem | hmem := hmem
    · obtain ⟨created, hcreated⟩ := hvalid.known call hmem closer name hcloses
      exact ⟨created, hcreates.backendOf_of_known hcreated⟩
    · simp [hcreates.appliedOnly.closes call hmem] at hcloses

theorem Releases.valid
    {build : Build} {session next : DatabaseSession}
    (hreleases : session.Releases build next) (hvalid : session.Valid) :
    next.Valid where
  pointed name hpointer := by simp [hreleases.pointedDb] at hpointer
  unclosed name hpointer := by simp [hreleases.pointedDb] at hpointer
  known call hmem closer name hcloses := by
    rw [hreleases.calls, List.mem_append] at hmem
    rw [hreleases.backendOf]
    obtain hmem | hmem := hmem
    · exact hvalid.known call hmem closer name hcloses
    · obtain ⟨_, pointed, _, hpointer, hclosed, _⟩ := mem_closeCalls hmem
      rw [hclosed] at hcloses
      cases hcloses
      exact hvalid.pointed name hpointer

theorem Steps.valid
    {build : Build} {session next : DatabaseSession} {event : DatabaseEvent}
    (hsteps : session.Steps build event next) (hvalid : session.Valid) :
    next.Valid := by
  cases hsteps with
  | reconnects _ huses => exact huses.valid hvalid
  | inits _ hcreates => exact hcreates.valid hvalid
  | opens _ hcreates => exact hcreates.valid hvalid
  | skips _ huses => exact huses.valid hvalid
  | asks _ huses _ => exact huses.valid hvalid
  | releases _ hreleases => exact hreleases.valid hvalid

theorem step_preserves_valid (build : Build) (allowed : DatabaseEvent → Prop) :
    Preserves (step build) allowed Valid :=
  fun _ _ _ hvalid _ hstep => (steps_of_step hstep).valid hvalid

end DatabaseSession

end MDK
