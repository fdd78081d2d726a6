import MDK.BindSteps
import MDK.ServerLifetime

/-!
# The thread server

`CThreadServer` with its worker threads and its caller.  `Start` creates a
worker, which runs `Execute`; `Stop` closes what `m_socket` points to and joins
the worker.  Every access to a member that both sides touch is one step, and the
steps of the caller and of the workers come in any order.
-/

namespace MDK

/-- The width of `unsigned long`, which is at least that of `int`. -/
structure ULong where
  bits : ℕ
  wide : 32 ≤ bits

def ULong.lp64 : ULong := ⟨64, Nat.le_add_right 32 32⟩

/-- The conversion of an `int`. -/
def ULong.ofInt (long : ULong) (value : BitVec 32) : BitVec long.bits :=
  value.signExtend long.bits

inductive EErrorCodes where
  | none
  | unknown
  | bindError
  | databaseError
  | configurationError
  | stillAlive
  deriving DecidableEq, Repr

def EErrorCodes.value (long : ULong) : EErrorCodes → BitVec long.bits
  | .none => 0
  | .unknown => 1
  | .bindError => 2
  | .databaseError => 3
  | .configurationError => 4
  | .stillAlive => BitVec.allOnes long.bits

abbrev ModuleConfigMap := List (List UInt8 × List UInt8)

/-- What a worker is about to do.  Between `bindHandle` and `storeSocket` its
handle is its own. -/
inductive WorkerPhase where
  | callInitialize
  | testExitCode
  | enterBind
  | bindHandle (ip : Option ℕ) (port : ℤ)
  | storeSocket (handle : ℕ)
  | storeBindError
  | storeStillAlive
  | serving
  | storeResult (result : Bool)
  | returned
  deriving DecidableEq, Repr

/-- A worker with its `uv_thread_t`. -/
structure Worker where
  phase : WorkerPhase
  joined : ℕ
  freed : ℕ
  deriving DecidableEq, Repr

/-- What the caller is about to do; `idle` outside of `Start` and `Stop`. -/
inductive CallerPhase where
  | idle
  | storeThread (thread : ℕ)
  | testSockType
  | recvStop
  | close
  | uvStop
  | join
  | freeThread
  deriving DecidableEq, Repr

/-- An access to `m_socket`, with `m_sockType` and the handle behind the pointer
at that moment. -/
inductive SocketCall where
  | stored (handle : ℕ)
  | uvUdpRecvStop (sockType : ESocketType) (target : Option Handle)
  | uvClose (sockType : ESocketType) (target : Option Handle)
  deriving DecidableEq, Repr

/-- The object is the first of its world.  The caller's strings are `buffers`,
which `m_ip` points into; `stopFlag` is that of the loop. -/
structure ThreadServer (long : ULong) where
  world : World
  lpThread : Option ℕ
  exitCode : BitVec long.bits
  lpDatabase : Pointer
  cfg : ModuleConfigMap
  defaultPort : ℤ
  ip : Option ℕ
  port : ℤ
  udp : Bool
  buffers : Arena (List UInt8)
  workers : Arena Worker
  caller : CallerPhase
  destroying : Bool
  stopFlag : Bool
  calls : List SocketCall

/-- What a step of a worker is answered: by `Initialize`, by libuv during
`Bind`, and by `uv_run`, which returns 0 or 1. -/
structure WorkerAnswers where
  code : BitVec 32
  bind : BindAnswers
  run : Bool

def WorkerAnswers.success : WorkerAnswers := ⟨0, .success ⟨0, 0⟩, false⟩

inductive ThreadEvent where
  | start (ip : ℕ) (port : ℤ) (db : Pointer) (cfg : ModuleConfigMap)
      (create : ℤ)
  | stop
  | destroy
  | caller
  | worker (name : ℕ) (answers : WorkerAnswers)
  | closeCallback (handle : ℕ)
  | allocBuffer (bytes : List UInt8)
  | writeBuffer (buffer : ℕ) (bytes : List UInt8)

def ThreadEvent.isWorker : ThreadEvent → Bool
  | .worker _ _ => true
  | _ => false

inductive ThreadStop where
  | notEnabled
  deriving DecidableEq, Repr

namespace ThreadServer

variable {long : ULong}

/-- `CThreadServer::CThreadServer`. -/
def new (long : ULong) (defaultPort : ℤ) (udp : Bool) : ThreadServer long where
  world := World.empty.construct
  lpThread := none
  exitCode := 0
  lpDatabase := none
  cfg := []
  defaultPort := defaultPort
  ip := none
  port := -1
  udp := udp
  buffers := .empty
  workers := .empty
  caller := .idle
  destroying := false
  stopFlag := false
  calls := []

def isRunning (server : ThreadServer long) : Bool :=
  server.exitCode = EErrorCodes.stillAlive.value long

def getExitCode (server : ThreadServer long) : BitVec long.bits :=
  server.exitCode

def this? (server : ThreadServer long) : Option CTemplateSocket :=
  server.world.sockets.get? 0

/-- The handle that `m_socket` points to. -/
def target (server : ThreadServer long) (this : CTemplateSocket) :
    Option Handle :=
  this.socket.bind server.world.handles.get?

def text (server : ThreadServer long) (ip : Option ℕ) : List UInt8 :=
  (ip.bind server.buffers.get?).getD []

def modifyWorker (server : ThreadServer long) (name : ℕ)
    (change : Worker → Worker) : ThreadServer long :=
  { server with workers := server.workers.modify name change }

def enter (server : ThreadServer long) (name : ℕ) (phase : WorkerPhase) :
    ThreadServer long :=
  server.modifyWorker name fun worker => { worker with phase := phase }

def storeExitCode (server : ThreadServer long) (code : BitVec long.bits) :
    ThreadServer long :=
  { server with exitCode := code }

/-! ## The caller -/

/-- What `Start` stores for the thread before there is one. -/
def prepare (server : ThreadServer long) (ip : ℕ) (port : ℤ) (db : Pointer)
    (cfg : ModuleConfigMap) : ThreadServer long :=
  { server with
    ip := some ip
    cfg := cfg
    lpDatabase := db
    port := if port < 0 then server.defaultPort else port }

def createThread (server : ThreadServer long) : ThreadServer long :=
  { server with
    workers := server.workers.alloc ⟨.callInitialize, 0, 0⟩
    caller := .storeThread server.workers.fresh }

/-- `Start` up to the store of `m_lpThread`. -/
def start (server : ThreadServer long) (ip : ℕ) (port : ℤ) (db : Pointer)
    (cfg : ModuleConfigMap) (create : ℤ) : ThreadServer long :=
  let server := server.prepare ip port db cfg
  if create ≠ 0 then server else server.createThread

def stop (server : ThreadServer long) : ThreadServer long :=
  match server.lpThread with
  | none => server
  | some _ => { server with caller := .testSockType }

/-- libuv changes the handle that `m_socket` points to. -/
def modifyTarget (world : World) (this : CTemplateSocket)
    (change : Handle → Handle) : World :=
  match this.socket with
  | none => world
  | some name =>
      { world with handles := world.handles.modify name change }

def recvStop (server : ThreadServer long) (this : CTemplateSocket) :
    ThreadServer long :=
  { server with
    world := modifyTarget server.world this fun handle =>
      { handle with receiving := false }
    calls := server.calls ++
      [.uvUdpRecvStop this.sockType (server.target this)] }

def close (server : ThreadServer long) (this : CTemplateSocket) :
    ThreadServer long :=
  { server with
    world := modifyTarget server.world this Handle.uvClose
    calls := server.calls ++ [.uvClose this.sockType (server.target this)] }

def callerStep (server : ThreadServer long) (this : CTemplateSocket) :
    Except ThreadStop (ThreadServer long) :=
  match server.caller with
  | .idle => .error .notEnabled
  | .storeThread thread =>
      .ok { server with lpThread := some thread, caller := .idle }
  | .testSockType =>
      .ok { server with
        caller := if this.sockType = .udp then .recvStop else .close }
  | .recvStop => .ok { server.recvStop this with caller := .close }
  | .close => .ok { server.close this with caller := .uvStop }
  | .uvStop => .ok { server with stopFlag := true, caller := .join }
  | .join =>
      match server.lpThread with
      | none => .error .notEnabled
      | some thread =>
          if ((server.workers.get? thread).map (·.phase)) = some .returned then
            .ok { server.modifyWorker thread fun worker =>
                { worker with joined := worker.joined + 1 } with
              caller := .freeThread }
          else .error .notEnabled
  | .freeThread =>
      match server.lpThread with
      | none => .error .notEnabled
      | some thread =>
          .ok { server.modifyWorker thread fun worker =>
              { worker with freed := worker.freed + 1 } with
            lpThread := none
            caller := .idle }

/-! ## The worker -/

/-- `Execute`, from one access of a shared member to the next. -/
def workerStep (server : ThreadServer long) (this : CTemplateSocket)
    (name : ℕ) (phase : WorkerPhase) (answers : WorkerAnswers) :
    Except ThreadStop (ThreadServer long) :=
  match phase with
  | .callInitialize =>
      .ok ((server.storeExitCode (long.ofInt answers.code)).enter name
        .testExitCode)
  | .testExitCode =>
      if server.exitCode ≠ EErrorCodes.none.value long then
        .ok (server.enter name .returned)
      else .ok (server.enter name .enterBind)
  | .enterBind =>
      .ok ({ server with
        world := server.world.storeSockType 0 server.udp }.enter name
          (.bindHandle server.ip server.port))
  | .bindHandle ip port =>
      let bound := server.world.listenHandle 0 this (server.text ip) port
        server.udp answers.bind
      .ok ({ server with world := bound.2 }.enter name
        (if bound.1 then .storeSocket server.world.handles.fresh
          else .storeBindError))
  | .storeSocket handle =>
      .ok ({ server with
        world := server.world.storeSocket 0 handle
        calls := server.calls ++ [SocketCall.stored handle] }.enter name .storeStillAlive)
  | .storeBindError =>
      .ok ((server.storeExitCode (EErrorCodes.bindError.value long)).enter name
        .returned)
  | .storeStillAlive =>
      .ok ((server.storeExitCode (EErrorCodes.stillAlive.value long)).enter name
        .serving)
  | .serving =>
      .ok ({ server with stopFlag := false }.enter name
        (.storeResult answers.run))
  | .storeResult result =>
      .ok ((server.storeExitCode (long.ofInt (if result then 1 else 0))).enter
        name .returned)
  | .returned => .error .notEnabled

/-! ## Both -/

def isServed (server : ThreadServer long) : Bool :=
  server.workers.objects.any (·.phase = .serving)

def isClosing (server : ThreadServer long) (name : ℕ) : Bool :=
  (server.world.handles.get? name).any (·.status = .closing)

def isIdle (server : ThreadServer long) : Bool :=
  server.caller = .idle && !server.destroying

/-- The caller does one thing after another, and nothing after the destructor;
close callbacks come from the loop of a serving worker. -/
def step (server : ThreadServer long) (event : ThreadEvent) :
    Except ThreadStop (ThreadServer long) :=
  match server.this? with
  | none => .error .notEnabled
  | some this =>
      match event with
      | .start ip port db cfg create =>
          if server.isIdle ∧ (server.buffers.get? ip).isSome then
            .ok (server.start ip port db cfg create)
          else .error .notEnabled
      | .stop =>
          if server.isIdle then .ok server.stop else .error .notEnabled
      | .destroy =>
          if server.isIdle then .ok { server.stop with destroying := true }
          else .error .notEnabled
      | .caller => server.callerStep this
      | .worker name answers =>
          match server.workers.get? name with
          | none => .error .notEnabled
          | some worker => server.workerStep this name worker.phase answers
      | .closeCallback handle =>
          if server.isServed ∧ server.isClosing handle then
            .ok { server with world := server.world.libuvCallbackOnClose handle }
          else .error .notEnabled
      | .allocBuffer bytes =>
          .ok { server with buffers := server.buffers.alloc bytes }
      | .writeBuffer buffer bytes =>
          .ok { server with
            buffers := server.buffers.modify buffer fun _ => bytes }

end ThreadServer

end MDK
