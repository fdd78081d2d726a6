import MDK.ThreadServer

/-!
# What the steps of a thread server can do

One inversion of the step function for the caller and one for a worker.  The
invariants over runs of a thread server are case analyses over them.
-/

namespace MDK

def ThreadEvent.isStart : ThreadEvent → Bool
  | .start _ _ _ _ _ => true
  | _ => false

def ThreadEvent.creates : ThreadEvent → Bool
  | .start _ _ _ _ create => create = 0
  | _ => false

namespace ThreadServer

variable {long : ULong}

def phase? (server : ThreadServer long) (name : ℕ) : Option WorkerPhase :=
  (server.workers.get? name).map (·.phase)

/-- What only the caller writes. -/
structure CallerMembers where
  lpThread : Option ℕ
  cfg : ModuleConfigMap
  defaultPort : ℤ
  ip : Option ℕ
  port : ℤ
  udp : Bool
  buffers : Arena (List UInt8)
  caller : CallerPhase
  destroying : Bool

def callerMembers (server : ThreadServer long) : CallerMembers where
  lpThread := server.lpThread
  cfg := server.cfg
  defaultPort := server.defaultPort
  ip := server.ip
  port := server.port
  udp := server.udp
  buffers := server.buffers
  caller := server.caller
  destroying := server.destroying

/-! ## Steps of a worker -/

/-- Where `Execute` goes from a phase, and the exit code it leaves. -/
inductive WorkerNext (server : ThreadServer long) (this : CTemplateSocket)
    (answers : WorkerAnswers) :
    WorkerPhase → WorkerPhase → BitVec long.bits → Prop where
  | called :
      WorkerNext server this answers .callInitialize .testExitCode
        (long.ofInt answers.code)
  | failed (hcode : server.exitCode ≠ EErrorCodes.none.value long) :
      WorkerNext server this answers .testExitCode .returned server.exitCode
  | passed (hcode : server.exitCode = EErrorCodes.none.value long) :
      WorkerNext server this answers .testExitCode .enterBind server.exitCode
  | entered :
      WorkerNext server this answers .enterBind
        (.bindHandle server.ip server.port) server.exitCode
  | bound {ip : Option ℕ} {port : ℤ}
      (hbound : (server.world.listenHandle 0 this (server.text ip) port
        server.udp answers.bind).1 = true) :
      WorkerNext server this answers (.bindHandle ip port)
        (.storeSocket server.world.handles.fresh) server.exitCode
  | refused {ip : Option ℕ} {port : ℤ}
      (hrefused : (server.world.listenHandle 0 this (server.text ip) port
        server.udp answers.bind).1 = false) :
      WorkerNext server this answers (.bindHandle ip port) .storeBindError
        server.exitCode
  | stored {handle : ℕ} :
      WorkerNext server this answers (.storeSocket handle) .storeStillAlive
        server.exitCode
  | bindError :
      WorkerNext server this answers .storeBindError .returned
        (EErrorCodes.bindError.value long)
  | stillAlive :
      WorkerNext server this answers .storeStillAlive .serving
        (EErrorCodes.stillAlive.value long)
  | served :
      WorkerNext server this answers .serving (.storeResult answers.run)
        server.exitCode
  | result {result : Bool} :
      WorkerNext server this answers (.storeResult result) .returned
        (long.ofInt (if result then 1 else 0))

/-- A step of a worker moves its phase and leaves what the caller writes. -/
structure WorkerMoves (server : ThreadServer long) (this : CTemplateSocket)
    (name : ℕ) (phase : WorkerPhase) (answers : WorkerAnswers)
    (next : ThreadServer long) (later : WorkerPhase) : Prop where
  workers : next.workers = server.workers.modify name fun worker =>
    { worker with phase := later }
  callerMembers : next.callerMembers = server.callerMembers
  goes : WorkerNext server this answers phase later next.exitCode

theorem workerStep_moves
    {server next : ThreadServer long} {this : CTemplateSocket} {name : ℕ}
    {phase : WorkerPhase} {answers : WorkerAnswers}
    (hstep : server.workerStep this name phase answers = .ok next) :
    ∃ later, server.WorkerMoves this name phase answers next later := by
  cases phase with
  | callInitialize =>
      cases hstep
      exact ⟨_, rfl, rfl, .called⟩
  | testExitCode =>
      rw [workerStep] at hstep
      split_ifs at hstep with hcode
      · cases hstep
        exact ⟨_, rfl, rfl, .failed hcode⟩
      · cases hstep
        exact ⟨_, rfl, rfl, .passed (not_not.mp hcode)⟩
  | enterBind =>
      cases hstep
      exact ⟨_, rfl, rfl, .entered⟩
  | bindHandle ip port =>
      cases hstep
      refine ⟨_, rfl, rfl, ?_⟩
      split_ifs with hbound
      · exact .bound hbound
      · exact .refused (by simpa using hbound)
  | storeSocket handle =>
      cases hstep
      exact ⟨_, rfl, rfl, .stored⟩
  | storeBindError =>
      cases hstep
      exact ⟨_, rfl, rfl, .bindError⟩
  | storeStillAlive =>
      cases hstep
      exact ⟨_, rfl, rfl, .stillAlive⟩
  | serving =>
      cases hstep
      exact ⟨_, rfl, rfl, .served⟩
  | storeResult result =>
      cases hstep
      exact ⟨_, rfl, rfl, .result⟩
  | returned => cases hstep

/-- The step of a worker changes its own phase. -/
theorem WorkerMoves.phase?_eq
    {server next : ThreadServer long} {this : CTemplateSocket} {name : ℕ}
    {phase later : WorkerPhase} {answers : WorkerAnswers} {worker : Worker}
    (hmoves : server.WorkerMoves this name phase answers next later)
    (hget : server.workers.get? name = some worker) (other : ℕ) :
    next.phase? other =
      if other = name then some later else server.phase? other := by
  rw [phase?, hmoves.workers, Arena.get?_modify]
  split_ifs with heq
  · rw [heq, hget, Option.map_some, Option.map_some]
  · rfl

/-! ## Every step -/

inductive Moves (server : ThreadServer long) :
    ThreadEvent → ThreadServer long → Prop where
  | startFails {ip : ℕ} {port : ℤ} {db : Pointer} {cfg : ModuleConfigMap}
      {create : ℤ} (hidle : server.isIdle = true) (hcreate : create ≠ 0) :
      Moves server (.start ip port db cfg create)
        (server.prepare ip port db cfg)
  | starts {ip : ℕ} {port : ℤ} {db : Pointer} {cfg : ModuleConfigMap}
      {create : ℤ} (hidle : server.isIdle = true)
      (hbuffer : (server.buffers.get? ip).isSome = true)
      (hcreate : create = 0) :
      Moves server (.start ip port db cfg create)
        (server.prepare ip port db cfg).createThread
  | stopsNothing (hidle : server.isIdle = true)
      (hthread : server.lpThread = none) : Moves server .stop server
  | stops {thread : ℕ} (hidle : server.isIdle = true)
      (hthread : server.lpThread = some thread) :
      Moves server .stop { server with caller := .testSockType }
  | destroysNothing (hidle : server.isIdle = true)
      (hthread : server.lpThread = none) :
      Moves server .destroy { server with destroying := true }
  | destroys {thread : ℕ} (hidle : server.isIdle = true)
      (hthread : server.lpThread = some thread) :
      Moves server .destroy
        { server with caller := .testSockType, destroying := true }
  | storesThread {thread : ℕ} (hcaller : server.caller = .storeThread thread) :
      Moves server .caller
        { server with lpThread := some thread, caller := .idle }
  | testsSockType {this : CTemplateSocket} (hthis : server.this? = some this)
      (hcaller : server.caller = .testSockType) :
      Moves server .caller
        { server with
          caller := if this.sockType = .udp then .recvStop else .close }
  | recvStops {this : CTemplateSocket} (hthis : server.this? = some this)
      (hcaller : server.caller = .recvStop) :
      Moves server .caller { server.recvStop this with caller := .close }
  | closes {this : CTemplateSocket} (hthis : server.this? = some this)
      (hcaller : server.caller = .close) :
      Moves server .caller { server.close this with caller := .uvStop }
  | uvStops (hcaller : server.caller = .uvStop) :
      Moves server .caller { server with stopFlag := true, caller := .join }
  | joins {thread : ℕ} {worker : Worker} (hcaller : server.caller = .join)
      (hthread : server.lpThread = some thread)
      (hget : server.workers.get? thread = some worker)
      (hreturned : worker.phase = .returned) :
      Moves server .caller
        { server.modifyWorker thread fun worker =>
            { worker with joined := worker.joined + 1 } with
          caller := .freeThread }
  | frees {thread : ℕ} (hcaller : server.caller = .freeThread)
      (hthread : server.lpThread = some thread) :
      Moves server .caller
        { server.modifyWorker thread fun worker =>
            { worker with freed := worker.freed + 1 } with
          lpThread := none
          caller := .idle }
  | worker {name : ℕ} {answers : WorkerAnswers} {this : CTemplateSocket}
      {worker : Worker} {next : ThreadServer long} {later : WorkerPhase}
      (hthis : server.this? = some this)
      (hget : server.workers.get? name = some worker)
      (hstep : server.workerStep this name worker.phase answers = .ok next)
      (hmoves : server.WorkerMoves this name worker.phase answers next later) :
      Moves server (.worker name answers) next
  | closeCallback {handle : ℕ} (hserved : server.isServed = true)
      (hclosing : server.isClosing handle = true) :
      Moves server (.closeCallback handle)
        { server with world := server.world.libuvCallbackOnClose handle }
  | allocBuffer {bytes : List UInt8} :
      Moves server (.allocBuffer bytes)
        { server with buffers := server.buffers.alloc bytes }
  | writeBuffer {buffer : ℕ} {bytes : List UInt8} :
      Moves server (.writeBuffer buffer bytes)
        { server with
          buffers := server.buffers.modify buffer fun _ => bytes }

theorem stop_of_thread
    {server : ThreadServer long} {thread : ℕ}
    (hthread : server.lpThread = some thread) :
    server.stop = { server with caller := .testSockType } := by
  unfold stop
  split
  · next hnone => rw [hthread] at hnone; contradiction
  · rfl

theorem stop_of_no_thread
    {server : ThreadServer long} (hthread : server.lpThread = none) :
    server.stop = server := by
  unfold stop
  rw [hthread]

theorem callerStep_moves
    {server next : ThreadServer long} {this : CTemplateSocket}
    (hthis : server.this? = some this)
    (hstep : server.callerStep this = .ok next) :
    server.Moves .caller next := by
  unfold callerStep at hstep
  cases hcaller : server.caller with
  | idle => simp [hcaller] at hstep
  | storeThread thread =>
      simp only [hcaller] at hstep
      cases hstep
      exact .storesThread hcaller
  | testSockType =>
      simp only [hcaller] at hstep
      cases hstep
      exact .testsSockType hthis hcaller
  | recvStop =>
      simp only [hcaller] at hstep
      cases hstep
      exact .recvStops hthis hcaller
  | close =>
      simp only [hcaller] at hstep
      cases hstep
      exact .closes hthis hcaller
  | uvStop =>
      simp only [hcaller] at hstep
      cases hstep
      exact .uvStops hcaller
  | join =>
      cases hthread : server.lpThread with
      | none => simp [hcaller, hthread] at hstep
      | some thread =>
          simp only [hcaller, hthread] at hstep
          split_ifs at hstep with hreturned
          cases hstep
          obtain ⟨worker, hget, hphase⟩ := Option.map_eq_some_iff.mp hreturned
          exact .joins hcaller hthread hget hphase
  | freeThread =>
      cases hthread : server.lpThread with
      | none => simp [hcaller, hthread] at hstep
      | some thread =>
          simp only [hcaller, hthread] at hstep
          cases hstep
          exact .frees hcaller hthread

theorem moves_of_step
    {server next : ThreadServer long} {event : ThreadEvent}
    (hstep : server.step event = .ok next) : server.Moves event next := by
  unfold step at hstep
  cases hthis : server.this? with
  | none => simp [hthis] at hstep
  | some this =>
      simp only [hthis] at hstep
      cases event with
      | start ip port db cfg create =>
          simp only at hstep
          split_ifs at hstep with hready
          cases hstep
          by_cases hcreate : create = 0
          · rw [start, if_neg (not_not.mpr hcreate)]
            exact .starts hready.1 hready.2 hcreate
          · rw [start, if_pos hcreate]
            exact .startFails hready.1 hcreate
      | stop =>
          simp only at hstep
          split_ifs at hstep with hidle
          cases hstep
          cases hthread : server.lpThread with
          | none =>
              rw [stop_of_no_thread hthread]
              exact .stopsNothing hidle hthread
          | some thread =>
              rw [stop_of_thread hthread]
              exact .stops hidle hthread
      | destroy =>
          simp only at hstep
          split_ifs at hstep with hidle
          cases hstep
          cases hthread : server.lpThread with
          | none =>
              rw [stop_of_no_thread hthread]
              exact .destroysNothing hidle hthread
          | some thread =>
              rw [stop_of_thread hthread]
              exact .destroys hidle hthread
      | caller => exact callerStep_moves hthis hstep
      | worker name answers =>
          cases hget : server.workers.get? name with
          | none => simp [hget] at hstep
          | some worker =>
              simp only [hget] at hstep
              obtain ⟨later, hmoves⟩ := workerStep_moves hstep
              exact .worker hthis hget hstep hmoves
      | closeCallback handle =>
          simp only at hstep
          split_ifs at hstep with hready
          cases hstep
          exact .closeCallback hready.1 hready.2
      | allocBuffer bytes =>
          cases hstep
          exact .allocBuffer
      | writeBuffer buffer bytes =>
          cases hstep
          exact .writeBuffer

/-! ## What the caller leaves to the workers -/

/-- The exit code and the phases of the workers stay, and no worker is new. -/
structure SameWorkers (server next : ThreadServer long) : Prop where
  exitCode : next.exitCode = server.exitCode
  fresh : next.workers.fresh = server.workers.fresh
  phase? : ∀ name, next.phase? name = server.phase? name

theorem sameWorkers_of_eq
    {server next : ThreadServer long} (hcode : next.exitCode = server.exitCode)
    (hworkers : next.workers = server.workers) : SameWorkers server next where
  exitCode := hcode
  fresh := congrArg Arena.fresh hworkers
  phase? name := by rw [ThreadServer.phase?, hworkers, ThreadServer.phase?]

theorem sameWorkers_modify
    {server next : ThreadServer long} {name : ℕ} {change : Worker → Worker}
    (hcode : next.exitCode = server.exitCode)
    (hworkers : next.workers = server.workers.modify name change)
    (hphase : ∀ worker, (change worker).phase = worker.phase) :
    SameWorkers server next where
  exitCode := hcode
  fresh := by rw [hworkers, Arena.fresh_modify]
  phase? other := by
    rw [ThreadServer.phase?, hworkers, Arena.get?_modify, ThreadServer.phase?]
    split_ifs
    · rw [Option.map_map]
      exact congrArg (Option.map · _) (funext hphase)
    · rfl

theorem sameWorkers_of_step
    {server next : ThreadServer long} {event : ThreadEvent}
    (hworker : event.isWorker = false) (hcreates : event.creates = false)
    (hstep : server.step event = .ok next) : SameWorkers server next := by
  cases moves_of_step hstep with
  | starts _ _ hcreate => simp [ThreadEvent.creates, hcreate] at hcreates
  | joins => exact sameWorkers_modify rfl rfl fun _ => rfl
  | frees => exact sameWorkers_modify rfl rfl fun _ => rfl
  | worker => contradiction
  | _ => exact sameWorkers_of_eq rfl rfl

theorem phase?_createThread (server : ThreadServer long) (name : ℕ) :
    server.createThread.phase? name =
      if name = server.workers.fresh then some .callInitialize
      else server.phase? name := by
  rw [phase?, createThread, Arena.get?_alloc]
  split_ifs
  · rfl
  · rfl

/-- A new worker is about to call `Initialize`. -/
theorem workers_of_creates
    {server next : ThreadServer long} {event : ThreadEvent}
    (hcreates : event.creates = true) (hstep : server.step event = .ok next) :
    next.workers.fresh = server.workers.fresh + 1 ∧
      ∀ name, next.phase? name =
        if name = server.workers.fresh then some .callInitialize
        else server.phase? name := by
  cases moves_of_step hstep with
  | startFails _ hcreate => simp [ThreadEvent.creates, hcreate] at hcreates
  | @starts ip port db cfg =>
      exact ⟨Arena.fresh_alloc _ _,
        (server.prepare ip port db cfg).phase?_createThread⟩
  | _ => contradiction

/-- The exit code and the phases of the workers stay; a worker may be new. -/
structure SamePhases (server next : ThreadServer long) : Prop where
  exitCode : next.exitCode = server.exitCode
  before : ∀ name later, next.workers.get? name = some later →
    later.phase = .callInitialize ∨
      ∃ worker, server.workers.get? name = some worker ∧
        worker.phase = later.phase
  after : ∀ name worker, server.workers.get? name = some worker →
    ∃ later, next.workers.get? name = some later ∧ later.phase = worker.phase

theorem SameWorkers.samePhases
    {server next : ThreadServer long} (hsame : SameWorkers server next) :
    SamePhases server next where
  exitCode := hsame.exitCode
  before name later hlater := by
    have hphase : server.phase? name = some later.phase := by
      rw [← hsame.phase?, ThreadServer.phase?, hlater, Option.map_some]
    exact Or.inr (Option.map_eq_some_iff.mp hphase)
  after name worker hget := by
    have hphase : next.phase? name = some worker.phase := by
      rw [hsame.phase?, ThreadServer.phase?, hget, Option.map_some]
    exact Option.map_eq_some_iff.mp hphase

theorem samePhases_createThread (server : ThreadServer long) :
    SamePhases server server.createThread where
  exitCode := rfl
  before name later hlater := by
    obtain ⟨_, rfl⟩ | hget := Arena.get?_alloc_cases hlater
    · exact Or.inl rfl
    · exact Or.inr ⟨later, hget, rfl⟩
  after name worker hget := ⟨worker, Arena.get?_alloc_of_some hget _, rfl⟩

/-- Only the steps of the workers themselves do more. -/
theorem samePhases_of_step
    {server next : ThreadServer long} {event : ThreadEvent}
    (hevent : event.isWorker = false) (hstep : server.step event = .ok next) :
    SamePhases server next := by
  cases hcreates : event.creates with
  | false => exact (sameWorkers_of_step hevent hcreates hstep).samePhases
  | true =>
      cases moves_of_step hstep with
      | startFails _ hcreate => simp [ThreadEvent.creates, hcreate] at hcreates
      | @starts ip port db cfg =>
          have hsame := (server.prepare ip port db cfg).samePhases_createThread
          exact ⟨hsame.exitCode, hsame.before, hsame.after⟩
      | _ => contradiction

end ThreadServer

end MDK
