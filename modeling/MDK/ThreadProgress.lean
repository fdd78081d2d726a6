import MDK.StepProgress
import MDK.ThreadExit
import MDK.ThreadJoins

/-!
# Stop returns

`Stop` waits in `uv_thread_join` for a worker that may be anywhere in `Execute`:
before `Initialize`, in `Bind`, in its loop or past it.  Where each `Start` that
creates a worker finds `m_lpThread` NULL, the stop flag stays set until the loop
of that very worker has seen it, however the steps are interleaved.
-/

namespace MDK

open StepSystem

variable {long : ULong}

/-! ## Ranks -/

/-- The steps that a worker has left, at most. -/
def WorkerPhase.left : WorkerPhase → ℕ
  | .callInitialize => 8
  | .testExitCode => 7
  | .enterBind => 6
  | .bindHandle _ _ => 5
  | .storeSocket _ => 4
  | .storeStillAlive => 3
  | .serving => 2
  | .storeBindError => 1
  | .storeResult _ => 1
  | .returned => 0

/-- The steps that the caller has left in `Stop`, at most. -/
def CallerPhase.left : CallerPhase → ℕ
  | .idle => 0
  | .storeThread _ => 0
  | .testSockType => 6
  | .recvStop => 5
  | .close => 4
  | .uvStop => 3
  | .join => 2
  | .freeThread => 1

/-- The worker has left its loop. -/
def WorkerPhase.hasServed : WorkerPhase → Bool
  | .storeResult _ => true
  | .returned => true
  | _ => false

namespace ThreadServer

/-- The thread that was created last, before or after its store. -/
def current (server : ThreadServer long) : Option ℕ :=
  match server.caller with
  | .storeThread thread => some thread
  | _ => server.lpThread

/-- Every worker but the current one has returned, and the stop flag is kept for
it. -/
structure Serial (server : ThreadServer long) : Prop where
  this? : ∃ this, server.this? = some this
  known : ∀ name, server.current = some name →
    ∃ phase, server.phase? name = some phase
  alone : ∀ name phase, server.phase? name = some phase →
    phase = .returned ∨ server.current = some name
  storing : ∀ name, server.caller = .storeThread name → server.lpThread = none
  stopping : server.caller.isStopping = true → server.lpThread ≠ none
  flagged : server.caller = .join → ∀ name phase,
    server.phase? name = some phase →
      server.stopFlag = true ∨ phase.hasServed = true
  joined : server.caller = .freeThread → ∀ name phase,
    server.phase? name = some phase → phase = .returned

theorem current_of_lpThread
    {server : ThreadServer long} (hstoring : server.caller.storing? = none) :
    server.current = server.lpThread := by
  unfold current
  cases hcaller : server.caller with
  | storeThread thread => simp [hcaller, CallerPhase.storing?] at hstoring
  | _ => rfl

/-- What the invariant reads. -/
structure SameView (server next : ThreadServer long) : Prop where
  this? : (∃ this, server.this? = some this) → ∃ this, next.this? = some this
  phase? : ∀ name, next.phase? name = server.phase? name
  lpThread : next.lpThread = server.lpThread
  stopFlag : next.stopFlag = server.stopFlag

theorem sameView_of_sameWorkers
    {server next : ThreadServer long} (hsame : server.SameWorkers next)
    (hsockets : next.world.sockets = server.world.sockets)
    (hthread : next.lpThread = server.lpThread)
    (hflag : next.stopFlag = server.stopFlag) : server.SameView next where
  this? hthis := by
    rw [ThreadServer.this?, hsockets]
    exact hthis
  phase? := hsame.phase?
  lpThread := hthread
  stopFlag := hflag

/-- Nothing that the invariant reads has changed. -/
theorem Serial.same
    {server next : ThreadServer long} (hserial : server.Serial)
    (hview : server.SameView next) (hcaller : next.caller = server.caller) :
    next.Serial := by
  have hcurrent : next.current = server.current := by
    simp only [current, hcaller, hview.lpThread]
  obtain ⟨hthis, hknown, halone, hstoring, hstopping, hflagged, hjoined⟩ :=
    hserial
  constructor
  · exact hview.this? hthis
  · simpa only [hcurrent, hview.phase?] using hknown
  · simpa only [hcurrent, hview.phase?] using halone
  · simpa only [hcaller, hview.lpThread] using hstoring
  · simpa only [hcaller, hview.lpThread] using hstopping
  · simpa only [hcaller, hview.phase?, hview.stopFlag] using hflagged
  · simpa only [hcaller, hview.phase?] using hjoined

/-- The caller goes on inside of `StopServer`. -/
theorem Serial.goesOn
    {server next : ThreadServer long} (hserial : server.Serial)
    (hview : server.SameView next) (hbefore : server.caller.storing? = none)
    (hcalm : next.caller.isCalm = true) (hjoin : next.caller ≠ .join)
    (hthread : server.lpThread ≠ none) : next.Serial := by
  obtain ⟨hafter, hfree⟩ := CallerPhase.storing?_of_isCalm hcalm
  have hcurrent : next.current = server.current := by
    rw [current_of_lpThread hafter, current_of_lpThread hbefore, hview.lpThread]
  constructor
  · exact hview.this? hserial.this?
  · simpa only [hcurrent, hview.phase?] using hserial.known
  · simpa only [hcurrent, hview.phase?] using hserial.alone
  · intro name hname
    rw [hname] at hcalm
    contradiction
  · intro _
    rw [hview.lpThread]
    exact hthread
  · intro hcaller
    contradiction
  · intro hcaller
    contradiction

/-! ## Steps of the current worker -/

theorem workerStep_stopFlag
    {server next : ThreadServer long} {this : CTemplateSocket} {name : ℕ}
    {phase : WorkerPhase} {answers : WorkerAnswers}
    (hstep : server.workerStep this name phase answers = .ok next) :
    next.stopFlag =
      if phase = .serving then false else server.stopFlag := by
  cases phase with
  | testExitCode =>
      rw [workerStep] at hstep
      split_ifs at hstep
      · cases hstep
        rfl
      · cases hstep
        rfl
  | returned => contradiction
  | _ =>
      cases hstep
      rfl

theorem workerStep_this?
    {server next : ThreadServer long} {this : CTemplateSocket} {name : ℕ}
    {phase : WorkerPhase} {answers : WorkerAnswers}
    (hthis : server.this? = some this)
    (hstep : server.workerStep this name phase answers = .ok next) :
    ∃ later, next.this? = some later := by
  have hkeep : ∀ sockets : Arena CTemplateSocket,
      sockets = server.world.sockets → ∃ later, sockets.get? 0 = some later := by
    rintro _ rfl
    exact ⟨this, hthis⟩
  cases phase with
  | testExitCode =>
      rw [workerStep] at hstep
      split_ifs at hstep
      · cases hstep
        exact hkeep _ rfl
      · cases hstep
        exact hkeep _ rfl
  | enterBind =>
      cases hstep
      exact Arena.exists_get?_modify hthis 0 _
  | bindHandle ip port =>
      obtain ⟨handle, calls, hworld, _⟩ := server.world.listenHandle_spec 0 this
        (server.text ip) port server.udp answers.bind
      cases hstep
      apply hkeep
      change (server.world.listenHandle 0 this (server.text ip) port server.udp
        answers.bind).2.sockets = _
      rw [hworld]
      rfl
  | storeSocket handle =>
      cases hstep
      exact Arena.exists_get?_modify hthis 0 _
  | returned => contradiction
  | _ =>
      cases hstep
      exact hkeep _ rfl

/-- A worker that has served does not serve again. -/
theorem WorkerNext.hasServed
    {server : ThreadServer long} {this : CTemplateSocket}
    {answers : WorkerAnswers} {phase later : WorkerPhase}
    {code : BitVec long.bits}
    (hnext : server.WorkerNext this answers phase later code)
    (hserved : phase = .serving ∨ phase.hasServed = true) :
    later.hasServed = true := by
  cases hnext with
  | served => rfl
  | result => rfl
  | _ => simp [WorkerPhase.hasServed] at hserved

theorem WorkerNext.left_lt
    {server : ThreadServer long} {this : CTemplateSocket}
    {answers : WorkerAnswers} {phase later : WorkerPhase}
    {code : BitVec long.bits}
    (hnext : server.WorkerNext this answers phase later code) :
    later.left < phase.left := by
  cases hnext with
  | _ => simp [WorkerPhase.left]

/-- What a step of a worker is where all others have returned. -/
structure CurrentSteps (server next : ThreadServer long) (name : ℕ)
    (phase later : WorkerPhase) : Prop where
  current : server.current = some name
  before : server.phase? name = some phase
  notReturned : phase ≠ .returned
  this? : ∃ this, next.this? = some this
  lpThread : next.lpThread = server.lpThread
  caller : next.caller = server.caller
  after : ∀ other, next.phase? other =
    if other = name then some later else server.phase? other
  stopFlag : next.stopFlag =
    if phase = .serving then false else server.stopFlag
  served : phase = .serving ∨ phase.hasServed = true → later.hasServed = true
  left : later.left < phase.left

theorem Serial.currentSteps
    {server next : ThreadServer long} {name : ℕ} {answers : WorkerAnswers}
    (hserial : server.Serial)
    (hstep : server.step (.worker name answers) = .ok next) :
    ∃ phase later, server.CurrentSteps next name phase later := by
  cases moves_of_step hstep with
  | @worker _ _ this worker _ later hthis hget hworker hmoves =>
      have hphase : server.phase? name = some worker.phase := by
        rw [phase?, hget, Option.map_some]
      have hreturned : worker.phase ≠ .returned := by
        intro hreturned
        rw [hreturned] at hworker
        contradiction
      have hcurrent : server.current = some name :=
        (hserial.alone name worker.phase hphase).resolve_left hreturned
      have hgoes := hmoves.goes
      have hmembers := hmoves.callerMembers
      exact ⟨worker.phase, later, hcurrent, hphase, hreturned,
        workerStep_this? hthis hworker,
        congrArg CallerMembers.lpThread hmembers,
        congrArg CallerMembers.caller hmembers, hmoves.phase?_eq hget,
        workerStep_stopFlag hworker, hgoes.hasServed, hgoes.left_lt⟩

theorem CurrentSteps.current_eq
    {server next : ThreadServer long} {name : ℕ} {phase later : WorkerPhase}
    (hsteps : server.CurrentSteps next name phase later) :
    next.current = server.current := by
  simp only [ThreadServer.current, hsteps.caller, hsteps.lpThread]

theorem Serial.worker
    {server next : ThreadServer long} {name : ℕ} {phase later : WorkerPhase}
    (hserial : server.Serial)
    (hsteps : server.CurrentSteps next name phase later) : next.Serial := by
  have hothers : ∀ other found, other ≠ name →
      server.phase? other = some found → found = .returned := by
    intro other found hne hget
    obtain hreturned | hcurrent := hserial.alone other found hget
    · exact hreturned
    · rw [hsteps.current] at hcurrent
      exact absurd (Option.some.inj hcurrent).symm hne
  constructor
  · exact hsteps.this?
  · intro other hother
    rw [hsteps.current_eq, hsteps.current] at hother
    exact ⟨later, by rw [hsteps.after, if_pos (Option.some.inj hother).symm]⟩
  · intro other found hget
    rw [hsteps.after] at hget
    split_ifs at hget with heq
    · right
      rw [hsteps.current_eq, hsteps.current, heq]
    · exact Or.inl (hothers other found heq hget)
  · rw [hsteps.caller, hsteps.lpThread]
    exact hserial.storing
  · rw [hsteps.caller, hsteps.lpThread]
    exact hserial.stopping
  · intro hjoin other found hget
    rw [hsteps.caller] at hjoin
    rw [hsteps.after] at hget
    split_ifs at hget with heq
    · cases hget
      by_cases hserving : phase = .serving
      · exact Or.inr (hsteps.served (Or.inl hserving))
      · rw [hsteps.stopFlag, if_neg hserving]
        exact (hserial.flagged hjoin name phase hsteps.before).imp_right
          fun hserved => hsteps.served (Or.inr hserved)
    · right
      rw [hothers other found heq hget]
      rfl
  · intro hfree
    rw [hsteps.caller] at hfree
    exact absurd (hserial.joined hfree name phase hsteps.before)
      hsteps.notReturned

/-! ## Steps of the caller -/

theorem Serial.createThread
    {server : ThreadServer long} (hserial : server.Serial)
    (hidle : server.caller = .idle) (hthread : server.lpThread = none) :
    server.createThread.Serial := by
  have hcurrent : server.current = none := by
    rw [current_of_lpThread (by rw [hidle]; rfl), hthread]
  constructor
  · exact hserial.this?
  · intro name hname
    have heq : server.workers.fresh = name := Option.some.inj hname
    exact ⟨.callInitialize, by rw [phase?_createThread, if_pos heq.symm]⟩
  · intro name phase hget
    rw [phase?_createThread] at hget
    split_ifs at hget with heq
    · exact Or.inr (congrArg some heq.symm)
    · obtain hreturned | hname := hserial.alone name phase hget
      · exact Or.inl hreturned
      · rw [hcurrent] at hname
        contradiction
  · intro _ _
    exact hthread
  · intro hstopping
    contradiction
  · intro hjoin
    contradiction
  · intro hfree
    contradiction

theorem Serial.storesThread
    {server : ThreadServer long} (hserial : server.Serial) {thread : ℕ}
    (hcaller : server.caller = .storeThread thread) :
    Serial { server with lpThread := some thread, caller := .idle } := by
  have hcurrent : server.current = some thread := by
    simp only [current, hcaller]
  constructor
  · exact hserial.this?
  · intro name hname
    exact hserial.known name (hcurrent.trans hname)
  · intro name phase hget
    exact (hserial.alone name phase hget).imp_right hcurrent.symm.trans
  · intro name hname
    contradiction
  · intro hstopping
    contradiction
  · intro hjoin
    contradiction
  · intro hfree
    contradiction

theorem Serial.uvStops
    {server : ThreadServer long} (hserial : server.Serial)
    (hcaller : server.caller = .uvStop) :
    Serial { server with stopFlag := true, caller := .join } := by
  have hcurrent : server.current = server.lpThread :=
    current_of_lpThread (by rw [hcaller]; rfl)
  constructor
  · exact hserial.this?
  · intro name hname
    exact hserial.known name (hcurrent.trans hname)
  · intro name phase hget
    exact (hserial.alone name phase hget).imp_right hcurrent.symm.trans
  · intro name hname
    contradiction
  · intro _
    exact hserial.stopping (by rw [hcaller]; rfl)
  · intro _ _ _ _
    exact Or.inl rfl
  · intro hfree
    contradiction

theorem phase?_modifyWorker
    (server : ThreadServer long) (name : ℕ) {change : Worker → Worker}
    (hchange : ∀ worker, (change worker).phase = worker.phase) (other : ℕ) :
    (server.modifyWorker name change).phase? other = server.phase? other := by
  have hsame : server.SameWorkers (server.modifyWorker name change) :=
    sameWorkers_modify rfl rfl hchange
  exact hsame.phase? other

theorem Serial.joins
    {server : ThreadServer long} (hserial : server.Serial) {thread : ℕ}
    {worker : Worker} (hcaller : server.caller = .join)
    (hthread : server.lpThread = some thread)
    (hget : server.workers.get? thread = some worker)
    (hreturned : worker.phase = .returned) :
    Serial { server.modifyWorker thread fun worker =>
        { worker with joined := worker.joined + 1 } with
      caller := .freeThread } := by
  have hcurrent : server.current = some thread := by
    rw [current_of_lpThread (by rw [hcaller]; rfl), hthread]
  have hall : ∀ name phase, server.phase? name = some phase →
      phase = .returned := by
    intro name phase hphase
    obtain hphase | hname := hserial.alone name phase hphase
    · exact hphase
    · rw [hcurrent] at hname
      cases hname
      rw [phase?, hget, Option.map_some, hreturned] at hphase
      exact (Option.some.inj hphase).symm
  have hphases : ∀ name, (server.modifyWorker thread fun worker =>
      { worker with joined := worker.joined + 1 }).phase? name =
        server.phase? name := server.phase?_modifyWorker thread fun _ => rfl
  constructor
  · exact hserial.this?
  · intro name hname
    obtain ⟨phase, hphase⟩ :=
      hserial.known name (hcurrent.trans (hthread.symm.trans hname))
    exact ⟨phase, (hphases name).trans hphase⟩
  · intro name phase hphase
    exact Or.inl (hall name phase ((hphases name).symm.trans hphase))
  · intro name hname
    contradiction
  · intro _
    change server.lpThread ≠ none
    simp [hthread]
  · intro hjoin
    contradiction
  · intro _ name phase hphase
    exact hall name phase ((hphases name).symm.trans hphase)

theorem Serial.frees
    {server : ThreadServer long} (hserial : server.Serial)
    (hcaller : server.caller = .freeThread) (thread : ℕ) :
    Serial { server.modifyWorker thread fun worker =>
        { worker with freed := worker.freed + 1 } with
      lpThread := none
      caller := .idle } := by
  have hphases : ∀ name, (server.modifyWorker thread fun worker =>
      { worker with freed := worker.freed + 1 }).phase? name =
        server.phase? name := server.phase?_modifyWorker thread fun _ => rfl
  constructor
  · exact hserial.this?
  · intro name hname
    contradiction
  · intro name phase hphase
    have hbefore := (hphases name).symm.trans hphase
    exact Or.inl (hserial.joined hcaller name phase hbefore)
  · intro name hname
    contradiction
  · intro hstopping
    contradiction
  · intro hjoin
    contradiction
  · intro hfree
    contradiction

/-! ## One step -/

theorem Serial.step
    {server next : ThreadServer long} {event : ThreadEvent}
    (hserial : server.Serial)
    (hstarts : event.creates = true → server.lpThread = none)
    (hstep : server.step event = .ok next) : next.Serial := by
  have hmoves := moves_of_step hstep
  have hview : ∀ later : ThreadServer long, later.exitCode = server.exitCode →
      later.workers = server.workers →
      later.world.sockets = server.world.sockets →
      later.lpThread = server.lpThread → later.stopFlag = server.stopFlag →
      server.SameView later :=
    fun _ hcode hworkers hsockets hthread hflag => sameView_of_sameWorkers
      (sameWorkers_of_eq hcode hworkers) hsockets hthread hflag
  have hmodify : ∀ (this : CTemplateSocket) (change : Handle → Handle),
      (modifyTarget server.world this change).sockets =
        server.world.sockets := by
    intro this change
    unfold modifyTarget
    cases this.socket with
    | none => rfl
    | some name => rfl
  cases hmoves with
  | startFails => exact hserial.same (hview _ rfl rfl rfl rfl rfl) rfl
  | @starts ip port db cfg create hidle hbuffer hcreate =>
      have hprepared : (server.prepare ip port db cfg).Serial :=
        hserial.same (hview _ rfl rfl rfl rfl rfl) rfl
      exact hprepared.createThread (ThreadHistory.caller_of_isIdle hidle).1
        (hstarts (by simp [ThreadEvent.creates, hcreate]))
  | stopsNothing => exact hserial
  | stops hidle hthread =>
      have hcaller := (ThreadHistory.caller_of_isIdle hidle).1
      exact hserial.goesOn (hview _ rfl rfl rfl rfl rfl) (by rw [hcaller]; rfl)
        rfl (by simp) (by simp [hthread])
  | destroysNothing => exact hserial.same (hview _ rfl rfl rfl rfl rfl) rfl
  | destroys hidle hthread =>
      have hcaller := (ThreadHistory.caller_of_isIdle hidle).1
      exact hserial.goesOn (hview _ rfl rfl rfl rfl rfl) (by rw [hcaller]; rfl)
        rfl (by simp) (by simp [hthread])
  | storesThread hcaller => exact hserial.storesThread hcaller
  | @testsSockType this hthis hcaller =>
      have hthread := hserial.stopping (by rw [hcaller]; rfl)
      refine hserial.goesOn (hview _ rfl rfl rfl rfl rfl) (by rw [hcaller]; rfl)
        ?_ ?_ hthread
      · simp only
        split_ifs
        · rfl
        · rfl
      · simp only
        split_ifs
        · simp
        · simp
  | recvStops hthis hcaller =>
      exact hserial.goesOn (hview _ rfl rfl (hmodify _ _) rfl rfl)
        (by rw [hcaller]; rfl) rfl (by simp)
        (hserial.stopping (by rw [hcaller]; rfl))
  | closes hthis hcaller =>
      exact hserial.goesOn (hview _ rfl rfl (hmodify _ _) rfl rfl)
        (by rw [hcaller]; rfl) rfl (by simp)
        (hserial.stopping (by rw [hcaller]; rfl))
  | uvStops hcaller => exact hserial.uvStops hcaller
  | joins hcaller hthread hget hreturned =>
      exact hserial.joins hcaller hthread hget hreturned
  | frees hcaller => exact hserial.frees hcaller _
  | worker =>
      obtain ⟨_, _, hsteps⟩ := hserial.currentSteps hstep
      exact hserial.worker hsteps
  | closeCallback => exact hserial.same (hview _ rfl rfl rfl rfl rfl) rfl
  | allocBuffer => exact hserial.same (hview _ rfl rfl rfl rfl rfl) rfl
  | writeBuffer => exact hserial.same (hview _ rfl rfl rfl rfl rfl) rfl

/-! ## Inside of Stop -/

end ThreadServer

namespace ThreadServer

end ThreadServer

/-! ## The callbacks of the loop -/

theorem World.newConnection_sockets
    {world next : World} {listener : ℕ} {status accept : ℤ}
    (hcallback : world.libuvCallbackOnServerTcpNewConnection listener status
      accept = .ok next) : next.sockets = world.sockets := by
  unfold World.libuvCallbackOnServerTcpNewConnection at hcallback
  split at hcallback
  · contradiction
  · split at hcallback
    · cases hcallback
      rfl
    · split at hcallback
      · contradiction
      · split at hcallback
        · contradiction
        · cases hcallback
          split_ifs
          · rfl
          · rfl

theorem World.tcpRead_sockets
    {world next : World} {stream : ℕ} {nread : ℤ} {buf : List UInt8}
    (hcallback : world.libuvCallbackOnServerTcpRead stream nread buf =
      .ok next) : next.sockets = world.sockets := by
  unfold World.libuvCallbackOnServerTcpRead at hcallback
  split at hcallback
  · contradiction
  · split_ifs at hcallback
    · cases hcallback
      rfl
    · cases hcallback
      rfl
    · split at hcallback
      · contradiction
      · split at hcallback
        · contradiction
        · cases hcallback
          rfl

/-- No callback of the loop changes a server object. -/
theorem World.sockets_of_loop
    {world next : World} {event : Event} (hloop : event.isOfLoop = true)
    (hstep : world.step event = .ok next) : next.sockets = world.sockets := by
  cases event with
  | construct => contradiction
  | bind => contradiction
  | newConnection listener status accept =>
      simp only [World.step] at hstep
      split_ifs at hstep
      exact World.newConnection_sockets (mapError_eq_ok_iff.mp hstep)
  | newConnectionReturn answer readStart =>
      simp only [World.step] at hstep
      split at hstep
      · contradiction
      · split_ifs at hstep
        cases hstep
        unfold World.libuvCallbackOnServerTcpNewConnectionReturn
        split_ifs
        · rfl
        · rfl
        · rfl
  | tcpRead client nread buf =>
      simp only [World.step] at hstep
      split_ifs at hstep
      exact World.tcpRead_sockets (mapError_eq_ok_iff.mp hstep)
  | close socket =>
      simp only [World.step] at hstep
      split_ifs at hstep
      cases hstep
      rfl
  | closeCallback handle =>
      simp only [World.step] at hstep
      split_ifs at hstep
      cases hstep
      rfl
  | setData socket data =>
      simp only [World.step, mapError_eq_ok_iff] at hstep
      obtain ⟨_, _, _, _, _, rfl⟩ := World.setData_eq_ok hstep
      rfl

/-! ## Histories with the loop -/

namespace ExitHistory

/-- The condition on one step: `Start` creates a thread only while `m_lpThread`
is NULL. -/
def StartsWithoutThread (history : ExitHistory long) : ExitEvent → Prop
  | .thread event => event.creates = true → history.server.lpThread = none
  | _ => True

theorem world_of_loop
    {history next : ExitHistory long} {event : ExitEvent}
    (hloop : ∀ thread, event ≠ .thread thread)
    (hstep : history.step event = .ok next) :
    ∃ world : World, world.sockets = history.server.world.sockets ∧
      next.server = { history.server with world := world } := by
  cases event with
  | thread event => exact absurd rfl (hloop event)
  | loop event =>
      rw [step] at hstep
      split_ifs at hstep with hready
      cases hworld : history.server.world.step event with
      | error stop => simp [hworld] at hstep
      | ok world =>
          simp only [hworld, Except.ok.injEq] at hstep
          subst hstep
          exact ⟨world, World.sockets_of_loop hready.2 hworld, rfl⟩
  | write =>
      rw [step] at hstep
      split_ifs at hstep
      cases hstep
      exact ⟨history.server.world, rfl, rfl⟩
  | writeCallback =>
      rw [step] at hstep
      split_ifs at hstep
      cases hstep
      exact ⟨history.server.world, rfl, rfl⟩

theorem serial_of_step
    {history next : ExitHistory long} {event : ExitEvent}
    (hserial : history.server.Serial)
    (hstarts : history.StartsWithoutThread event)
    (hstep : history.step event = .ok next) : next.server.Serial := by
  cases event with
  | thread event =>
      obtain ⟨_, server, hserver, rfl⟩ := thread_step_eq_ok hstep
      exact hserial.step hstarts hserver
  | _ =>
      obtain ⟨world, hsockets, hnext⟩ := world_of_loop (by simp) hstep
      rw [hnext]
      exact hserial.same (ThreadServer.sameView_of_sameWorkers
        (ThreadServer.sameWorkers_of_eq rfl rfl) hsockets rfl rfl) rfl

end ExitHistory

end MDK
