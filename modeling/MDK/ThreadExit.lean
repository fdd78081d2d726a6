import MDK.ServerRuns
import MDK.ThreadStatus
import MDK.ThreadSteps

/-!
# What the exit code tells

`Execute` stores what `Initialize` returned, then `ERROR_BIND_ERROR` or what
`uv_run` returned.  A history runs the workers together with the callbacks of
their loop and records what the newest worker met with.  `uv_run` returns
whether a handle or a request is still active, and `Execute` takes that for an
exit code.
-/

namespace MDK

open StepSystem

/-! ## The loop -/

def Handle.isActive (handle : Handle) : Bool :=
  handle.listening || handle.receiving || handle.reading

def World.activeHandles (world : World) : ℕ :=
  world.handles.objects.countP Handle.isActive

/-- What happens inside of `uv_run`. -/
def Event.isOfLoop : Event → Bool
  | .construct => false
  | .bind _ _ _ _ _ => false
  | .newConnection _ _ _ => true
  | .newConnectionReturn _ _ => true
  | .tcpRead _ _ _ => true
  | .close _ => true
  | .closeCallback _ => true
  | .setData _ _ => true

/-- How `uv_run` ended: whether by `uv_stop`, and how many handles and requests
were active then. -/
structure LoopEnd where
  stopped : Bool
  left : ℕ
  deriving DecidableEq, Repr

def LoopEnd.result (ended : LoopEnd) : Bool := 0 < ended.left

/-- What a worker has met with so far. -/
structure WorkerOutcome where
  code : Option (BitVec 32)
  bound : Option Bool
  loop : Option LoopEnd
  deriving DecidableEq, Repr

def WorkerOutcome.new : WorkerOutcome := ⟨none, none, none⟩

/-- The exit code that tells of the outcome, where one is promised. -/
def WorkerOutcome.exitCode? (long : ULong) (outcome : WorkerOutcome) :
    Option (BitVec long.bits) :=
  match outcome.code with
  | none => none
  | some code =>
      if code ≠ 0 then some (long.ofInt code)
      else
        match outcome.bound, outcome.loop with
        | some false, _ => some (EErrorCodes.bindError.value long)
        | some true, some ended =>
            if ended.stopped then some (EErrorCodes.none.value long) else none
        | _, _ => none

/-- `requests` are the writes whose callbacks are due, `outcome` is that of the
newest worker, and `alone` says that the others had returned at its `Start`. -/
structure ExitHistory (long : ULong) where
  server : ThreadServer long
  requests : ℕ
  alone : Bool
  outcome : WorkerOutcome

inductive ExitEvent where
  | thread (event : ThreadEvent)
  | loop (event : Event)
  | write
  | writeCallback

variable {long : ULong}

def ThreadServer.bindResult (server : ThreadServer long) (ip : Option ℕ)
    (port : ℤ) (answers : WorkerAnswers) : Bool :=
  match server.this? with
  | none => false
  | some this =>
      (server.world.listenHandle 0 this (server.text ip) port server.udp
        answers.bind).1

/-- What the step of a worker adds to its outcome. -/
def WorkerOutcome.after (outcome : WorkerOutcome) (server : ThreadServer long)
    (left : ℕ) (answers : WorkerAnswers) : WorkerPhase → WorkerOutcome
  | .callInitialize => { outcome with code := some answers.code }
  | .bindHandle ip port =>
      { outcome with bound := some (server.bindResult ip port answers) }
  | .serving => { outcome with loop := some ⟨server.stopFlag, left⟩ }
  | _ => outcome

namespace ExitHistory

def new (long : ULong) (defaultPort : ℤ) (udp : Bool) : ExitHistory long :=
  ⟨ThreadServer.new long defaultPort udp, 0, true, .new⟩

def left (history : ExitHistory long) : ℕ :=
  history.server.world.activeHandles + history.requests

/-- `uv_run` returns between two callbacks, once it is stopped or nothing is
active, and its result says whether something is. -/
def mayReturn (history : ExitHistory long) (result : Bool) : Bool :=
  history.server.world.calling = none &&
    (history.server.stopFlag || history.left = 0) &&
    result = decide (0 < history.left)

def mayTake (history : ExitHistory long) : ThreadEvent → Bool
  | .worker name answers =>
      history.server.phase? name ≠ some .serving ||
        history.mayReturn answers.run
  | _ => true

def outcomeAfter (history : ExitHistory long) (event : ThreadEvent) :
    WorkerOutcome :=
  match event with
  | .start _ _ _ _ create => if create = 0 then .new else history.outcome
  | .worker name answers =>
      if name + 1 = history.server.workers.fresh then
        match history.server.phase? name with
        | none => history.outcome
        | some phase =>
            history.outcome.after history.server history.left answers phase
      else history.outcome
  | _ => history.outcome

def step (history : ExitHistory long) :
    ExitEvent → Except Stop (ExitHistory long)
  | .thread event =>
      if history.mayTake event then
        match history.server.step event with
        | .error _ => .error .notEnabled
        | .ok next =>
            .ok { history with
              server := next
              alone :=
                if event.creates then
                  history.server.workers.objects.all (·.phase = .returned)
                else history.alone
              outcome := history.outcomeAfter event }
      else .error .notEnabled
  | .loop event =>
      if history.server.isServed ∧ event.isOfLoop then
        match history.server.world.step event with
        | .error stop => .error stop
        | .ok world =>
            .ok { history with server := { history.server with world := world } }
      else .error .notEnabled
  | .write =>
      if history.server.isServed then
        .ok { history with requests := history.requests + 1 }
      else .error .notEnabled
  | .writeCallback =>
      if history.server.isServed ∧ 0 < history.requests then
        .ok { history with requests := history.requests - 1 }
      else .error .notEnabled

/-- Once the newest worker has returned, `GetExitCode` tells of its outcome.
This is only asked of a worker that ran alone. -/
def Tells (history : ExitHistory long) : Prop :=
  history.alone = true → ∀ name, name + 1 = history.server.workers.fresh →
    history.server.phase? name = some .returned →
    ∀ code, history.outcome.exitCode? long = some code →
      history.server.getExitCode = code

/-- The condition on one step: when the result of a loop that `Stop` ended is
stored, no handle and no request was active at that end. -/
def StopsIdle (history : ExitHistory long) : ExitEvent → Prop
  | .thread (.worker name _) =>
      history.alone = true → name + 1 = history.server.workers.fresh →
        ∀ result, history.server.phase? name = some (.storeResult result) →
        ∀ ended, history.outcome.loop = some ended →
          ended.stopped = true → ended.left = 0
  | _ => True

end ExitHistory

/-! ## A worker that runs alone -/

theorem ULong.ofInt_eq_none_iff (long : ULong) (value : BitVec 32) :
    long.ofInt value = EErrorCodes.none.value long ↔ value = 0 := by
  have hvalue : (long.ofInt value).toInt = value.toInt :=
    BitVec.toInt_signExtend_of_le long.wide
  have hnone : (EErrorCodes.none.value long).toInt = 0 := BitVec.toInt_zero
  have hzero : (0 : BitVec 32).toInt = 0 := BitVec.toInt_zero
  rw [← BitVec.toInt_inj, hvalue, hnone, ← hzero, BitVec.toInt_inj]

theorem LoopEnd.ofInt_result (long : ULong) (ended : LoopEnd) :
    long.ofInt (if ended.result then 1 else 0) =
      (if ended.left = 0 then EErrorCodes.none else .unknown).value long := by
  by_cases hleft : ended.left = 0
  · simp only [LoopEnd.result, hleft, Nat.lt_irrefl, decide_false, if_true,
      Bool.false_eq_true, if_false]
    exact (long.ofInt_eq_none_iff 0).mpr rfl
  · simp only [LoopEnd.result, hleft, Nat.pos_of_ne_zero hleft, decide_true,
      if_true, if_false]
    have hvalue : (long.ofInt 1).toInt = 1 :=
      BitVec.toInt_signExtend_of_le long.wide
    have hbits : 1 < long.bits := Nat.lt_of_lt_of_le (by decide) long.wide
    apply BitVec.eq_of_toInt_eq
    exact hvalue.trans (BitVec.toInt_one hbits).symm

/-- What a worker that runs alone has met with when it is in a phase, and the
exit code at that moment. -/
inductive Fits (long : ULong) :
    WorkerPhase → WorkerOutcome → BitVec long.bits → Prop where
  | created {exitCode : BitVec long.bits} :
      Fits long .callInitialize .new exitCode
  | called {code : BitVec 32} :
      Fits long .testExitCode ⟨some code, none, none⟩ (long.ofInt code)
  | failed {code : BitVec 32} (hcode : code ≠ 0) :
      Fits long .returned ⟨some code, none, none⟩ (long.ofInt code)
  | passed {exitCode : BitVec long.bits} :
      Fits long .enterBind ⟨some 0, none, none⟩ exitCode
  | entered {ip : Option ℕ} {port : ℤ} {exitCode : BitVec long.bits} :
      Fits long (.bindHandle ip port) ⟨some 0, none, none⟩ exitCode
  | refused {exitCode : BitVec long.bits} :
      Fits long .storeBindError ⟨some 0, some false, none⟩ exitCode
  | bindError :
      Fits long .returned ⟨some 0, some false, none⟩
        (EErrorCodes.bindError.value long)
  | bound {handle : ℕ} {exitCode : BitVec long.bits} :
      Fits long (.storeSocket handle) ⟨some 0, some true, none⟩ exitCode
  | stored {exitCode : BitVec long.bits} :
      Fits long .storeStillAlive ⟨some 0, some true, none⟩ exitCode
  | serves {exitCode : BitVec long.bits} :
      Fits long .serving ⟨some 0, some true, none⟩ exitCode
  | served {ended : LoopEnd} {exitCode : BitVec long.bits} :
      Fits long (.storeResult ended.result) ⟨some 0, some true, some ended⟩
        exitCode
  | result {ended : LoopEnd} :
      Fits long .returned ⟨some 0, some true, some ended⟩
        (long.ofInt (if ended.result then 1 else 0))

/-- A step of `Execute` that no other worker interferes with. -/
theorem Fits.after
    {server : ThreadServer long} {this : CTemplateSocket} {left : ℕ}
    {answers : WorkerAnswers} {phase later : WorkerPhase}
    {outcome : WorkerOutcome} {code : BitVec long.bits}
    (hfits : Fits long phase outcome server.exitCode)
    (hthis : server.this? = some this)
    (hnext : server.WorkerNext this answers phase later code)
    (hreturns : phase = .serving → answers.run = decide (0 < left)) :
    Fits long later (outcome.after server left answers phase) code := by
  generalize hexit : server.exitCode = exitCode at hfits
  cases hnext with
  | called =>
      cases hfits
      exact .called
  | failed hcode =>
      rw [hexit] at hcode ⊢
      cases hfits with
      | @called code =>
          rw [Ne, long.ofInt_eq_none_iff] at hcode
          exact .failed hcode
  | passed hcode =>
      rw [hexit] at hcode
      cases hfits with
      | @called code =>
          rw [long.ofInt_eq_none_iff] at hcode
          subst hcode
          exact .passed
  | entered =>
      cases hfits
      exact .entered
  | @bound ip port hbound =>
      have hresult : server.bindResult ip port answers = true := by
        rw [ThreadServer.bindResult, hthis]
        exact hbound
      cases hfits
      simp only [WorkerOutcome.after, hresult]
      exact .bound
  | @refused ip port hrefused =>
      have hresult : server.bindResult ip port answers = false := by
        rw [ThreadServer.bindResult, hthis]
        exact hrefused
      cases hfits
      simp only [WorkerOutcome.after, hresult]
      exact .refused
  | stored =>
      cases hfits
      exact .stored
  | bindError =>
      cases hfits
      exact .bindError
  | stillAlive =>
      cases hfits
      exact .serves
  | served =>
      have hresult : answers.run = LoopEnd.result ⟨server.stopFlag, left⟩ :=
        hreturns rfl
      cases hfits
      rw [hresult]
      exact .served
  | result =>
      cases hfits
      exact .result

/-- A worker returns from the store of the loop's result, or never ran it. -/
theorem Fits.loop_of_returns
    {server : ThreadServer long} {this : CTemplateSocket}
    {left : ℕ} {answers : WorkerAnswers} {phase : WorkerPhase}
    {outcome : WorkerOutcome} {code : BitVec long.bits}
    (hfits : Fits long phase outcome server.exitCode)
    (hnext : server.WorkerNext this answers phase .returned code) :
    (∃ result, phase = .storeResult result) ∨
      (outcome.after server left answers phase).loop = none := by
  generalize server.exitCode = exitCode at hfits
  cases hnext with
  | failed hcode =>
      right
      cases hfits
      rfl
  | bindError =>
      right
      cases hfits
      rfl
  | @result result => exact Or.inl ⟨result, rfl⟩

/-- What a worker leaves that ran its loop: two exit codes for all loops. -/
theorem Fits.exitCode_of_loop
    {outcome : WorkerOutcome} {exitCode : BitVec long.bits} {ended : LoopEnd}
    (hfits : Fits long .returned outcome exitCode)
    (hloop : outcome.loop = some ended) :
    exitCode =
      (if ended.left = 0 then EErrorCodes.none else .unknown).value long := by
  cases hfits with
  | failed => contradiction
  | bindError => contradiction
  | result =>
      cases hloop
      exact ended.ofInt_result long

/-- What a worker leaves tells of its outcome exactly if `Stop` ended an idle
loop, or none. -/
theorem Fits.tells_iff
    {outcome : WorkerOutcome} {exitCode : BitVec long.bits}
    (hfits : Fits long .returned outcome exitCode) :
    (∀ code, outcome.exitCode? long = some code → exitCode = code) ↔
      ∀ ended, outcome.loop = some ended →
        ended.stopped = true → ended.left = 0 := by
  cases hfits with
  | failed => simp [WorkerOutcome.exitCode?]
  | bindError => simp [WorkerOutcome.exitCode?]
  | @result ended =>
      have htold : ∀ code, WorkerOutcome.exitCode? long
          ⟨some 0, some true, some ended⟩ = some code ↔
            ended.stopped = true ∧ EErrorCodes.none.value long = code := by
        simp [WorkerOutcome.exitCode?]
      have hzero : long.ofInt (if ended.result then 1 else 0) =
          EErrorCodes.none.value long ↔ ended.left = 0 := by
        rw [long.ofInt_eq_none_iff]
        by_cases hleft : ended.left = 0
        · simp [LoopEnd.result, hleft]
        · simp [LoopEnd.result, hleft, Nat.pos_of_ne_zero hleft]
      constructor
      · intro htells other hother hstopped
        cases hother
        exact hzero.mp (htells _ ((htold _).mpr ⟨hstopped, rfl⟩))
      · intro hidle code hcode
        obtain ⟨hstopped, rfl⟩ := (htold code).mp hcode
        exact hzero.mpr (hidle ended rfl hstopped)

/-! ## One step -/

namespace ThreadServer

theorem returned_of_all
    (server : ThreadServer long)
    (hall : server.workers.objects.all (·.phase = .returned) = true)
    {name : ℕ} {phase : WorkerPhase} (hget : server.phase? name = some phase) :
    phase = .returned := by
  obtain ⟨worker, hworker, rfl⟩ := Option.map_eq_some_iff.mp hget
  have hmem := List.mem_of_getElem? hworker
  exact of_decide_eq_true (List.all_eq_true.mp hall worker hmem)

end ThreadServer

namespace ExitHistory

/-- The newest worker, if it runs alone, is where its outcome and the exit code
say, and the others have returned. -/
structure Kept (history : ExitHistory long) : Prop where
  newest : history.alone = true →
    ∀ name, name + 1 = history.server.workers.fresh →
    ∀ phase, history.server.phase? name = some phase →
      Fits long phase history.outcome history.server.exitCode
  others : history.alone = true →
    ∀ name, name + 1 ≠ history.server.workers.fresh →
    ∀ phase, history.server.phase? name = some phase → phase = .returned

/-- The loop of the newest worker, once it has returned, was idle if `Stop`
ended it. -/
def EndedIdle (history : ExitHistory long) : Prop :=
  history.alone = true → ∀ name, name + 1 = history.server.workers.fresh →
    history.server.phase? name = some .returned →
    ∀ ended, history.outcome.loop = some ended →
      ended.stopped = true → ended.left = 0

theorem Kept.tells_iff
    {history : ExitHistory long} (hkept : history.Kept) :
    history.Tells ↔ history.EndedIdle := by
  constructor
  · intro htells halone name hnewest hreturned
    have hfits := hkept.newest halone name hnewest .returned hreturned
    exact hfits.tells_iff.mp (htells halone name hnewest hreturned)
  · intro hidle halone name hnewest hreturned
    have hfits := hkept.newest halone name hnewest .returned hreturned
    exact hfits.tells_iff.mpr (hidle halone name hnewest hreturned)

/-- A step that the newest worker and its outcome do not see. -/
structure SameRun (history next : ExitHistory long) : Prop where
  workers : history.server.SameWorkers next.server
  alone : next.alone = history.alone
  outcome : next.outcome = history.outcome

theorem SameRun.kept
    {history next : ExitHistory long} (hsame : history.SameRun next)
    (hkept : history.Kept) : next.Kept := by
  obtain ⟨⟨hcode, hfresh, hphase⟩, halone, houtcome⟩ := hsame
  constructor
  · rw [halone, hfresh, hcode, houtcome]
    simpa only [hphase] using hkept.newest
  · rw [halone, hfresh]
    simpa only [hphase] using hkept.others

theorem SameRun.endedIdle_iff
    {history next : ExitHistory long} (hsame : history.SameRun next) :
    next.EndedIdle ↔ history.EndedIdle := by
  simp only [EndedIdle, hsame.alone, hsame.outcome, hsame.workers.fresh,
    hsame.workers.phase?]

theorem thread_step_eq_ok
    {history next : ExitHistory long} {event : ThreadEvent}
    (hstep : history.step (.thread event) = .ok next) :
    history.mayTake event = true ∧
      ∃ server, history.server.step event = .ok server ∧
        next = { history with
          server := server
          alone :=
            if event.creates then
              history.server.workers.objects.all (·.phase = .returned)
            else history.alone
          outcome := history.outcomeAfter event } := by
  rw [step] at hstep
  by_cases hmay : history.mayTake event = true
  · rw [if_pos hmay] at hstep
    cases hserver : history.server.step event with
    | error stop => simp [hserver] at hstep
    | ok server =>
        simp only [hserver, Except.ok.injEq] at hstep
        exact ⟨hmay, server, rfl, hstep.symm⟩
  · rw [if_neg hmay] at hstep
    contradiction

/-- What the loop does between two steps of the threads. -/
theorem sameRun_of_loop
    {history next : ExitHistory long} {event : ExitEvent}
    (hloop : ∀ thread, event ≠ .thread thread)
    (hstep : history.step event = .ok next) : history.SameRun next := by
  cases event with
  | thread event => exact absurd rfl (hloop event)
  | loop event =>
      rw [step] at hstep
      split_ifs at hstep
      cases hworld : history.server.world.step event with
      | error stop => simp [hworld] at hstep
      | ok world =>
          simp only [hworld, Except.ok.injEq] at hstep
          subst hstep
          exact ⟨ThreadServer.sameWorkers_of_eq rfl rfl, rfl, rfl⟩
  | write =>
      rw [step] at hstep
      split_ifs at hstep
      cases hstep
      exact ⟨ThreadServer.sameWorkers_of_eq rfl rfl, rfl, rfl⟩
  | writeCallback =>
      rw [step] at hstep
      split_ifs at hstep
      cases hstep
      exact ⟨ThreadServer.sameWorkers_of_eq rfl rfl, rfl, rfl⟩

theorem sameRun_of_thread
    {history next : ExitHistory long} {event : ThreadEvent}
    (hworker : event.isWorker = false) (hcreates : event.creates = false)
    (hstep : history.step (.thread event) = .ok next) :
    history.SameRun next := by
  obtain ⟨_, server, hserver, rfl⟩ := thread_step_eq_ok hstep
  refine ⟨ThreadServer.sameWorkers_of_step hworker hcreates hserver, ?_, ?_⟩
  · exact if_neg (by simp [hcreates])
  · cases event with
    | start ip port db cfg create =>
        have hcreate : create ≠ 0 := by simpa [ThreadEvent.creates] using hcreates
        exact if_neg hcreate
    | worker => contradiction
    | _ => rfl

theorem outcomeAfter_of_creates
    (history : ExitHistory long) {event : ThreadEvent}
    (hcreates : event.creates = true) : history.outcomeAfter event = .new := by
  cases event with
  | start ip port db cfg create =>
      have hcreate : create = 0 := by simpa [ThreadEvent.creates] using hcreates
      exact if_pos hcreate
  | _ => contradiction

theorem kept_of_start
    {history next : ExitHistory long} {event : ThreadEvent}
    (hcreates : event.creates = true)
    (hstep : history.step (.thread event) = .ok next) :
    next.Kept ∧ next.EndedIdle := by
  obtain ⟨_, server, hserver, rfl⟩ := thread_step_eq_ok hstep
  obtain ⟨hfresh, hphase⟩ := ThreadServer.workers_of_creates hcreates hserver
  have hnew : ∀ name phase, name + 1 = server.workers.fresh →
      server.phase? name = some phase → phase = .callInitialize := by
    intro name phase hnewest hget
    rw [hfresh] at hnewest
    rw [hphase, if_pos (Nat.add_right_cancel hnewest)] at hget
    exact (Option.some.inj hget).symm
  refine ⟨⟨?_, ?_⟩, ?_⟩
  · intro _ name hnewest phase hget
    cases hnew name phase hnewest hget
    rw [history.outcomeAfter_of_creates hcreates]
    exact .created
  · intro halone name hother phase hget
    have hall : history.server.workers.objects.all
        (·.phase = .returned) = true := by
      simpa [hcreates] using halone
    have hne : name ≠ history.server.workers.fresh := by
      rintro rfl
      exact hother hfresh.symm
    have hbefore : history.server.phase? name = some phase := by
      rw [← hget, hphase, if_neg hne]
    exact history.server.returned_of_all hall hbefore
  · intro _ name hnewest hreturned
    exact absurd (hnew name .returned hnewest hreturned) (by simp)

/-- What a step of a worker is, where the others have returned. -/
structure WorkerSteps (history : ExitHistory long) (name : ℕ)
    (phase later : WorkerPhase) (next : ExitHistory long) : Prop where
  newest : name + 1 = history.server.workers.fresh
  before : history.server.phase? name = some phase
  fresh : next.server.workers.fresh = history.server.workers.fresh
  after : ∀ other, next.server.phase? other =
    if other = name then some later else history.server.phase? other
  fits : Fits long later next.outcome next.server.exitCode
  returns : later = .returned →
    (∃ result, phase = .storeResult result) ∨ next.outcome.loop = none
  loop : ∀ result, phase = .storeResult result →
    later = .returned ∧ next.outcome = history.outcome

theorem workerSteps_of_step
    {history next : ExitHistory long} {name : ℕ} {answers : WorkerAnswers}
    (hkept : history.Kept) (halone : history.alone = true)
    (hstep : history.step (.thread (.worker name answers)) = .ok next) :
    ∃ phase later, history.WorkerSteps name phase later next := by
  obtain ⟨hmay, server, hserver, rfl⟩ := thread_step_eq_ok hstep
  cases ThreadServer.moves_of_step hserver with
  | @worker _ _ this worker _ later hthis hget _ hmoves =>
      have hphase : history.server.phase? name = some worker.phase := by
        rw [ThreadServer.phase?, hget, Option.map_some]
      have hnewest : name + 1 = history.server.workers.fresh := by
        by_contra hother
        have hreturned := hkept.others halone name hother worker.phase hphase
        have hgoes := hmoves.goes
        rw [hreturned] at hgoes
        generalize server.exitCode = code at hgoes
        cases hgoes
      have houtcome : history.outcomeAfter (.worker name answers) =
          history.outcome.after history.server history.left answers
            worker.phase := by
        simp only [outcomeAfter, if_pos hnewest, hphase]
      have hreturns : worker.phase = .serving →
          answers.run = decide (0 < history.left) := by
        intro hserving
        have hboth : history.mayReturn answers.run = true := by
          simpa [mayTake, hphase, hserving] using hmay
        rw [mayReturn, Bool.and_eq_true] at hboth
        exact of_decide_eq_true hboth.2
      have hfits := hkept.newest halone name hnewest worker.phase hphase
      refine ⟨worker.phase, later, hnewest, hphase, ?_, hmoves.phase?_eq hget,
        ?_, ?_, ?_⟩
      · change server.workers.fresh = _
        rw [hmoves.workers, Arena.fresh_modify]
      · rw [houtcome]
        exact hfits.after hthis hmoves.goes hreturns
      · rintro rfl
        rw [houtcome]
        exact hfits.loop_of_returns hmoves.goes
      · intro result hresult
        rw [houtcome, hresult]
        have hgoes := hmoves.goes
        rw [hresult] at hgoes
        generalize server.exitCode = code at hgoes
        cases hgoes
        exact ⟨rfl, rfl⟩

theorem WorkerSteps.kept
    {history next : ExitHistory long} {name : ℕ} {phase later : WorkerPhase}
    (hsteps : history.WorkerSteps name phase later next)
    (hothers : ∀ other, other + 1 ≠ history.server.workers.fresh →
      ∀ phase, history.server.phase? other = some phase → phase = .returned) :
    next.Kept := by
  constructor
  · intro _ other hother phase hget
    rw [hsteps.fresh, ← hsteps.newest] at hother
    rw [hsteps.after, if_pos (Nat.add_right_cancel hother)] at hget
    cases hget
    exact hsteps.fits
  · intro _ other hother phase hget
    rw [hsteps.fresh] at hother
    have hne : other ≠ name := by
      rintro rfl
      exact hother hsteps.newest
    rw [hsteps.after, if_neg hne] at hget
    exact hothers other hother phase hget

theorem WorkerSteps.endedIdle_iff
    {history next : ExitHistory long} {name : ℕ} {phase later : WorkerPhase}
    (hsteps : history.WorkerSteps name phase later next)
    (halone : history.alone = true) (hnext : next.alone = true)
    (answers : WorkerAnswers) :
    next.EndedIdle ↔ history.StopsIdle (.thread (.worker name answers)) := by
  have hnewest : name + 1 = next.server.workers.fresh :=
    hsteps.newest.trans hsteps.fresh.symm
  have hname : next.server.phase? name = some later := by
    rw [hsteps.after, if_pos rfl]
  constructor
  · intro hidle _ _ result hphase ended hended
    have hresult : phase = .storeResult result :=
      Option.some.inj (hsteps.before.symm.trans hphase)
    obtain ⟨rfl, houtcome⟩ := hsteps.loop result hresult
    exact hidle hnext name hnewest hname ended (houtcome ▸ hended)
  · intro hstops _ other hother hreturned ended hended
    have heq : other = name :=
      Nat.add_right_cancel (hother.trans hnewest.symm)
    rw [heq, hname] at hreturned
    cases hreturned
    obtain ⟨result, hresult⟩ | hnone := hsteps.returns rfl
    · obtain ⟨_, houtcome⟩ := hsteps.loop result hresult
      rw [houtcome] at hended
      exact hstops halone hsteps.newest result (hresult ▸ hsteps.before) ended
        hended
    · rw [hnone] at hended
      contradiction

theorem step_kept_of_worker
    {history next : ExitHistory long} {name : ℕ} {answers : WorkerAnswers}
    (hkept : history.Kept)
    (hstep : history.step (.thread (.worker name answers)) = .ok next) :
    next.Kept ∧
      (next.EndedIdle ↔ history.StopsIdle (.thread (.worker name answers))) := by
  have hsame : next.alone = history.alone := by
    obtain ⟨_, _, _, rfl⟩ := thread_step_eq_ok hstep
    rfl
  cases halone : history.alone with
  | false =>
      have hnext : next.alone ≠ true := by simp [hsame, halone]
      have hbefore : history.alone ≠ true := by simp [halone]
      have hkeptNext : next.Kept :=
        ⟨fun halone => absurd halone hnext, fun halone => absurd halone hnext⟩
      exact ⟨hkeptNext, iff_of_true (fun halone => absurd halone hnext)
        (fun halone => absurd halone hbefore)⟩
  | true =>
      have hnext : next.alone = true := hsame.trans halone
      obtain ⟨_, _, hsteps⟩ := workerSteps_of_step hkept halone hstep
      exact ⟨hsteps.kept (hkept.others halone),
        hsteps.endedIdle_iff halone hnext answers⟩

/-- A step keeps the invariant, and it keeps the promise exactly if it meets the
condition. -/
theorem step_kept
    {history next : ExitHistory long} {event : ExitEvent}
    (hkept : history.Kept) (hstep : history.step event = .ok next) :
    next.Kept ∧ (history.EndedIdle →
      (next.EndedIdle ↔ history.StopsIdle event)) := by
  have hsame : history.SameRun next → history.StopsIdle event →
      next.Kept ∧ (history.EndedIdle →
        (next.EndedIdle ↔ history.StopsIdle event)) := by
    intro hsame hmeets
    refine ⟨hsame.kept hkept, ?_⟩
    intro hidle
    exact iff_of_true (hsame.endedIdle_iff.mpr hidle) hmeets
  cases event with
  | thread event =>
      cases hworker : event.isWorker with
      | true =>
          cases event with
          | worker name answers =>
              obtain ⟨hnext, hiff⟩ := step_kept_of_worker hkept hstep
              exact ⟨hnext, fun _ => hiff⟩
          | _ => contradiction
      | false =>
          have hmeets : history.StopsIdle (.thread event) := by
            cases event with
            | worker => contradiction
            | _ => trivial
          cases hcreates : event.creates with
          | true =>
              obtain ⟨hnext, hnextIdle⟩ := kept_of_start hcreates hstep
              exact ⟨hnext, fun _ => iff_of_true hnextIdle hmeets⟩
          | false =>
              exact hsame (sameRun_of_thread hworker hcreates hstep) hmeets
  | _ => exact hsame (sameRun_of_loop (by simp) hstep) trivial

/-! ## Whole runs -/

theorem step_preserves_kept :
    Preserves step (fun _ => True)
      fun history : ExitHistory long => history.Kept := by
  intro history event next hkept _ hstep
  exact (step_kept hkept hstep).1

theorem step_tells_iff
    {history next : ExitHistory long} {event : ExitEvent}
    (hkept : history.Kept) (htells : history.Tells)
    (hstep : history.step event = .ok next) :
    next.Tells ↔ history.StopsIdle event := by
  obtain ⟨hnext, hiff⟩ := step_kept hkept hstep
  rw [hnext.tells_iff]
  exact hiff (hkept.tells_iff.mp htells)

theorem new_kept (long : ULong) (defaultPort : ℤ) (udp : Bool) :
    (new long defaultPort udp).Kept := by
  constructor
  · intro _ name hnewest
    simp [new, ThreadServer.new, Arena.empty, Arena.fresh] at hnewest
  · intro _ name _ phase hphase
    simp [new, ThreadServer.new, ThreadServer.phase?] at hphase

theorem new_tells (long : ULong) (defaultPort : ℤ) (udp : Bool) :
    (new long defaultPort udp).Tells := by
  intro _ name _ _ code hcode
  simp [new, WorkerOutcome.new, WorkerOutcome.exitCode?] at hcode

/-- However many clients and requests are left when the loop of a worker ends,
its exit code is that of a success or `ERROR_UNKNOWN`. -/
theorem exitCode_of_loop
    {defaultPort : ℤ} {udp : Bool} {events : List ExitEvent}
    {final : ExitHistory long}
    (hrun : run step (new long defaultPort udp) events = .ok final)
    (halone : final.alone = true) {name : ℕ}
    (hnewest : name + 1 = final.server.workers.fresh)
    (hreturned : final.server.phase? name = some .returned) {ended : LoopEnd}
    (hloop : final.outcome.loop = some ended) :
    final.server.getExitCode =
      (if ended.left = 0 then EErrorCodes.none else .unknown).value long := by
  have hkept := step_preserves_kept.run (new_kept long defaultPort udp)
    (fun _ _ => trivial) hrun
  have hfits := hkept.newest halone name hnewest .returned hreturned
  exact hfits.exitCode_of_loop hloop

/-- In every state of a run the exit code tells what the newest worker met with
if and only if no worker stores the result of a loop that `Stop` ended with
handles or requests still active. -/
theorem tells_iff_stopsIdle
    (long : ULong) (defaultPort : ℤ) (udp : Bool) (events : List ExitEvent)
    (final : ExitHistory long)
    (hrun : run step (new long defaultPort udp) events = .ok final) :
    HoldsThroughout step Tells (new long defaultPort udp) events ↔
      StepsMeet step StopsIdle (new long defaultPort udp) events :=
  step_preserves_kept.holdsThroughout_iff_stepsMeet
    (fun _ _ _ hkept htells _ hstep => step_tells_iff hkept htells hstep)
    (new_kept long defaultPort udp) (new_tells long defaultPort udp)
    (fun _ _ => trivial) hrun

/-- A client is connected when the server is stopped. -/
def stopsWithClient : List ExitEvent :=
  [.thread (.allocBuffer []), .thread (.start 0 0 none [] 0), .thread .caller,
    .thread (.worker 0 .success), .thread (.worker 0 .success),
    .thread (.worker 0 .success), .thread (.worker 0 .success),
    .thread (.worker 0 .success), .thread (.worker 0 .success),
    .loop (.newConnection 0 0 0), .loop (.newConnectionReturn true 0),
    .thread .stop, .thread .caller, .thread .caller, .thread .caller,
    .thread (.worker 0 { WorkerAnswers.success with run := true }),
    .thread (.worker 0 .success)]

theorem tells_iff_stopsIdle_stopsWithClient :
    ∃ final, run step (new .lp64 0 false) stopsWithClient = .ok final ∧
      (HoldsThroughout step Tells (new .lp64 0 false) stopsWithClient ↔
        StepsMeet step StopsIdle (new .lp64 0 false) stopsWithClient) :=
  ⟨_, rfl, tells_iff_stopsIdle .lp64 0 false stopsWithClient _ rfl⟩

/-- `Initialize` and `Bind` succeeded, `Stop` ended the loop, and `GetExitCode`
returns `ERROR_UNKNOWN`. -/
theorem unknown_after_stop :
    ∃ final, run step (new .lp64 0 false) stopsWithClient = .ok final ∧
      final.outcome.exitCode? .lp64 = some (EErrorCodes.none.value .lp64) ∧
      final.server.getExitCode = EErrorCodes.unknown.value .lp64 ∧
      ¬ HoldsThroughout step Tells (new .lp64 0 false) stopsWithClient := by
  refine ⟨_, rfl, by decide, by decide, ?_⟩
  intro htells
  have hcode := htells stopsWithClient (List.prefix_refl _) _ rfl (by decide) 0
    (by decide) (by decide) (EErrorCodes.none.value .lp64) (by decide)
  exact absurd hcode (by decide)

end ExitHistory

end MDK
