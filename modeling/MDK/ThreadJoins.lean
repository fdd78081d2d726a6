import MDK.ThreadSlot
import MDK.ThreadSteps

/-!
# Who joins a worker

`m_lpThread` is the only place where `CThreadServer` keeps a thread, and `Start`
overwrites it.  A history records the blocks and the threads of all its calls;
its steps are those of one slot for many threads.
-/

namespace MDK

open StepSystem

/-- `attempts` counts the calls of `Start` that created no thread. -/
structure ThreadHistory (long : ULong) where
  server : ThreadServer long
  attempts : ℕ
  calls : List ThreadCall

variable {long : ULong}

/-- What a step of the caller does to threads and their blocks. -/
def ThreadServer.threadCalls (server : ThreadServer long) (attempts : ℕ) :
    ThreadEvent → List ThreadCall
  | .start _ _ _ _ create =>
      if create ≠ 0 then [.malloc (.failed attempts), .free (.failed attempts)]
      else
        [.malloc (.worker server.workers.fresh), .create server.workers.fresh]
  | .caller =>
      match server.caller, server.lpThread with
      | .join, some thread => [.join thread]
      | .freeThread, some thread => [.free (.worker thread)]
      | _, _ => []
  | _ => []

def ThreadEvent.failedStarts : ThreadEvent → ℕ
  | .start _ _ _ _ create => if create ≠ 0 then 1 else 0
  | _ => 0

def CallerPhase.storing? : CallerPhase → Option ℕ
  | .storeThread thread => some thread
  | _ => none

/-- The caller is inside of `Stop`. -/
def CallerPhase.isStopping : CallerPhase → Bool
  | .idle => false
  | .storeThread _ => false
  | .testSockType => true
  | .recvStop => true
  | .close => true
  | .uvStop => true
  | .join => true
  | .freeThread => true

/-- The caller is not between creating or joining a thread and its next store to
`m_lpThread`. -/
def CallerPhase.isCalm : CallerPhase → Bool
  | .storeThread _ => false
  | .freeThread => false
  | _ => true

theorem CallerPhase.storing?_of_isCalm
    {phase : CallerPhase} (hcalm : phase.isCalm = true) :
    phase.storing? = none ∧ phase ≠ .freeThread := by
  cases phase with
  | storeThread thread => contradiction
  | freeThread => contradiction
  | _ => exact ⟨rfl, by simp⟩

namespace ThreadHistory

def new (long : ULong) (defaultPort : ℤ) (udp : Bool) : ThreadHistory long :=
  ⟨ThreadServer.new long defaultPort udp, 0, []⟩

def step (history : ThreadHistory long) (event : ThreadEvent) :
    Except ThreadStop (ThreadHistory long) :=
  match history.server.step event with
  | .error stop => .error stop
  | .ok next =>
      .ok {
        server := next
        attempts := history.attempts + event.failedStarts
        calls := history.calls ++
          history.server.threadCalls history.attempts event }

/-- The destructor has returned. -/
def Destroyed (history : ThreadHistory long) : Prop :=
  history.server.destroying = true ∧ history.server.caller = .idle

/-- The condition on one step: `Start` creates a thread only while
`m_lpThread` is NULL. -/
def StartsWithoutThread (history : ThreadHistory long) : ThreadEvent → Prop
  | .start _ _ _ _ create => create = 0 → history.server.lpThread = none
  | _ => True

/-- `m_lpThread` as the slot of the threads. -/
def slot (history : ThreadHistory long) : ThreadSlot where
  stored := history.server.lpThread
  storing := history.server.caller.storing?
  releasing := history.server.caller = .freeThread
  created := history.server.workers.fresh
  attempts := history.attempts
  calls := history.calls

/-- In the destructor the caller is in `Stop`, or has left it. -/
def EndsStopped (history : ThreadHistory long) : Prop :=
  history.server.destroying = true →
    history.server.caller = .idle ∧ history.server.lpThread = none ∨
      history.server.caller.isStopping = true

theorem step_eq_ok
    {history next : ThreadHistory long} {event : ThreadEvent}
    (hstep : history.step event = .ok next) :
    ∃ server, history.server.step event = .ok server ∧
      next = {
        server := server
        attempts := history.attempts + event.failedStarts
        calls := history.calls ++
          history.server.threadCalls history.attempts event } := by
  unfold step at hstep
  cases hserver : history.server.step event with
  | error stop => simp [hserver] at hstep
  | ok server =>
      simp only [hserver, Except.ok.injEq] at hstep
      exact ⟨server, rfl, hstep.symm⟩

theorem caller_of_isIdle
    {server : ThreadServer long} (hidle : server.isIdle = true) :
    server.caller = .idle ∧ server.destroying = false := by
  simpa [ThreadServer.isIdle] using hidle

/-! ## The steps are those of a slot -/

/-- A step that does nothing to threads and their blocks. -/
theorem slot_keep
    {history next : ThreadHistory long}
    (hstored : next.server.lpThread = history.server.lpThread)
    (hcaller : next.server.caller = history.server.caller ∨
      history.server.caller.isCalm = true ∧ next.server.caller.isCalm = true)
    (hcreated : next.server.workers.fresh = history.server.workers.fresh)
    (hattempts : next.attempts = history.attempts)
    (hcalls : next.calls = history.calls) : next.slot = history.slot := by
  have hphase : next.server.caller.storing? =
        history.server.caller.storing? ∧
      (next.server.caller = .freeThread ↔
        history.server.caller = .freeThread) := by
    obtain heq | ⟨hbefore, hafter⟩ := hcaller
    · rw [heq]
      exact ⟨rfl, Iff.rfl⟩
    · obtain ⟨hnone, hne⟩ := CallerPhase.storing?_of_isCalm hbefore
      obtain ⟨hlaterNone, hlaterNe⟩ := CallerPhase.storing?_of_isCalm hafter
      exact ⟨hlaterNone.trans hnone.symm, iff_of_false hlaterNe hne⟩
  simp only [slot, hstored, hphase.1, hphase.2, hcreated, hattempts, hcalls]

theorem slot_of_start
    {history next : ThreadHistory long} {ip : ℕ} {port : ℤ} {db : Pointer}
    {cfg : ModuleConfigMap} {create : ℤ}
    (hstep : history.step (.start ip port db cfg create) = .ok next) :
    history.slot.storing = none ∧ history.slot.releasing = false ∧
      next.slot = if create = 0 then history.slot.create
        else history.slot.attempt := by
  obtain ⟨server, hserver, rfl⟩ := step_eq_ok hstep
  cases ThreadServer.moves_of_step hserver with
  | startFails hidle hcreate =>
      obtain ⟨hcaller, _⟩ := caller_of_isIdle hidle
      simp [slot, hcaller, CallerPhase.storing?, hcreate, ThreadSlot.attempt,
        ThreadServer.prepare, ThreadServer.threadCalls,
        ThreadEvent.failedStarts]
  | starts hidle _ hcreate =>
      obtain ⟨hcaller, _⟩ := caller_of_isIdle hidle
      simp [slot, hcaller, CallerPhase.storing?, hcreate, ThreadSlot.create,
        ThreadServer.prepare, ThreadServer.createThread,
        ThreadServer.threadCalls, ThreadEvent.failedStarts]

/-- The caller does something to a thread only when it joins or frees it. -/
theorem threadCalls_caller_of_ne
    {server : ThreadServer long} (hjoin : server.caller ≠ .join)
    (hfree : server.caller ≠ .freeThread) (attempts : ℕ) :
    server.threadCalls attempts .caller = [] := by
  unfold ThreadServer.threadCalls
  cases hcaller : server.caller with
  | join => contradiction
  | freeThread => contradiction
  | _ => rfl

theorem slotStep_of_step
    {history next : ThreadHistory long} {event : ThreadEvent}
    (hstart : event.isStart = false) (hstep : history.step event = .ok next) :
    history.slot.Step next.slot := by
  obtain ⟨server, hserver, rfl⟩ := step_eq_ok hstep
  have hkeep : ∀ later : ThreadHistory long, later.slot = history.slot →
      history.slot.Step later.slot := by
    intro later heq
    rw [heq]
    exact .keep
  -- Inside of `Stop` most steps of the caller do nothing to a thread.
  have hquiet : ∀ later : ThreadServer long,
      history.server.caller.isCalm = true → history.server.caller ≠ .join →
      later.lpThread = history.server.lpThread →
      later.workers.fresh = history.server.workers.fresh →
      later.caller.isCalm = true →
      history.slot.Step (slot ⟨later, history.attempts + 0, history.calls ++
        history.server.threadCalls history.attempts .caller⟩) := by
    intro later hcalm hjoin hthread hfresh hlater
    refine hkeep _ (slot_keep hthread (Or.inr ⟨hcalm, hlater⟩) hfresh rfl ?_)
    obtain ⟨_, hfree⟩ := CallerPhase.storing?_of_isCalm hcalm
    rw [threadCalls_caller_of_ne hjoin hfree, List.append_nil]
  cases ThreadServer.moves_of_step hserver with
  | startFails => contradiction
  | starts => contradiction
  | stops hidle =>
      obtain ⟨hcaller, _⟩ := caller_of_isIdle hidle
      exact hkeep _ (slot_keep rfl (Or.inr ⟨by rw [hcaller]; rfl, rfl⟩) rfl rfl
        (List.append_nil _))
  | destroys hidle =>
      obtain ⟨hcaller, _⟩ := caller_of_isIdle hidle
      exact hkeep _ (slot_keep rfl (Or.inr ⟨by rw [hcaller]; rfl, rfl⟩) rfl rfl
        (List.append_nil _))
  | @storesThread thread hcaller =>
      have hstoring : history.slot.storing = some thread := by
        simp [slot, hcaller, CallerPhase.storing?]
      have hstore := ThreadSlot.Step.store hstoring
      simpa [slot, ThreadSlot.store, hcaller, CallerPhase.storing?,
        ThreadServer.threadCalls, ThreadEvent.failedStarts] using hstore
  | @testsSockType this _ hcaller =>
      have hcalm : (if this.sockType = .udp then CallerPhase.recvStop
          else .close).isCalm = true := by
        split_ifs
        · rfl
        · rfl
      exact hquiet _ (by rw [hcaller]; rfl) (by simp [hcaller]) rfl rfl hcalm
  | recvStops _ hcaller =>
      exact hquiet _ (by rw [hcaller]; rfl) (by simp [hcaller]) rfl rfl rfl
  | closes _ hcaller =>
      exact hquiet _ (by rw [hcaller]; rfl) (by simp [hcaller]) rfl rfl rfl
  | uvStops hcaller =>
      exact hquiet _ (by rw [hcaller]; rfl) (by simp [hcaller]) rfl rfl rfl
  | @joins thread _ hcaller hthread _ _ =>
      have hstoring : history.slot.storing = none := by
        simp [slot, hcaller, CallerPhase.storing?]
      have hreleasing : history.slot.releasing = false := by
        simp [slot, hcaller]
      have hjoin := ThreadSlot.Step.join hthread hstoring hreleasing
      simpa [slot, ThreadSlot.join, hcaller, hthread, CallerPhase.storing?,
        ThreadServer.threadCalls, ThreadEvent.failedStarts,
        ThreadServer.modifyWorker] using hjoin
  | @frees thread hcaller hthread =>
      have hstoring : history.slot.storing = none := by
        simp [slot, hcaller, CallerPhase.storing?]
      have hreleasing : history.slot.releasing = true := by
        simp [slot, hcaller]
      have hrelease := ThreadSlot.Step.release hthread hstoring hreleasing
      simpa [slot, ThreadSlot.release, hcaller, hthread, CallerPhase.storing?,
        ThreadServer.threadCalls, ThreadEvent.failedStarts,
        ThreadServer.modifyWorker] using hrelease
  | worker _ _ _ hmoves =>
      have hmembers := hmoves.callerMembers
      have hstored := congrArg ThreadServer.CallerMembers.lpThread hmembers
      have hcaller := congrArg ThreadServer.CallerMembers.caller hmembers
      have hcreated : server.workers.fresh = history.server.workers.fresh := by
        rw [hmoves.workers, Arena.fresh_modify]
      exact hkeep _ (slot_keep hstored (Or.inl hcaller) hcreated rfl
        (List.append_nil _))
  | _ => exact hkeep _ (slot_keep rfl (Or.inl rfl) rfl rfl (List.append_nil _))

/-! ## One step -/

theorem endsStopped_of_step
    {history next : ThreadHistory long} {event : ThreadEvent}
    (hends : history.EndsStopped) (hstep : history.step event = .ok next) :
    next.EndsStopped := by
  obtain ⟨server, hserver, rfl⟩ := step_eq_ok hstep
  intro hdestroying
  cases ThreadServer.moves_of_step hserver with
  | startFails hidle =>
      obtain ⟨_, halive⟩ := caller_of_isIdle hidle
      exact absurd (halive.symm.trans hdestroying) (by simp)
  | starts hidle =>
      obtain ⟨_, halive⟩ := caller_of_isIdle hidle
      exact absurd (halive.symm.trans hdestroying) (by simp)
  | stops => exact Or.inr rfl
  | destroysNothing hidle hthread =>
      exact Or.inl ⟨(caller_of_isIdle hidle).1, hthread⟩
  | destroys => exact Or.inr rfl
  | storesThread hcaller =>
      obtain ⟨hidle, _⟩ | hstopping := hends hdestroying
      · rw [hcaller] at hidle
        contradiction
      · rw [hcaller] at hstopping
        contradiction
  | @testsSockType this _ _ =>
      right
      change (if this.sockType = .udp then CallerPhase.recvStop
        else .close).isStopping = true
      split_ifs
      · rfl
      · rfl
  | recvStops => exact Or.inr rfl
  | closes => exact Or.inr rfl
  | uvStops => exact Or.inr rfl
  | joins => exact Or.inr rfl
  | frees => exact Or.inl ⟨rfl, rfl⟩
  | worker _ _ _ hmoves =>
      have hmembers := hmoves.callerMembers
      have hthread := congrArg ThreadServer.CallerMembers.lpThread hmembers
      have hcaller := congrArg ThreadServer.CallerMembers.caller hmembers
      have hsame := congrArg ThreadServer.CallerMembers.destroying hmembers
      obtain ⟨hidle, hnone⟩ | hstopping := hends (hsame.symm.trans hdestroying)
      · exact Or.inl ⟨hcaller.trans hidle, hthread.trans hnone⟩
      · right
        change server.caller.isStopping = true
        rw [show server.caller = history.server.caller from hcaller]
        exact hstopping
  | _ => exact hends hdestroying

theorem step_slot
    {history next : ThreadHistory long} {event : ThreadEvent}
    (hbooks : history.slot.Accounted) (hstep : history.step event = .ok next) :
    next.slot.Accounted ∧ (next.slot.NoneLost ↔
      history.slot.NoneLost ∧ history.StartsWithoutThread event) := by
  cases hstart : event.isStart with
  | false =>
      have hslot := slotStep_of_step hstart hstep
      refine ⟨hslot.accounted hbooks, ?_⟩
      rw [hslot.noneLost_iff hbooks]
      refine (and_iff_left ?_).symm
      cases event with
      | start => contradiction
      | _ => trivial
  | true =>
      cases event with
      | start ip port db cfg create =>
          obtain ⟨hstoring, hreleasing, hnext⟩ := slot_of_start hstep
          rw [hnext]
          by_cases hcreate : create = 0
          · rw [if_pos hcreate]
            refine ⟨hbooks.create hreleasing, ?_⟩
            rw [ThreadSlot.noneLost_create_iff hstoring]
            simp [StartsWithoutThread, hcreate, slot]
          · rw [if_neg hcreate]
            refine ⟨hbooks.attempt, ?_⟩
            rw [ThreadSlot.Step.attempt.noneLost_iff hbooks]
            simp [StartsWithoutThread, hcreate]
      | _ => contradiction

/-! ## Whole runs -/

theorem new_slot (long : ULong) (defaultPort : ℤ) (udp : Bool) :
    (new long defaultPort udp).slot = .empty := by
  simp [new, slot, ThreadServer.new, ThreadSlot.empty, CallerPhase.storing?]
  rfl

/-- What holds in every history. -/
structure Kept (history : ThreadHistory long) : Prop where
  accounted : history.slot.Accounted
  endsStopped : history.EndsStopped

theorem step_preserves_kept :
    Preserves step (fun _ => True)
      fun history : ThreadHistory long => history.Kept := by
  intro history event next hkept _ hstep
  exact ⟨(step_slot hkept.accounted hstep).1,
    endsStopped_of_step hkept.endsStopped hstep⟩

/-- Once the destructor has returned, every thread has been joined once and
every block freed once exactly if each `Start` that created a thread found
`m_lpThread` NULL. -/
theorem eachJoinedOnce_iff
    (long : ULong) (defaultPort : ℤ) (udp : Bool) (events : List ThreadEvent)
    (final : ThreadHistory long)
    (hrun : run step (new long defaultPort udp) events = .ok final)
    (hdestroyed : final.Destroyed) :
    EachJoinedOnce final.calls ↔
      StepsMeet step StartsWithoutThread (new long defaultPort udp) events := by
  have hslot := new_slot long defaultPort udp
  have hnew : (new long defaultPort udp).Kept := by
    constructor
    · rw [hslot]
      exact ThreadSlot.empty_accounted
    · intro hdestroying
      contradiction
  have hnone : (new long defaultPort udp).slot.NoneLost := by
    rw [hslot]
    exact ThreadSlot.empty_noneLost
  have hkept := step_preserves_kept.run hnew (fun _ _ => trivial) hrun
  have hempty : final.server.lpThread = none := by
    obtain ⟨_, hempty⟩ | hstopping := hkept.endsStopped hdestroyed.1
    · exact hempty
    · rw [hdestroyed.2] at hstopping
      contradiction
  have hstoring : final.slot.storing = none := by
    simp [slot, hdestroyed.2, CallerPhase.storing?]
  calc
    EachJoinedOnce final.calls ↔ final.slot.NoneLost :=
      hkept.accounted.eachJoinedOnce_iff_noneLost hempty hstoring
    _ ↔ (new long defaultPort udp).slot.NoneLost ∧
        StepsMeet step StartsWithoutThread (new long defaultPort udp) events :=
      step_preserves_kept.run_iff_stepsMeet
        (fun history => history.slot.NoneLost) StartsWithoutThread
        (fun _ _ _ hinv _ hstep => (step_slot hinv.accounted hstep).2) hnew
        (fun _ _ => trivial) hrun
    _ ↔ StepsMeet step StartsWithoutThread (new long defaultPort udp) events :=
      and_iff_right hnone

/-- Two servers of one object: the second `Start` overwrites the thread of the
first. -/
def startsTwice : List ThreadEvent :=
  [.allocBuffer [], .start 0 0 none [] 0, .caller, .start 0 0 none [] 0,
    .caller] ++
  [.worker 1 { WorkerAnswers.success with code := 3 }, .worker 1 .success,
    .destroy] ++ List.replicate 5 .caller

theorem eachJoinedOnce_iff_startsTwice :
    ∃ final, run step (new .lp64 0 false) startsTwice = .ok final ∧
      final.Destroyed ∧
      (EachJoinedOnce final.calls ↔
        StepsMeet step StartsWithoutThread (new .lp64 0 false) startsTwice) :=
  ⟨_, rfl, ⟨rfl, rfl⟩,
    eachJoinedOnce_iff .lp64 0 false startsTwice _ rfl ⟨rfl, rfl⟩⟩

/-- The thread of the first `Start` is never joined. -/
theorem first_thread_never_joined :
    ¬ ∀ (long : ULong) (defaultPort : ℤ) (udp : Bool)
        (events : List ThreadEvent) (final : ThreadHistory long),
      run step (new long defaultPort udp) events = .ok final →
      final.Destroyed → EachJoinedOnce final.calls := by
  intro hall
  have honce := hall .lp64 0 false startsTwice _ rfl ⟨rfl, rfl⟩
  have hjoined := honce.joined 0
  revert hjoined
  decide

end ThreadHistory

end MDK
