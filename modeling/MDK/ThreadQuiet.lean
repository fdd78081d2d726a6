import MDK.ThreadProgress

/-!
# After Stop

Where each `Start` that creates a worker finds `m_lpThread` NULL, nothing of the
object runs any more once `Stop` has returned: no worker, no callback of the loop
and none of a write.  What the last worker left in the exit code, in the handles
and in the requests stays until the next `Start` that creates a worker.
-/

namespace MDK

open StepSystem

variable {long : ULong}

/-! ## What a worker leaves -/

def ExitEvent.creates : ExitEvent → Bool
  | .thread event => event.creates
  | _ => false

/-- What the caller does outside of the steps of `Start` and `Stop`. -/
def ExitEvent.isOfCaller : ExitEvent → Bool
  | .thread (.start _ _ _ _ _) => true
  | .thread .stop => true
  | .thread .destroy => true
  | .thread (.allocBuffer _) => true
  | .thread (.writeBuffer _ _) => true
  | _ => false

namespace ExitHistory

/-- No thread of the object runs, and the caller is in no call. -/
structure Quiet (history : ExitHistory long) : Prop where
  idle : history.server.caller = .idle
  noThread : history.server.lpThread = none
  returned : ∀ name phase, history.server.phase? name = some phase →
    phase = .returned

theorem quiet_of_serial
    {history : ExitHistory long} (hserial : history.server.Serial)
    (hidle : history.server.caller = .idle)
    (hthread : history.server.lpThread = none) : history.Quiet where
  idle := hidle
  noThread := hthread
  returned name phase hget := by
    have hcurrent : history.server.current = none := by
      rw [ThreadServer.current_of_lpThread (by rw [hidle]; rfl), hthread]
    obtain hreturned | hname := hserial.alone name phase hget
    · exact hreturned
    · rw [hcurrent] at hname
      contradiction

/-- At every moment the newest worker runs alone. -/
structure InTurn (history : ExitHistory long) : Prop where
  serial : history.server.Serial
  alone : history.alone = true
  kept : history.Kept

theorem Quiet.all_returned
    {history : ExitHistory long} (hquiet : history.Quiet) :
    history.server.workers.objects.all (·.phase = .returned) = true := by
  rw [List.all_eq_true]
  intro worker hmem
  obtain ⟨name, hget⟩ := List.mem_iff_getElem?.mp hmem
  have hphase : history.server.phase? name = some worker.phase :=
    Option.map_eq_some_iff.mpr ⟨worker, hget, rfl⟩
  exact decide_eq_true (hquiet.returned name worker.phase hphase)

theorem idle_of_creates
    {server next : ThreadServer long} {event : ThreadEvent}
    (hcreates : event.creates = true) (hstep : server.step event = .ok next) :
    server.caller = .idle := by
  cases ThreadServer.moves_of_step hstep with
  | startFails _ hcreate => simp [ThreadEvent.creates, hcreate] at hcreates
  | starts hidle => exact (ThreadHistory.caller_of_isIdle hidle).1
  | _ => contradiction

theorem InTurn.step
    {history next : ExitHistory long} {event : ExitEvent}
    (hinTurn : history.InTurn) (hstarts : history.StartsWithoutThread event)
    (hstep : history.step event = .ok next) : next.InTurn where
  serial := serial_of_step hinTurn.serial hstarts hstep
  alone := by
    cases event with
    | thread event =>
        obtain ⟨_, server, hserver, rfl⟩ := thread_step_eq_ok hstep
        cases hcreates : event.creates with
        | false => simp [hinTurn.alone]
        | true =>
            have hquiet := quiet_of_serial hinTurn.serial
              (idle_of_creates hcreates hserver) (hstarts hcreates)
            simpa using hquiet.all_returned
    | _ => exact (sameRun_of_loop (by simp) hstep).alone.trans hinTurn.alone
  kept := (step_kept hinTurn.kept hstep).1

theorem InTurn.fits
    {history : ExitHistory long} (hinTurn : history.InTurn)
    (hquiet : history.Quiet) (hcreated : history.server.workers.fresh ≠ 0) :
    Fits long .returned history.outcome history.server.exitCode := by
  obtain ⟨name, hname⟩ := Nat.exists_eq_succ_of_ne_zero hcreated
  have hlt : name < history.server.workers.objects.length := by
    have hlength : history.server.workers.objects.length = name + 1 := hname
    omega
  have hget : history.server.phase? name =
      some history.server.workers.objects[name].phase :=
    Option.map_eq_some_iff.mpr ⟨_, List.getElem?_eq_getElem hlt, rfl⟩
  have hreturned := hquiet.returned name _ hget
  rw [hreturned] at hget
  exact hinTurn.kept.newest hinTurn.alone name hname.symm .returned hget

/-! ## Quiet steps -/

/-- What the last worker left is as it was. -/
structure Untouched (history next : ExitHistory long) : Prop where
  world : next.server.world = history.server.world
  requests : next.requests = history.requests
  exitCode : next.server.getExitCode = history.server.getExitCode
  outcome : next.outcome = history.outcome

theorem Quiet.not_served
    {history : ExitHistory long} (hquiet : history.Quiet) :
    history.server.isServed = false := by
  rw [ThreadServer.isServed, List.any_eq_false]
  intro worker hmem
  have hreturned := List.all_eq_true.mp hquiet.all_returned worker hmem
  simp [of_decide_eq_true hreturned]

theorem Quiet.thread_notEnabled
    {history : ExitHistory long} (hquiet : history.Quiet) {event : ThreadEvent}
    (hevent : (ExitEvent.thread event).isOfCaller = false)
    (next : ThreadServer long) : history.server.step event ≠ .ok next := by
  intro hstep
  cases ThreadServer.moves_of_step hstep with
  | storesThread hcaller => simp [hquiet.idle] at hcaller
  | testsSockType _ hcaller => simp [hquiet.idle] at hcaller
  | recvStops _ hcaller => simp [hquiet.idle] at hcaller
  | closes _ hcaller => simp [hquiet.idle] at hcaller
  | uvStops hcaller => simp [hquiet.idle] at hcaller
  | joins hcaller => simp [hquiet.idle] at hcaller
  | frees hcaller => simp [hquiet.idle] at hcaller
  | @worker name _ _ worker _ _ _ hget hworker =>
      have hphase : history.server.phase? name = some worker.phase :=
        Option.map_eq_some_iff.mpr ⟨worker, hget, rfl⟩
      rw [hquiet.returned name worker.phase hphase] at hworker
      contradiction
  | closeCallback hserved => simp [hquiet.not_served] at hserved
  | _ => contradiction

/-- Neither a thread nor a callback can take a step. -/
theorem Quiet.notEnabled
    {history : ExitHistory long} (hquiet : history.Quiet) {event : ExitEvent}
    (hevent : event.isOfCaller = false) :
    history.step event = .error .notEnabled := by
  cases event with
  | thread event =>
      cases hserver : history.server.step event with
      | error stop => simp [ExitHistory.step, hserver]
      | ok next => exact absurd hserver (hquiet.thread_notEnabled hevent next)
  | loop event => simp [ExitHistory.step, hquiet.not_served]
  | write => simp [ExitHistory.step, hquiet.not_served]
  | writeCallback => simp [ExitHistory.step, hquiet.not_served]

theorem Quiet.step
    {history next : ExitHistory long} {event : ExitEvent}
    (hquiet : history.Quiet) (hcreates : event.creates = false)
    (hstep : history.step event = .ok next) :
    next.Quiet ∧ history.Untouched next := by
  cases hcaller : event.isOfCaller with
  | false =>
      rw [hquiet.notEnabled hcaller] at hstep
      contradiction
  | true =>
      cases event with
      | thread event =>
          have hworker : event.isWorker = false := by
            cases event with
            | worker => contradiction
            | _ => rfl
          have hsame := sameRun_of_thread hworker hcreates hstep
          obtain ⟨_, server, hserver, rfl⟩ := thread_step_eq_ok hstep
          have hkeeps : server.world = history.server.world ∧
              server.caller = .idle ∧ server.lpThread = none := by
            cases ThreadServer.moves_of_step hserver with
            | starts _ _ hcreate =>
                simp [ExitEvent.creates, ThreadEvent.creates, hcreate]
                  at hcreates
            | stops _ hthread => simp [hquiet.noThread] at hthread
            | destroys _ hthread => simp [hquiet.noThread] at hthread
            | startFails => exact ⟨rfl, hquiet.idle, hquiet.noThread⟩
            | stopsNothing => exact ⟨rfl, hquiet.idle, hquiet.noThread⟩
            | destroysNothing => exact ⟨rfl, hquiet.idle, hquiet.noThread⟩
            | allocBuffer => exact ⟨rfl, hquiet.idle, hquiet.noThread⟩
            | writeBuffer => exact ⟨rfl, hquiet.idle, hquiet.noThread⟩
            | _ => contradiction
          refine ⟨⟨hkeeps.2.1, hkeeps.2.2, ?_⟩,
            ⟨hkeeps.1, rfl, hsame.workers.exitCode, hsame.outcome⟩⟩
          intro name phase hget
          rw [hsame.workers.phase?] at hget
          exact hquiet.returned name phase hget
      | _ => contradiction

theorem Untouched.trans
    {history next later : ExitHistory long} (hfirst : history.Untouched next)
    (hsecond : next.Untouched later) : history.Untouched later where
  world := hsecond.world.trans hfirst.world
  requests := hsecond.requests.trans hfirst.requests
  exitCode := hsecond.exitCode.trans hfirst.exitCode
  outcome := hsecond.outcome.trans hfirst.outcome

/-! ## Whole runs -/

end ExitHistory

end MDK
