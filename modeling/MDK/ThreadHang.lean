import MDK.ThreadProgress

/-!
# Stop hangs

One object has one loop, and the loop one stop flag.  After a second `Start` the
worker of the first one may take the stop request; the loop of the second worker
then runs on the socket it has bound itself, and the caller waits for it.
-/

namespace MDK

open StepSystem

variable {long : ULong}

/-! ## A handle that keeps the loop busy -/

/-- A bound socket that the loop waits on. -/
def Handle.isOpen (handle : Handle) : Bool :=
  handle.status = .active && (handle.listening || handle.receiving) &&
    !handle.reading

/-- The handle is open, and it is not the client of a running callback. -/
structure World.KeepsOpen (world : World) (name : ℕ) : Prop where
  isOpen : world.handleIs name Handle.isOpen = true
  notCalling : world.calling ≠ some name

theorem Handle.isOpen_iff {handle : Handle} :
    handle.isOpen = true ↔ handle.status = .active ∧
      (handle.listening = true ∨ handle.receiving = true) ∧
      handle.reading = false := by
  simp [Handle.isOpen, and_assoc]

theorem World.isOpen_of_get?
    {world next : World} {name : ℕ}
    (hopen : world.handleIs name Handle.isOpen = true)
    (hget : ∀ handle, world.handles.get? name = some handle →
      ∃ later, next.handles.get? name = some later ∧
        (handle.isOpen = true → later.isOpen = true)) :
    next.handleIs name Handle.isOpen = true := by
  obtain ⟨handle, hhandle, hisOpen⟩ := World.handleIs_iff.mp hopen
  obtain ⟨later, hlater, hkeeps⟩ := hget handle hhandle
  exact World.handleIs_iff.mpr ⟨later, hlater, hkeeps hisOpen⟩

theorem World.isOpen_of_alloc
    {world next : World} {name : ℕ} {handle : Handle}
    (hopen : world.handleIs name Handle.isOpen = true)
    (hhandles : next.handles = world.handles.alloc handle) :
    next.handleIs name Handle.isOpen = true := by
  apply World.isOpen_of_get? hopen
  intro before hget
  rw [hhandles]
  exact ⟨before, Arena.get?_alloc_of_some hget handle, id⟩

theorem World.isOpen_of_modify
    {world next : World} {name other : ℕ} {change : Handle → Handle}
    (hopen : world.handleIs name Handle.isOpen = true)
    (hhandles : next.handles = world.handles.modify other change)
    (hkeeps : name = other → ∀ handle : Handle, handle.isOpen = true →
      (change handle).isOpen = true) :
    next.handleIs name Handle.isOpen = true := by
  apply World.isOpen_of_get? hopen
  intro before hget
  rw [hhandles]
  by_cases heq : name = other
  · subst heq
    exact ⟨change before, Arena.get?_modify_self hget change, hkeeps rfl before⟩
  · exact ⟨before, by rw [Arena.get?_modify_of_ne _ _ heq, hget], id⟩

theorem World.active_of_isOpen
    {world : World} {name : ℕ}
    (hopen : world.handleIs name Handle.isOpen = true) :
    0 < world.activeHandles := by
  obtain ⟨handle, hget, hisOpen⟩ := World.handleIs_iff.mp hopen
  obtain ⟨_, hwaits, _⟩ := Handle.isOpen_iff.mp hisOpen
  apply List.countP_pos_iff.mpr
  refine ⟨handle, List.mem_of_getElem? hget, ?_⟩
  obtain hlistening | hreceiving := hwaits
  · simp [Handle.isActive, hlistening]
  · simp [Handle.isActive, hreceiving]

/-! ## Steps of the loop -/

theorem World.KeepsOpen.newConnection
    {world next : World} {name listener : ℕ} {status accept : ℤ}
    (hkeeps : world.KeepsOpen name)
    (hcallback : world.libuvCallbackOnServerTcpNewConnection listener status
      accept = .ok next) : next.KeepsOpen name := by
  obtain ⟨found, hfound, _⟩ := World.handleIs_iff.mp hkeeps.isOpen
  have hfresh := Arena.ne_fresh_of_get? hfound
  have hclient : ∀ client : Handle, ∀ change : Handle → Handle, ∀ later : World,
      later.handles =
        (world.handles.alloc client).modify world.handles.fresh change →
      later.handleIs name Handle.isOpen = true := by
    intro client change later hlater
    rw [Arena.modify_alloc_fresh] at hlater
    exact World.isOpen_of_alloc hkeeps.isOpen hlater
  unfold World.libuvCallbackOnServerTcpNewConnection at hcallback
  split at hcallback
  · contradiction
  · split at hcallback
    · cases hcallback
      exact hkeeps
    · split at hcallback
      · contradiction
      · split at hcallback
        · contradiction
        · cases hcallback
          constructor
          · split_ifs
            · exact hclient _ _ _ (Arena.modify_modify _ _ _ _)
            · exact hclient _ _ _ rfl
          · intro hcalling
            exact hfresh (Option.some.inj hcalling).symm

theorem World.KeepsOpen.closed
    {world : World} {name other : ℕ} (hkeeps : world.KeepsOpen name)
    (hne : name ≠ other) : (world.uvClose other).KeepsOpen name where
  isOpen := World.isOpen_of_modify hkeeps.isOpen rfl
    fun heq => absurd heq hne
  notCalling := hkeeps.notCalling

/-- Only a handler that closes the handle itself stops it. -/
theorem World.KeepsOpen.step
    {world next : World} {name : ℕ} {event : Event}
    (hkeeps : world.KeepsOpen name) (hclose : event ≠ .close name)
    (hloop : event.isOfLoop = true) (hstep : world.step event = .ok next) :
    next.KeepsOpen name := by
  obtain ⟨found, hfound, hisOpen⟩ := World.handleIs_iff.mp hkeeps.isOpen
  obtain ⟨hactive, _, hreading⟩ := Handle.isOpen_iff.mp hisOpen
  have hother : ∀ other is, world.handleIs other is = true →
      is found = false → name ≠ other := by
    rintro other is hother hfalse rfl
    obtain ⟨handle, hget, htrue⟩ := World.handleIs_iff.mp hother
    rw [hfound] at hget
    cases hget
    rw [hfalse] at htrue
    contradiction
  cases event with
  | construct => contradiction
  | bind => contradiction
  | newConnection listener status accept =>
      simp only [World.step] at hstep
      split_ifs at hstep
      exact hkeeps.newConnection (mapError_eq_ok_iff.mp hstep)
  | newConnectionReturn answer readStart =>
      simp only [World.step] at hstep
      cases hcalling : world.calling with
      | none => simp [hcalling] at hstep
      | some client =>
          have hne : name ≠ client := by
            rintro rfl
            exact hkeeps.notCalling hcalling
          have hidle : ({ world with calling := none } : World).KeepsOpen name :=
            ⟨hkeeps.isOpen, by simp⟩
          simp only [hcalling] at hstep
          split_ifs at hstep
          cases hstep
          unfold World.libuvCallbackOnServerTcpNewConnectionReturn
          split_ifs
          · exact hidle.closed hne
          · exact hidle.closed hne
          · exact ⟨World.isOpen_of_modify hidle.isOpen rfl
              fun heq => absurd heq hne, by simp⟩
  | tcpRead client nread buf =>
      simp only [World.step] at hstep
      split_ifs at hstep with hready
      have hne := hother client _ hready.2 hreading
      replace hstep := mapError_eq_ok_iff.mp hstep
      unfold World.libuvCallbackOnServerTcpRead at hstep
      split at hstep
      · contradiction
      · split_ifs at hstep
        · cases hstep
          exact hkeeps.closed hne
        · cases hstep
          exact hkeeps
        · split at hstep
          · contradiction
          · split at hstep
            · contradiction
            · cases hstep
              exact ⟨hkeeps.isOpen, hkeeps.notCalling⟩
  | close socket =>
      simp only [World.step] at hstep
      split_ifs at hstep
      cases hstep
      apply hkeeps.closed
      rintro rfl
      exact hclose rfl
  | closeCallback handle =>
      simp only [World.step] at hstep
      split_ifs at hstep with hready
      cases hstep
      have hne := hother handle _ hready.2 (by simp [hactive])
      exact ⟨World.isOpen_of_modify hkeeps.isOpen rfl
        fun heq => absurd heq hne, hkeeps.notCalling⟩
  | setData socket data =>
      simp only [World.step, mapError_eq_ok_iff] at hstep
      obtain ⟨_, _, _, _, _, rfl⟩ := World.setData_eq_ok hstep
      exact ⟨hkeeps.isOpen, hkeeps.notCalling⟩

/-! ## Steps of a worker -/

theorem World.KeepsOpen.workerStep
    {server next : ThreadServer long} {this : CTemplateSocket} {name : ℕ}
    {phase : WorkerPhase} {answers : WorkerAnswers} {listener : ℕ}
    (hkeeps : server.world.KeepsOpen listener)
    (hstep : server.workerStep this name phase answers = .ok next) :
    next.world.KeepsOpen listener := by
  cases phase with
  | testExitCode =>
      rw [ThreadServer.workerStep] at hstep
      split_ifs at hstep
      · cases hstep
        exact hkeeps
      · cases hstep
        exact hkeeps
  | enterBind =>
      cases hstep
      exact ⟨hkeeps.isOpen, hkeeps.notCalling⟩
  | bindHandle ip port =>
      obtain ⟨handle, calls, hworld, _⟩ := server.world.listenHandle_spec 0 this
        (server.text ip) port server.udp answers.bind
      cases hstep
      change ((server.world.listenHandle 0 this (server.text ip) port server.udp
        answers.bind).2).KeepsOpen listener
      rw [hworld]
      exact ⟨World.isOpen_of_alloc hkeeps.isOpen rfl, hkeeps.notCalling⟩
  | storeSocket handle =>
      cases hstep
      exact ⟨World.isOpen_of_modify hkeeps.isOpen rfl
        fun _ _ hisOpen => hisOpen, hkeeps.notCalling⟩
  | returned => contradiction
  | _ =>
      cases hstep
      exact hkeeps

theorem World.KeepsOpen.closeCallback
    {server : ThreadServer long} {listener handle : ℕ}
    (hkeeps : server.world.KeepsOpen listener)
    (hclosing : server.isClosing handle = true) :
    (server.world.libuvCallbackOnClose handle).KeepsOpen listener := by
  refine ⟨World.isOpen_of_modify hkeeps.isOpen rfl ?_, hkeeps.notCalling⟩
  rintro rfl
  obtain ⟨found, hfound, hisOpen⟩ := World.handleIs_iff.mp hkeeps.isOpen
  obtain ⟨hactive, _, _⟩ := Handle.isOpen_iff.mp hisOpen
  simp [ThreadServer.isClosing, hfound, hactive] at hclosing

namespace ExitHistory

/-! ## The caller waits for a loop that nothing stops -/

structure Hung (history : ExitHistory long) (listener : ℕ) : Prop where
  caller : history.server.caller = .join
  serving : ∃ name, history.server.lpThread = some name ∧
    history.server.phase? name = some .serving
  unflagged : history.server.stopFlag = false
  keepsOpen : history.server.world.KeepsOpen listener

theorem Hung.left_pos
    {history : ExitHistory long} {listener : ℕ}
    (hhung : history.Hung listener) : 0 < history.left := by
  have hactive := World.active_of_isOpen hhung.keepsOpen.isOpen
  exact Nat.add_pos_left hactive _

/-- No loop of the object returns. -/
theorem Hung.not_serving
    {history : ExitHistory long} {listener name : ℕ} {answers : WorkerAnswers}
    (hhung : history.Hung listener)
    (hmay : history.mayTake (.worker name answers) = true) :
    history.server.phase? name ≠ some .serving := by
  intro hserving
  have hleft : history.left ≠ 0 := Nat.ne_of_gt hhung.left_pos
  simp [mayTake, hserving, mayReturn, hhung.unflagged, hleft] at hmay

theorem Hung.worker
    {history : ExitHistory long} {server : ThreadServer long} {listener : ℕ}
    {name : ℕ} {answers : WorkerAnswers} (hhung : history.Hung listener)
    (hmay : history.mayTake (.worker name answers) = true)
    (hstep : history.server.step (.worker name answers) = .ok server)
    {next : ExitHistory long} (hnext : next.server = server) :
    next.Hung listener := by
  subst hnext
  have hnot := hhung.not_serving hmay
  obtain ⟨thread, hthread, hserving⟩ := hhung.serving
  cases ThreadServer.moves_of_step hstep with
  | @worker _ _ this worker _ later hthis hget hworker hmoves =>
      have hphase : history.server.phase? name = some worker.phase := by
        rw [ThreadServer.phase?, hget, Option.map_some]
      have hserves : worker.phase ≠ .serving := by
        intro heq
        exact hnot (by rw [hphase, heq])
      have hne : thread ≠ name := by
        rintro rfl
        exact hnot hserving
      have hmembers := hmoves.callerMembers
      have hcaller := congrArg ThreadServer.CallerMembers.caller hmembers
      have hlpThread := congrArg ThreadServer.CallerMembers.lpThread hmembers
      constructor
      · exact hcaller.trans hhung.caller
      · refine ⟨thread, hlpThread.trans hthread, ?_⟩
        rw [hmoves.phase?_eq hget, if_neg hne, hserving]
      · rw [ThreadServer.workerStep_stopFlag hworker, if_neg hserves]
        exact hhung.unflagged
      · exact hhung.keepsOpen.workerStep hworker

/-- A step that the caller and the workers do not take. -/
theorem Hung.same
    {history next : ExitHistory long} {listener : ℕ}
    (hhung : history.Hung listener)
    (hcaller : next.server.caller = history.server.caller)
    (hthread : next.server.lpThread = history.server.lpThread)
    (hworkers : next.server.workers = history.server.workers)
    (hflag : next.server.stopFlag = history.server.stopFlag)
    (hkeeps : next.server.world.KeepsOpen listener) : next.Hung listener := by
  obtain ⟨name, hname, hserving⟩ := hhung.serving
  constructor
  · exact hcaller.trans hhung.caller
  · refine ⟨name, hthread.trans hname, ?_⟩
    rw [ThreadServer.phase?, hworkers]
    exact hserving
  · exact hflag.trans hhung.unflagged
  · exact hkeeps

theorem Hung.thread
    {history next : ExitHistory long} {event : ThreadEvent} {listener : ℕ}
    (hhung : history.Hung listener)
    (hstep : history.step (.thread event) = .ok next) : next.Hung listener := by
  obtain ⟨hmay, server, hserver, rfl⟩ := thread_step_eq_ok hstep
  have hbusy : ∀ {P : Prop}, history.server.isIdle = true → P := by
    intro P hidle
    have hcaller := (ThreadHistory.caller_of_isIdle hidle).1
    rw [hhung.caller] at hcaller
    contradiction
  have hphase : ∀ {phase : CallerPhase} {P : Prop},
      history.server.caller = phase → phase ≠ .join → P := by
    intro phase P hcaller hne
    exact absurd (hcaller.symm.trans hhung.caller) hne
  cases ThreadServer.moves_of_step hserver with
  | startFails hidle => exact hbusy hidle
  | starts hidle => exact hbusy hidle
  | stopsNothing hidle => exact hbusy hidle
  | stops hidle => exact hbusy hidle
  | destroysNothing hidle => exact hbusy hidle
  | destroys hidle => exact hbusy hidle
  | storesThread hcaller => exact hphase hcaller (by simp)
  | testsSockType _ hcaller => exact hphase hcaller (by simp)
  | recvStops _ hcaller => exact hphase hcaller (by simp)
  | closes _ hcaller => exact hphase hcaller (by simp)
  | uvStops hcaller => exact hphase hcaller (by simp)
  | @joins thread worker _ hthread hget hreturned =>
      obtain ⟨name, hname, hserving⟩ := hhung.serving
      rw [hthread] at hname
      cases hname
      rw [ThreadServer.phase?, hget, Option.map_some, hreturned] at hserving
      contradiction
  | frees hcaller => exact hphase hcaller (by simp)
  | worker => exact hhung.worker hmay hserver rfl
  | closeCallback _ hclosing =>
      exact hhung.same rfl rfl rfl rfl (hhung.keepsOpen.closeCallback hclosing)
  | allocBuffer => exact hhung.same rfl rfl rfl rfl hhung.keepsOpen
  | writeBuffer => exact hhung.same rfl rfl rfl rfl hhung.keepsOpen

theorem Hung.step
    {history next : ExitHistory long} {event : ExitEvent} {listener : ℕ}
    (hhung : history.Hung listener)
    (hclose : event ≠ .loop (.close listener))
    (hstep : history.step event = .ok next) : next.Hung listener := by
  cases event with
  | thread event => exact hhung.thread hstep
  | loop event =>
      rw [ExitHistory.step] at hstep
      split_ifs at hstep with hready
      cases hworld : history.server.world.step event with
      | error stop => simp [hworld] at hstep
      | ok world =>
          simp only [hworld, Except.ok.injEq] at hstep
          subst hstep
          have hother : event ≠ .close listener := by
            rintro rfl
            exact hclose rfl
          exact hhung.same rfl rfl rfl rfl
            (hhung.keepsOpen.step hother hready.2 hworld)
  | write =>
      rw [ExitHistory.step] at hstep
      split_ifs at hstep
      cases hstep
      exact hhung.same rfl rfl rfl rfl hhung.keepsOpen
  | writeCallback =>
      rw [ExitHistory.step] at hstep
      split_ifs at hstep
      cases hstep
      exact hhung.same rfl rfl rfl rfl hhung.keepsOpen

/-! ## Whole runs -/

/-- Once the stop flag is gone while the worker that `Stop` waits for is in its
loop with an open socket, `Stop` never returns, unless a handler closes that very
socket. -/
theorem stop_hangs
    {history final : ExitHistory long} {listener : ℕ} {more : List ExitEvent}
    (hhung : history.Hung listener)
    (hclose : .loop (.close listener) ∉ more)
    (hrun : run step history more = .ok final) :
    final.server.caller = .join := by
  have hpres : Preserves step
      (fun event => event ≠ .loop (.close listener))
      fun reached : ExitHistory long => reached.Hung listener := by
    intro reached event next hinv hother hstep
    exact hinv.step hother hstep
  have hall : ∀ event ∈ more, event ≠ .loop (.close listener) := by
    rintro event hmem rfl
    exact hclose hmem
  exact (hpres.run hhung hall hrun).caller

/-- `Start` twice, then `Stop`: the first worker takes the stop request and
returns before the second one binds its socket. -/
def stopsAfterSecondStart : List ExitEvent :=
  [.thread (.allocBuffer []), .thread (.start 0 0 none [] 0), .thread .caller,
    .thread (.start 0 0 none [] 0), .thread .caller] ++
  List.replicate 6 (.thread (.worker 0 .success)) ++
  [.thread .stop, .thread .caller, .thread .caller, .thread .caller] ++
  List.replicate 2 (.thread (.worker 0 .success)) ++
  List.replicate 6 (.thread (.worker 1 .success))

theorem stop_hangs_stopsAfterSecondStart :
    ∃ history, run step (new .lp64 0 false) stopsAfterSecondStart =
        .ok history ∧
      ∀ more final, .loop (.close 1) ∉ more →
        run step history more = .ok final → final.server.caller = .join := by
  have hhung : ∃ history, run step (new .lp64 0 false) stopsAfterSecondStart =
      .ok history ∧ history.Hung 1 :=
    ⟨_, rfl, rfl, ⟨1, rfl, rfl⟩, rfl, rfl, (Option.some_ne_none 1).symm⟩
  obtain ⟨history, hrun, hhung⟩ := hhung
  exact ⟨history, hrun, fun _ _ hclose hmore => stop_hangs hhung hclose hmore⟩

end ExitHistory

end MDK
