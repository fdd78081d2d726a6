import MDK.ThreadSteps

/-!
# The arguments of Start

`Start` copies the configuration and the port, and keeps the pointer to the
address text.  The caller may write to its buffers and to its own configuration
while the worker runs.  A history records what each worker sees of the
arguments, and what the caller wrote last to the buffer of the address.
-/

namespace MDK

open StepSystem

/-- What `Execute` sees of the arguments: in `Initialize`, and when
`uv_ip4_addr` reads the address. -/
inductive ArgumentSight where
  | initialized (cfg : ModuleConfigMap)
  | bound (text : List UInt8) (port : ℤ) (cfg : ModuleConfigMap)
  deriving DecidableEq, Repr

/-- `written` is what the caller last wrote to the buffer `ip`, from the content
at `Start` on; `callerCfg` is the caller's own map. -/
structure ArgumentHistory (long : ULong) where
  server : ThreadServer long
  ip : ℕ
  written : List UInt8
  callerCfg : ModuleConfigMap
  sights : List (ℕ × ArgumentSight)

inductive ArgumentEvent where
  | server (event : ThreadEvent)
  | writeConfig (cfg : ModuleConfigMap)

def ArgumentEvent.isStart : ArgumentEvent → Bool
  | .server event => event.isStart
  | .writeConfig _ => false

variable {long : ULong}

def ThreadServer.sights (server : ThreadServer long) :
    ThreadEvent → List (ℕ × ArgumentSight)
  | .worker name _ =>
      match server.phase? name with
      | some .callInitialize => [(name, .initialized server.cfg)]
      | some (.bindHandle ip port) =>
          [(name, .bound (server.text ip) port server.cfg)]
      | _ => []
  | _ => []

def ThreadEvent.textAfter (ip : ℕ) (text : List UInt8) :
    ThreadEvent → List UInt8
  | .writeBuffer buffer bytes => if buffer = ip then bytes else text
  | _ => text

namespace ArgumentHistory

/-- At the store of `m_lpThread`, with what the buffer holds. -/
def atStart (started : ThreadServer long) (ip : ℕ) (cfg : ModuleConfigMap) :
    ArgumentHistory long where
  server := started
  ip := ip
  written := started.text (some ip)
  callerCfg := cfg
  sights := []

def step (history : ArgumentHistory long) :
    ArgumentEvent → Except ThreadStop (ArgumentHistory long)
  | .server event =>
      match history.server.step event with
      | .error stop => .error stop
      | .ok next =>
          .ok { history with
            server := next
            written := event.textAfter history.ip history.written
            sights := history.sights ++ history.server.sights event }
  | .writeConfig cfg => .ok { history with callerCfg := cfg }

end ArgumentHistory

/-- The sight shows the arguments with these values. -/
def ArgumentSight.Shows (text : List UInt8) (port : ℤ) (cfg : ModuleConfigMap) :
    ArgumentSight → Prop
  | .initialized seen => seen = cfg
  | .bound seen seenPort seenCfg =>
      seen = text ∧ seenPort = port ∧ seenCfg = cfg

namespace ArgumentHistory

/-- All that the worker has seen are these values. -/
def Captured (history : ArgumentHistory long) (name : ℕ) (text : List UInt8)
    (port : ℤ) (cfg : ModuleConfigMap) : Prop :=
  ∀ sight, (name, sight) ∈ history.sights → sight.Shows text port cfg

/-- The worker binds the same endpoint, under the same configuration, in both
histories. -/
def BindsLike (left right : ArgumentHistory long) (name : ℕ) : Prop :=
  ∀ leftText leftPort leftCfg rightText rightPort rightCfg,
    (name, .bound leftText leftPort leftCfg) ∈ left.sights →
    (name, .bound rightText rightPort rightCfg) ∈ right.sights →
    leftText = rightText ∧ leftPort = rightPort ∧ leftCfg = rightCfg

/-- The condition on one step: when the worker's `uv_ip4_addr` reads the buffer,
the caller's last write to it was of the text it had at `Start`. -/
def TextKept (name : ℕ) (text : List UInt8) (history : ArgumentHistory long)
    (event : ArgumentEvent) : Prop :=
  ∀ answers ip port, event = .server (.worker name answers) →
    history.server.phase? name = some (.bindHandle ip port) →
    history.written = text

/-- After a `Start` and before another, the members have the values that it
stored, and the buffer holds what the caller wrote. -/
structure Started (name : ℕ) (port : ℤ) (cfg : ModuleConfigMap)
    (history : ArgumentHistory long) : Prop where
  phase : ∀ seen seenPort,
    history.server.phase? name = some (.bindHandle seen seenPort) →
    seen = some history.ip ∧ seenPort = port
  cfg : history.server.cfg = cfg
  ip : history.server.ip = some history.ip
  port : history.server.port = port
  buffer : history.server.buffers.get? history.ip = some history.written

theorem step_server_eq_ok
    {history next : ArgumentHistory long} {event : ThreadEvent}
    (hstep : history.step (.server event) = .ok next) :
    ∃ server, history.server.step event = .ok server ∧
      next = { history with
        server := server
        written := event.textAfter history.ip history.written
        sights := history.sights ++ history.server.sights event } := by
  unfold step at hstep
  cases hserver : history.server.step event with
  | error stop => simp [hserver] at hstep
  | ok server =>
      simp only [hserver, Except.ok.injEq] at hstep
      exact ⟨server, rfl, hstep.symm⟩

end ArgumentHistory

/-! ## One step -/

namespace ThreadServer

/-- Where a worker comes to its `uv_ip4_addr` from. -/
theorem bindHandle_of_worker
    {server next : ThreadServer long} {this : CTemplateSocket} {name : ℕ}
    {phase later : WorkerPhase} {answers : WorkerAnswers} {worker : Worker}
    (hmoves : server.WorkerMoves this name phase answers next later)
    (hget : server.workers.get? name = some worker)
    {other : ℕ} {ip : Option ℕ} {port : ℤ}
    (hphase : next.phase? other = some (.bindHandle ip port)) :
    server.phase? other = some (.bindHandle ip port) ∨
      ip = server.ip ∧ port = server.port := by
  rw [hmoves.phase?_eq hget] at hphase
  split_ifs at hphase
  · right
    have hgoes := hmoves.goes
    rw [Option.some.inj hphase] at hgoes
    generalize next.exitCode = code at hgoes
    cases hgoes
    exact ⟨rfl, rfl⟩
  · exact Or.inl hphase

theorem SamePhases.bindHandle
    {server next : ThreadServer long} (hsame : SamePhases server next)
    {name : ℕ} {ip : Option ℕ} {port : ℤ}
    (hphase : next.phase? name = some (.bindHandle ip port)) :
    server.phase? name = some (.bindHandle ip port) := by
  obtain ⟨later, hget, heq⟩ := Option.map_eq_some_iff.mp hphase
  obtain hnew | ⟨worker, hworker, hkept⟩ := hsame.before name later hget
  · rw [hnew] at heq
    contradiction
  · rw [phase?, hworker, Option.map_some, hkept, heq]

theorem bindHandle_of_step
    {server next : ThreadServer long} {event : ThreadEvent}
    (hstep : server.step event = .ok next) {name : ℕ} {ip : Option ℕ} {port : ℤ}
    (hphase : next.phase? name = some (.bindHandle ip port)) :
    server.phase? name = some (.bindHandle ip port) ∨
      ip = server.ip ∧ port = server.port := by
  cases hworker : event.isWorker with
  | false =>
      exact Or.inl ((samePhases_of_step hworker hstep).bindHandle hphase)
  | true =>
      cases moves_of_step hstep with
      | worker _ hget _ hmoves => exact bindHandle_of_worker hmoves hget hphase
      | _ => contradiction

/-- The arguments of a `Start` stay until the next one, but for the buffers. -/
theorem arguments_of_step
    {server next : ThreadServer long} {event : ThreadEvent}
    (hstart : event.isStart = false) (hstep : server.step event = .ok next) :
    next.cfg = server.cfg ∧ next.ip = server.ip ∧ next.port = server.port := by
  cases moves_of_step hstep with
  | startFails => contradiction
  | starts => contradiction
  | worker _ _ _ hmoves =>
      have hsame := hmoves.callerMembers
      exact ⟨congrArg CallerMembers.cfg hsame, congrArg CallerMembers.ip hsame,
        congrArg CallerMembers.port hsame⟩
  | _ => exact ⟨rfl, rfl, rfl⟩

theorem buffer_of_step
    {server next : ThreadServer long} {event : ThreadEvent}
    (hstep : server.step event = .ok next) {ip : ℕ} {text : List UInt8}
    (hget : server.buffers.get? ip = some text) :
    next.buffers.get? ip = some (event.textAfter ip text) := by
  cases moves_of_step hstep with
  | worker _ _ _ hmoves =>
      have hsame := congrArg CallerMembers.buffers hmoves.callerMembers
      exact (congrArg (·.get? ip) hsame).trans hget
  | @allocBuffer bytes => exact Arena.get?_alloc_of_some hget bytes
  | @writeBuffer buffer bytes =>
      rw [ThreadEvent.textAfter]
      split_ifs with heq
      · subst heq
        exact Arena.get?_modify_self hget _
      · exact (Arena.get?_modify_of_ne _ _ (Ne.symm heq)).trans hget
  | _ => exact hget

end ThreadServer

namespace ArgumentHistory

open ThreadServer

theorem step_preserves_started
    {name : ℕ} {port : ℤ} {cfg : ModuleConfigMap} :
    Preserves step (fun event => event.isStart = false)
      fun history : ArgumentHistory long => history.Started name port cfg := by
  intro history event next hstarted hstart hstep
  cases event with
  | writeConfig written =>
      cases hstep
      exact ⟨hstarted.phase, hstarted.cfg, hstarted.ip, hstarted.port,
        hstarted.buffer⟩
  | server event =>
      obtain ⟨server, hserver, rfl⟩ := step_server_eq_ok hstep
      obtain ⟨hcfg, hip, hport⟩ := arguments_of_step hstart hserver
      refine ⟨?_, hcfg.trans hstarted.cfg, hip.trans hstarted.ip,
        hport.trans hstarted.port, buffer_of_step hserver hstarted.buffer⟩
      intro seen seenPort hphase
      obtain hbefore | ⟨rfl, rfl⟩ := bindHandle_of_step hserver hphase
      · exact hstarted.phase seen seenPort hbefore
      · exact ⟨hstarted.ip, hstarted.port⟩

theorem Started.text
    {name : ℕ} {port : ℤ} {cfg : ModuleConfigMap}
    {history : ArgumentHistory long} (hstarted : history.Started name port cfg) :
    history.server.text (some history.ip) = history.written := by
  simp [ThreadServer.text, hstarted.buffer]

/-- What a step adds to what the worker sees. -/
theorem Started.sights_show_iff
    {name : ℕ} {port : ℤ} {cfg : ModuleConfigMap}
    {history : ArgumentHistory long} (hstarted : history.Started name port cfg)
    (text : List UInt8) (event : ThreadEvent) :
    (∀ sight, (name, sight) ∈ history.server.sights event →
        sight.Shows text port cfg) ↔
      history.TextKept name text (.server event) := by
  cases event with
  | worker other answers =>
      by_cases hname : other = name
      · subst hname
        cases hphase : history.server.phase? other with
        | none => simp [ThreadServer.sights, hphase, TextKept]
        | some phase =>
            cases phase with
            | callInitialize =>
                simp [ThreadServer.sights, hphase, TextKept,
                  ArgumentSight.Shows, hstarted.cfg]
            | bindHandle seen seenPort =>
                obtain ⟨rfl, rfl⟩ := hstarted.phase seen seenPort hphase
                simp [ThreadServer.sights, hphase, TextKept,
                  ArgumentSight.Shows, hstarted.cfg, hstarted.text]
            | _ => simp [ThreadServer.sights, hphase, TextKept]
      · have hother : ∀ sight,
            (name, sight) ∉ history.server.sights (.worker other answers) := by
          intro sight hmem
          rw [ThreadServer.sights] at hmem
          split at hmem
          · simp [Ne.symm hname] at hmem
          · simp [Ne.symm hname] at hmem
          · simp at hmem
        simp [hother, TextKept, hname]
  | _ => simp [ThreadServer.sights, TextKept]

theorem step_captured_iff
    {name : ℕ} {port : ℤ} {cfg : ModuleConfigMap}
    {history next : ArgumentHistory long} {event : ArgumentEvent}
    (hstarted : history.Started name port cfg) (text : List UInt8)
    (hstep : history.step event = .ok next) :
    next.Captured name text port cfg ↔
      history.Captured name text port cfg ∧
        history.TextKept name text event := by
  cases event with
  | writeConfig written =>
      cases hstep
      simp [Captured, TextKept]
  | server event =>
      obtain ⟨server, _, rfl⟩ := step_server_eq_ok hstep
      rw [← hstarted.sights_show_iff]
      simp only [Captured, List.mem_append]
      constructor
      · intro hall
        exact ⟨fun sight hmem => hall sight (Or.inl hmem),
          fun sight hmem => hall sight (Or.inr hmem)⟩
      · rintro ⟨hold, hnew⟩ sight (hmem | hmem)
        · exact hold sight hmem
        · exact hnew sight hmem

/-! ## Whole runs -/

theorem started_atStart
    {server started : ThreadServer long} {ip : ℕ} {port : ℤ} {db : Pointer}
    {cfg : ModuleConfigMap}
    (hstart : server.step (.start ip port db cfg 0) = .ok started) :
    (atStart started ip cfg).Started server.workers.fresh
      (if port < 0 then server.defaultPort else port) cfg := by
  cases moves_of_step hstart with
  | startFails _ hcreate => contradiction
  | starts _ hbuffer _ =>
      refine ⟨?_, rfl, rfl, rfl, ?_⟩
      · intro seen seenPort hphase
        have hnew : ((server.prepare ip port db cfg).createThread).phase?
            server.workers.fresh = some .callInitialize := by
          rw [phase?, createThread]
          simp [prepare]
        exact absurd (hnew.symm.trans hphase) (by simp)
      · obtain ⟨text, htext⟩ := Option.isSome_iff_exists.mp hbuffer
        have htext' : (server.prepare ip port db cfg).createThread.buffers.get? ip =
            some text := htext
        simp [atStart, ThreadServer.text, htext']

theorem started_of_run
    {server started : ThreadServer long} {ip : ℕ} {port : ℤ} {db : Pointer}
    {cfg : ModuleConfigMap}
    (hstart : server.step (.start ip port db cfg 0) = .ok started)
    {events : List ArgumentEvent} {history : ArgumentHistory long}
    (hlater : ∀ event ∈ events, event.isStart = false)
    (hrun : run step (atStart started ip cfg) events = .ok history) :
    history.Started server.workers.fresh
      (if port < 0 then server.defaultPort else port) cfg :=
  step_preserves_started.run (started_atStart hstart) hlater hrun

/-- After a `Start` that created a thread, all that its worker sees in a run
without another `Start` are the arguments of that `Start`, exactly when no
reading of the address comes after a write of another text. -/
theorem captured_iff_textKept
    {server started : ThreadServer long} {ip : ℕ} {port : ℤ} {db : Pointer}
    {cfg : ModuleConfigMap}
    (hstart : server.step (.start ip port db cfg 0) = .ok started)
    {events : List ArgumentEvent} {final : ArgumentHistory long}
    (hlater : ∀ event ∈ events, event.isStart = false)
    (hrun : run step (atStart started ip cfg) events = .ok final) :
    final.Captured server.workers.fresh (server.text (some ip))
        (if port < 0 then server.defaultPort else port) cfg ↔
      StepsMeet step (TextKept server.workers.fresh (server.text (some ip)))
        (atStart started ip cfg) events := by
  have hiff := step_preserves_started.run_iff_stepsMeet
    (fun history => history.Captured server.workers.fresh
      (server.text (some ip)) (if port < 0 then server.defaultPort else port) cfg)
    (TextKept server.workers.fresh (server.text (some ip)))
    (fun _ _ _ hinv _ hstep => step_captured_iff hinv _ hstep)
    (started_atStart hstart) hlater hrun
  rw [hiff]
  exact and_iff_right (by simp [Captured, atStart])

theorem Captured.bindsLike
    {left right : ArgumentHistory long} {name : ℕ} {text : List UInt8}
    {port : ℤ} {cfg : ModuleConfigMap}
    (hleft : left.Captured name text port cfg)
    (hright : right.Captured name text port cfg) :
    left.BindsLike right name := by
  intro leftText leftPort leftCfg rightText rightPort rightCfg hleftMem hrightMem
  obtain ⟨rfl, rfl, rfl⟩ := hleft _ hleftMem
  obtain ⟨rfl, rfl, rfl⟩ := hright _ hrightMem
  exact ⟨rfl, rfl, rfl⟩

/-- Two runs after one `Start` show its worker the arguments of that `Start`,
and the same endpoint and configuration, exactly when in both of them no
reading of the address comes after a write of another text. -/
theorem startCaptures_iff
    {server started : ThreadServer long} {ip : ℕ} {port : ℤ} {db : Pointer}
    {cfg : ModuleConfigMap}
    (hstart : server.step (.start ip port db cfg 0) = .ok started)
    {left right : List ArgumentEvent} {leftFinal rightFinal : ArgumentHistory long}
    (hleft : ∀ event ∈ left, event.isStart = false)
    (hright : ∀ event ∈ right, event.isStart = false)
    (hleftRun : run step (atStart started ip cfg) left = .ok leftFinal)
    (hrightRun : run step (atStart started ip cfg) right = .ok rightFinal) :
    (leftFinal.Captured server.workers.fresh (server.text (some ip))
          (if port < 0 then server.defaultPort else port) cfg ∧
        rightFinal.Captured server.workers.fresh (server.text (some ip))
          (if port < 0 then server.defaultPort else port) cfg ∧
        leftFinal.BindsLike rightFinal server.workers.fresh) ↔
      StepsMeet step (TextKept server.workers.fresh (server.text (some ip)))
          (atStart started ip cfg) left ∧
        StepsMeet step (TextKept server.workers.fresh (server.text (some ip)))
          (atStart started ip cfg) right := by
  rw [← captured_iff_textKept hstart hleft hleftRun,
    ← captured_iff_textKept hstart hright hrightRun]
  constructor
  · rintro ⟨hleftCaptured, hrightCaptured, _⟩
    exact ⟨hleftCaptured, hrightCaptured⟩
  · rintro ⟨hleftCaptured, hrightCaptured⟩
    exact ⟨hleftCaptured, hrightCaptured,
      hleftCaptured.bindsLike hrightCaptured⟩

/-- A caller with one buffer, before it starts the server. -/
def oneBuffer : ThreadServer .lp64 :=
  { ThreadServer.new .lp64 0 false with buffers := Arena.empty.alloc [49] }

/-- The worker up to its `Bind`, and what the caller does before `uv_ip4_addr`
reads the address. -/
def workerBinds (between : List ArgumentEvent) : List ArgumentEvent :=
  [.server .caller, .server (.worker 0 .success), .server (.worker 0 .success),
    .server (.worker 0 .success)] ++ between ++ [.server (.worker 0 .success)]

def reuseBuffer : ArgumentEvent := .server (.writeBuffer 0 [50])

theorem startCaptures_iff_reuseBuffer :
    ∃ started leftFinal rightFinal,
      oneBuffer.step (.start 0 80 none [] 0) = .ok started ∧
      run step (atStart started 0 []) (workerBinds []) = .ok leftFinal ∧
      run step (atStart started 0 []) (workerBinds [reuseBuffer]) =
        .ok rightFinal ∧
      ((leftFinal.Captured 0 [49] 80 [] ∧ rightFinal.Captured 0 [49] 80 [] ∧
          leftFinal.BindsLike rightFinal 0) ↔
        StepsMeet step (TextKept 0 [49]) (atStart started 0 [])
            (workerBinds []) ∧
          StepsMeet step (TextKept 0 [49]) (atStart started 0 [])
            (workerBinds [reuseBuffer])) := by
  have hleft : ∀ event ∈ workerBinds [], event.isStart = false := by decide
  have hright : ∀ event ∈ workerBinds [reuseBuffer], event.isStart = false := by
    decide
  have hstart : oneBuffer.step (.start 0 80 none [] 0) =
      .ok (oneBuffer.start 0 80 none [] 0) := rfl
  exact ⟨_, _, _, hstart, rfl, rfl,
    startCaptures_iff hstart hleft hright rfl rfl⟩

/-- The caller reuses the buffer, and the worker binds another address. -/
theorem reused_buffer_is_bound :
    ¬ ∀ (server started : ThreadServer .lp64) (ip : ℕ) (port : ℤ)
        (db : Pointer) (cfg : ModuleConfigMap),
      server.step (.start ip port db cfg 0) = .ok started →
      ∀ (left right : List ArgumentEvent)
        (leftFinal rightFinal : ArgumentHistory .lp64),
      (∀ event ∈ left, event.isStart = false) →
      (∀ event ∈ right, event.isStart = false) →
      run step (atStart started ip cfg) left = .ok leftFinal →
      run step (atStart started ip cfg) right = .ok rightFinal →
      leftFinal.BindsLike rightFinal server.workers.fresh := by
  intro hall
  have hlike := hall oneBuffer _ 0 80 none [] rfl (workerBinds [])
    (workerBinds [reuseBuffer]) _ _ (by decide) (by decide) rfl rfl
  have hsame := hlike [49] 80 [] [50] 80 [] (by decide) (by decide)
  exact absurd hsame.1 (by decide)

end ArgumentHistory

end MDK
