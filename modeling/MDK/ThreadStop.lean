import MDK.StepSystem
import MDK.ThreadSteps

/-!
# Stopping the thread server

`StopServer` runs on the caller's thread and uses whatever `m_socket` points to
at that moment: nothing yet, the handle of the worker, or a handle that an
earlier stop closed.
-/

namespace MDK

open StepSystem

/-- The handle given to libuv exists, was initialised and is not closed, and is
of the kind that `m_sockType` says. -/
def SocketCall.IsSafe : SocketCall → Prop
  | .stored _ => True
  | .uvUdpRecvStop sockType target => ∃ handle, target = some handle ∧
      handle.status = .active ∧ handle.kind = sockType
  | .uvClose sockType target => ∃ handle, target = some handle ∧
      handle.status = .active ∧ handle.kind = sockType

/-- Since the last `uv_close` a `Bind` has stored `m_socket`. -/
def boundSinceClose (calls : List SocketCall) : Bool :=
  calls.foldl
    (fun bound call =>
      match call with
      | .stored _ => true
      | .uvUdpRecvStop _ _ => bound
      | .uvClose _ _ => false) false

/-- The handle or the object that a worker in `Bind` works on is settled. -/
def WorkerPhase.isBinding : WorkerPhase → Bool
  | .bindHandle _ _ => true
  | .storeSocket _ => true
  | _ => false

namespace ThreadServer

variable {long : ULong}

def IsActive (world : World) (name : ℕ) : Prop :=
  ∃ handle, world.handles.get? name = some handle ∧ handle.status = .active

def Open (world : World) (udp : Bool) (name : ℕ) : Prop :=
  ∃ handle, world.handles.get? name = some handle ∧ handle.status = .active ∧
    handle.kind = .ofUdp udp

/-- What holds between the steps of the caller and of the workers. -/
structure Ordered (server : ThreadServer long) (this : CTemplateSocket) :
    Prop where
  isThis : server.this? = some this
  known : ∀ name, this.socket = some name →
    ∃ handle, server.world.handles.get? name = some handle
  sockType : this.sockType = .tcp ∨ this.sockType = .ofUdp server.udp
  typed : ∀ name worker, server.workers.get? name = some worker →
    worker.phase.isBinding = true → this.sockType = .ofUdp server.udp
  owned : ∀ name worker handle, server.workers.get? name = some worker →
    worker.phase = .storeSocket handle →
      Open server.world server.udp handle ∧ this.socket ≠ some handle
  distinct : ∀ name worker other otherWorker handle,
    server.workers.get? name = some worker →
    server.workers.get? other = some otherWorker →
    worker.phase = .storeSocket handle →
    otherWorker.phase = .storeSocket handle → name = other
  bound : boundSinceClose server.calls = true →
    this.sockType = .ofUdp server.udp ∧
      ∃ name, this.socket = some name ∧ Open server.world server.udp name
  unbound : boundSinceClose server.calls = false →
    ∀ name, this.socket = some name → ¬ IsActive server.world name

theorem new_ordered (long : ULong) (defaultPort : ℤ) (udp : Bool) :
    (new long defaultPort udp).Ordered (CTemplateSocket.new 0) where
  isThis := rfl
  known name hsocket := by simp [CTemplateSocket.new] at hsocket
  sockType := Or.inl rfl
  typed name worker hget := by simp [new] at hget
  owned name worker handle hget := by simp [new] at hget
  distinct name worker other otherWorker handle hget := by simp [new] at hget
  bound hbound := by simp [new, boundSinceClose] at hbound
  unbound _ name hsocket := by simp [CTemplateSocket.new] at hsocket

/-! ## What StopServer is given -/

theorem target_eq_some_iff
    {server : ThreadServer long} {this : CTemplateSocket} {handle : Handle} :
    server.target this = some handle ↔
      ∃ name, this.socket = some name ∧
        server.world.handles.get? name = some handle := by
  unfold target
  rw [Option.bind_eq_some_iff]

theorem Ordered.target_safe_iff
    {server : ThreadServer long} {this : CTemplateSocket}
    (hordered : server.Ordered this) :
    (∃ handle, server.target this = some handle ∧ handle.status = .active ∧
        handle.kind = this.sockType) ↔
      boundSinceClose server.calls = true := by
  constructor
  · rintro ⟨handle, htarget, hactive, _⟩
    obtain ⟨name, hsocket, hget⟩ := target_eq_some_iff.mp htarget
    by_contra hnot
    rw [Bool.not_eq_true] at hnot
    exact hordered.unbound hnot name hsocket ⟨handle, hget, hactive⟩
  · intro hbound
    obtain ⟨htype, name, hsocket, handle, hget, hactive, hkind⟩ :=
      hordered.bound hbound
    exact ⟨handle, target_eq_some_iff.mpr ⟨name, hsocket, hget⟩, hactive,
      hkind.trans htype.symm⟩

/-- The condition on one step: where `StopServer` is about to use `m_socket`, a
`Bind` has stored it since the last `uv_close`. -/
def StopsBound (server : ThreadServer long) (event : ThreadEvent) : Prop :=
  event = .caller → (server.caller = .recvStop ∨ server.caller = .close) →
    boundSinceClose server.calls = true

/-! ## What a step can do -/

inductive Steps (server : ThreadServer long) (this : CTemplateSocket) :
    ThreadEvent → ThreadServer long → Prop where
  | quiet {event : ThreadEvent} {next : ThreadServer long}
      (hworld : next.world = server.world) (hudp : next.udp = server.udp)
      (hcalls : next.calls = server.calls)
      (hworkers : ∀ name worker, next.workers.get? name = some worker →
        worker.phase.isBinding = true →
        ∃ before, server.workers.get? name = some before ∧
          before.phase = worker.phase)
      (hmeets : server.StopsBound event) : Steps server this event next
  | enterBind {name : ℕ} {worker : Worker} {answers : WorkerAnswers}
      (hget : server.workers.get? name = some worker) :
      Steps server this (.worker name answers)
        ({ server with
          world := server.world.storeSockType 0 server.udp }.enter name
            (.bindHandle server.ip server.port))
  | bindHandle {name : ℕ} {worker : Worker} {answers : WorkerAnswers}
      {ip : Option ℕ} {port : ℤ}
      (hget : server.workers.get? name = some worker)
      (hphase : worker.phase = .bindHandle ip port) (text : List UInt8) :
      Steps server this (.worker name answers)
        ({ server with
          world := (server.world.listenHandle 0 this text port server.udp
            answers.bind).2 }.enter name
          (if (server.world.listenHandle 0 this text port server.udp
              answers.bind).1 then .storeSocket server.world.handles.fresh
            else .storeBindError))
  | storeSocket {name : ℕ} {worker : Worker} {answers : WorkerAnswers}
      {handle : ℕ} (hget : server.workers.get? name = some worker)
      (hphase : worker.phase = .storeSocket handle) :
      Steps server this (.worker name answers)
        ({ server with
          world := server.world.storeSocket 0 handle
          calls := server.calls ++ [SocketCall.stored handle] }.enter name
            .storeStillAlive)
  | recvStop (hcaller : server.caller = .recvStop) :
      Steps server this .caller { server.recvStop this with caller := .close }
  | close (hcaller : server.caller = .close) :
      Steps server this .caller { server.close this with caller := .uvStop }
  | closeCallback {handle : ℕ} (hclosing : server.isClosing handle = true) :
      Steps server this (.closeCallback handle)
        { server with world := server.world.libuvCallbackOnClose handle }

theorem get?_enter
    {server : ThreadServer long} {name : ℕ} {phase : WorkerPhase} {other : ℕ}
    {worker : Worker}
    (hget : (server.enter name phase).workers.get? other = some worker) :
    other = name ∧ worker.phase = phase ∨
      other ≠ name ∧ server.workers.get? other = some worker := by
  obtain ⟨before, hbefore, ⟨heq, rfl⟩ | ⟨hne, rfl⟩⟩ := Arena.get?_modify_cases hget
  · exact Or.inl ⟨heq, rfl⟩
  · exact Or.inr ⟨hne, hbefore⟩

theorem get?_enter_of_ne
    {server : ThreadServer long} {name : ℕ} {phase : WorkerPhase} {other : ℕ}
    {worker : Worker}
    (hget : (server.enter name phase).workers.get? other = some worker)
    (hphase : worker.phase ≠ phase) :
    other ≠ name ∧ server.workers.get? other = some worker := by
  obtain ⟨_, hsame⟩ | hbefore := get?_enter hget
  · exact absurd hsame hphase
  · exact hbefore

theorem get?_enter_of_binding
    {server : ThreadServer long} {name : ℕ} {phase : WorkerPhase}
    (hphase : phase.isBinding = false) {other : ℕ} {worker : Worker}
    (hget : (server.enter name phase).workers.get? other = some worker)
    (hbinding : worker.phase.isBinding = true) :
    server.workers.get? other = some worker := by
  have hne : worker.phase ≠ phase := by
    intro hsame
    rw [hsame, hphase] at hbinding
    contradiction
  exact (get?_enter_of_ne hget hne).2

/-- A step that is not one of a worker, and leaves the handles alone. -/
theorem Steps.of_samePhases
    {server next : ThreadServer long} {this : CTemplateSocket}
    {event : ThreadEvent} (hphases : SamePhases server next)
    (hworld : next.world = server.world) (hudp : next.udp = server.udp)
    (hcalls : next.calls = server.calls) (hmeets : server.StopsBound event) :
    server.Steps this event next := by
  refine .quiet hworld hudp hcalls ?_ hmeets
  intro name worker hget hbinding
  obtain hnew | hbefore := hphases.before name worker hget
  · rw [hnew] at hbinding
    contradiction
  · exact hbefore

theorem steps_of_workerStep
    {server next : ThreadServer long} {this : CTemplateSocket} {name : ℕ}
    {worker : Worker} {answers : WorkerAnswers}
    (hget : server.workers.get? name = some worker)
    (hstep : server.workerStep this name worker.phase answers = .ok next) :
    server.Steps this (.worker name answers) next := by
  have hmeets : server.StopsBound (.worker name answers) := by
    intro hcaller
    contradiction
  have hquiet : ∀ later : ThreadServer long, ∀ phase,
      later.world = server.world → later.udp = server.udp →
      later.calls = server.calls → later.workers = server.workers →
      phase.isBinding = false →
      server.Steps this (.worker name answers) (later.enter name phase) := by
    intro later phase hworld hudp hcalls hworkers hphase
    refine .quiet hworld hudp hcalls ?_ hmeets
    intro other found hfound hbinding
    rw [← hworkers]
    exact ⟨found, get?_enter_of_binding hphase hfound hbinding, rfl⟩
  cases hphase : worker.phase with
  | callInitialize =>
      rw [hphase] at hstep
      cases hstep
      exact hquiet _ _ rfl rfl rfl rfl rfl
  | testExitCode =>
      rw [hphase, workerStep] at hstep
      split_ifs at hstep
      · cases hstep
        exact hquiet _ _ rfl rfl rfl rfl rfl
      · cases hstep
        exact hquiet _ _ rfl rfl rfl rfl rfl
  | enterBind =>
      rw [hphase] at hstep
      cases hstep
      exact .enterBind hget
  | bindHandle ip port =>
      rw [hphase] at hstep
      cases hstep
      exact .bindHandle hget hphase (server.text ip)
  | storeSocket handle =>
      rw [hphase] at hstep
      cases hstep
      exact .storeSocket hget hphase
  | storeBindError =>
      rw [hphase] at hstep
      cases hstep
      exact hquiet _ _ rfl rfl rfl rfl rfl
  | storeStillAlive =>
      rw [hphase] at hstep
      cases hstep
      exact hquiet _ _ rfl rfl rfl rfl rfl
  | serving =>
      rw [hphase] at hstep
      cases hstep
      exact hquiet _ _ rfl rfl rfl rfl rfl
  | storeResult result =>
      rw [hphase] at hstep
      cases hstep
      exact hquiet _ _ rfl rfl rfl rfl rfl
  | returned =>
      rw [hphase] at hstep
      cases hstep

theorem steps_of_step
    {server next : ThreadServer long} {this : CTemplateSocket}
    {event : ThreadEvent} (hthis : server.this? = some this)
    (hstep : server.step event = .ok next) : server.Steps this event next := by
  have hphases := fun hevent => samePhases_of_step hevent hstep
  have hmeets : ∀ phase : CallerPhase, server.caller = phase →
      phase ≠ .recvStop → phase ≠ .close → server.StopsBound .caller := by
    rintro phase rfl hrecvStop hclose _ hcaller
    obtain hcaller | hcaller := hcaller
    · contradiction
    · contradiction
  cases moves_of_step hstep with
  | storesThread hcaller =>
      exact .of_samePhases (hphases rfl) rfl rfl rfl
        (hmeets _ hcaller nofun nofun)
  | testsSockType _ hcaller =>
      exact .of_samePhases (hphases rfl) rfl rfl rfl
        (hmeets _ hcaller nofun nofun)
  | recvStops hfound hcaller =>
      cases hthis.symm.trans hfound
      exact .recvStop hcaller
  | closes hfound hcaller =>
      cases hthis.symm.trans hfound
      exact .close hcaller
  | uvStops hcaller =>
      exact .of_samePhases (hphases rfl) rfl rfl rfl
        (hmeets _ hcaller nofun nofun)
  | joins hcaller =>
      exact .of_samePhases (hphases rfl) rfl rfl rfl
        (hmeets _ hcaller nofun nofun)
  | frees hcaller =>
      exact .of_samePhases (hphases rfl) rfl rfl rfl
        (hmeets _ hcaller nofun nofun)
  | worker hfound hget hworker =>
      cases hthis.symm.trans hfound
      exact steps_of_workerStep hget hworker
  | closeCallback _ hclosing => exact .closeCallback hclosing
  | _ => exact .of_samePhases (hphases rfl) rfl rfl rfl (by simp [StopsBound])

/-! ## The order is kept -/

theorem boundSinceClose_append_singleton
    (calls : List SocketCall) (call : SocketCall) :
    boundSinceClose (calls ++ [call]) =
      match call with
      | .stored _ => true
      | .uvUdpRecvStop _ _ => boundSinceClose calls
      | .uvClose _ _ => false := by
  unfold boundSinceClose
  rw [List.foldl_append]
  rfl

theorem typed_sockType
    {this : CTemplateSocket} {udp : Bool}
    (htype : this.sockType = .tcp ∨ this.sockType = .ofUdp udp) :
    (this.typed udp).sockType = .ofUdp udp := by
  cases udp with
  | false => simpa [CTemplateSocket.typed, ESocketType.ofUdp] using htype
  | true => rfl

theorem typed_socket (this : CTemplateSocket) (udp : Bool) :
    (this.typed udp).socket = this.socket := by
  cases udp with
  | false => rfl
  | true => rfl

theorem Ordered.quiet
    {server next : ThreadServer long} {this : CTemplateSocket}
    (hordered : server.Ordered this) (hworld : next.world = server.world)
    (hudp : next.udp = server.udp) (hcalls : next.calls = server.calls)
    (hworkers : ∀ name worker, next.workers.get? name = some worker →
      worker.phase.isBinding = true →
      ∃ before, server.workers.get? name = some before ∧
        before.phase = worker.phase) : next.Ordered this where
  isThis := by
    rw [this?, hworld]
    exact hordered.isThis
  known name hsocket := by
    rw [hworld]
    exact hordered.known name hsocket
  sockType := by
    rw [hudp]
    exact hordered.sockType
  typed name worker hget hbinding := by
    obtain ⟨before, hbefore, hphase⟩ := hworkers name worker hget hbinding
    rw [hudp]
    exact hordered.typed name before hbefore (hphase ▸ hbinding)
  owned name worker handle hget hphase := by
    obtain ⟨before, hbefore, hsame⟩ :=
      hworkers name worker hget (by rw [hphase]; rfl)
    rw [hworld, hudp]
    exact hordered.owned name before handle hbefore (hsame.trans hphase)
  distinct name worker other otherWorker handle hget hother hphase hsecond := by
    obtain ⟨before, hbefore, hsame⟩ :=
      hworkers name worker hget (by rw [hphase]; rfl)
    obtain ⟨otherBefore, hotherBefore, hotherSame⟩ :=
      hworkers other otherWorker hother (by rw [hsecond]; rfl)
    exact hordered.distinct name before other otherBefore handle hbefore
      hotherBefore (hsame.trans hphase) (hotherSame.trans hsecond)
  bound hbound := by
    rw [hworld, hudp]
    exact hordered.bound (hcalls ▸ hbound)
  unbound hunbound := by
    rw [hworld]
    exact hordered.unbound (hcalls ▸ hunbound)

theorem Ordered.enterBind
    {server : ThreadServer long} {this : CTemplateSocket}
    (hordered : server.Ordered this) (name : ℕ) (ip : Option ℕ) (port : ℤ) :
    ({ server with
      world := server.world.storeSockType 0 server.udp }.enter name
        (.bindHandle ip port)).Ordered (this.typed server.udp) where
  isThis := Arena.get?_modify_self hordered.isThis _
  known other hsocket := by
    rw [typed_socket] at hsocket
    exact hordered.known other hsocket
  sockType := Or.inr (typed_sockType hordered.sockType)
  typed _ _ _ _ := typed_sockType hordered.sockType
  owned other worker handle hget hphase := by
    obtain ⟨_, hbefore⟩ := get?_enter_of_ne hget (by simp [hphase])
    rw [typed_socket]
    exact hordered.owned other worker handle hbefore hphase
  distinct first worker second otherWorker handle hget hother hphase hsecond := by
    obtain ⟨_, hbefore⟩ := get?_enter_of_ne hget (by simp [hphase])
    obtain ⟨_, hotherBefore⟩ := get?_enter_of_ne hother (by simp [hsecond])
    exact hordered.distinct first worker second otherWorker handle hbefore
      hotherBefore hphase hsecond
  bound hbound := by
    rw [typed_socket]
    exact ⟨typed_sockType hordered.sockType, (hordered.bound hbound).2⟩
  unbound hunbound := by
    rw [typed_socket]
    exact hordered.unbound hunbound

/-! ## Handles that other threads leave alone -/

theorem Open.exists_get?
    {world : World} {udp : Bool} {name : ℕ} (hopen : Open world udp name) :
    ∃ handle, world.handles.get? name = some handle := by
  obtain ⟨handle, hget, _⟩ := hopen
  exact ⟨handle, hget⟩

theorem open_addHandle
    {world : World} {udp : Bool} {name : ℕ} (hopen : Open world udp name)
    (handle : Handle) (calls : List Call) :
    Open (world.addHandle handle calls) udp name := by
  obtain ⟨found, hget, hfound⟩ := hopen
  exact ⟨found, Arena.get?_alloc_of_some hget handle, hfound⟩

theorem isActive_of_addHandle
    {world : World} {name : ℕ} {handle : Handle} {calls : List Call}
    (hactive : IsActive (world.addHandle handle calls) name)
    (hknown : ∃ found, world.handles.get? name = some found) :
    IsActive world name := by
  obtain ⟨found, hfound⟩ := hknown
  obtain ⟨later, hlater, hstatus⟩ := hactive
  have hsame := Arena.get?_alloc_of_some hfound handle
  rw [World.addHandle, hsame, Option.some.injEq] at hlater
  exact ⟨found, hfound, hlater ▸ hstatus⟩

theorem open_of_get?_eq
    {world next : World} {udp : Bool} {name : ℕ} (hopen : Open world udp name)
    (hsame : next.handles.get? name = world.handles.get? name) :
    Open next udp name := by
  obtain ⟨handle, hget, hhandle⟩ := hopen
  exact ⟨handle, hsame.trans hget, hhandle⟩

/-- The handles of workers in `Bind` stay open, and those that were not active
do not become so. -/
structure Undisturbed (server : ThreadServer long) (next : World) : Prop where
  sockets : next.sockets = server.world.sockets
  exists_get? : ∀ name handle, server.world.handles.get? name = some handle →
    ∃ later, next.handles.get? name = some later
  owned : ∀ name worker handle, server.workers.get? name = some worker →
    worker.phase = .storeSocket handle → Open next server.udp handle
  inactive : ∀ name, IsActive next name → IsActive server.world name

theorem Ordered.undisturbed
    {server : ThreadServer long} {this : CTemplateSocket}
    (hordered : server.Ordered this) {next : World}
    (hnext : server.Undisturbed next) {calls : List SocketCall}
    (caller : CallerPhase)
    (hbound : boundSinceClose calls = true →
      boundSinceClose server.calls = true ∧ ∀ name, this.socket = some name →
        Open server.world server.udp name → Open next server.udp name)
    (hunbound : boundSinceClose calls = false →
      boundSinceClose server.calls = false ∨
        ∀ name, this.socket = some name → ¬ IsActive next name) :
    Ordered { server with world := next, calls := calls, caller := caller }
      this where
  isThis := by
    rw [this?, hnext.sockets]
    exact hordered.isThis
  known name hsocket := by
    obtain ⟨handle, hget⟩ := hordered.known name hsocket
    exact hnext.exists_get? name handle hget
  sockType := hordered.sockType
  typed := hordered.typed
  owned name worker handle hget hphase :=
    ⟨hnext.owned name worker handle hget hphase,
      (hordered.owned name worker handle hget hphase).2⟩
  distinct := hordered.distinct
  bound hcalls := by
    obtain ⟨hbefore, hopen⟩ := hbound hcalls
    obtain ⟨htype, name, hsocket, hname⟩ := hordered.bound hbefore
    exact ⟨htype, name, hsocket, hopen name hsocket hname⟩
  unbound hcalls := by
    obtain hbefore | hclosed := hunbound hcalls
    · intro name hsocket hactive
      exact hordered.unbound hbefore name hsocket (hnext.inactive name hactive)
    · exact hclosed

theorem undisturbed_modify
    {server : ThreadServer long} {this : CTemplateSocket}
    (hordered : server.Ordered this) {name : ℕ} {change : Handle → Handle}
    (hinactive : ∀ handle, (change handle).status = .active →
      handle.status = .active)
    (hfree : ∀ other worker, server.workers.get? other = some worker →
      worker.phase ≠ .storeSocket name) :
    server.Undisturbed { server.world with
      handles := server.world.handles.modify name change } where
  sockets := rfl
  exists_get? _ _ hget := Arena.exists_get?_modify hget name change
  owned other worker handle hget hphase := by
    have hne : handle ≠ name := by
      intro heq
      exact hfree other worker hget (heq ▸ hphase)
    apply open_of_get?_eq (hordered.owned other worker handle hget hphase).1
    exact Arena.get?_modify_of_ne _ _ hne
  inactive other hactive := by
    obtain ⟨later, hlater, hstatus⟩ := hactive
    obtain ⟨handle, hget, ⟨_, rfl⟩ | ⟨_, rfl⟩⟩ := Arena.get?_modify_cases hlater
    · exact ⟨handle, hget, hinactive handle hstatus⟩
    · exact ⟨later, hget, hstatus⟩

theorem Ordered.not_storeSocket
    {server : ThreadServer long} {this : CTemplateSocket}
    (hordered : server.Ordered this) {name : ℕ}
    (hsocket : this.socket = some name) {other : ℕ} {worker : Worker}
    (hget : server.workers.get? other = some worker) :
    worker.phase ≠ .storeSocket name := by
  intro hphase
  exact (hordered.owned other worker name hget hphase).2 hsocket

theorem Ordered.undisturbed_modifyTarget
    {server : ThreadServer long} {this : CTemplateSocket}
    (hordered : server.Ordered this) {change : Handle → Handle}
    (hinactive : ∀ handle, (change handle).status = .active →
      handle.status = .active) :
    server.Undisturbed (modifyTarget server.world this change) := by
  cases hsocket : this.socket with
  | none =>
      simp only [modifyTarget, hsocket]
      exact ⟨rfl, fun _ handle hget => ⟨handle, hget⟩,
        fun name worker handle hget hphase =>
          (hordered.owned name worker handle hget hphase).1,
        fun _ hactive => hactive⟩
  | some name =>
      simp only [modifyTarget, hsocket]
      exact undisturbed_modify hordered hinactive fun _ _ hget =>
        hordered.not_storeSocket hsocket hget

theorem open_modifyTarget
    {world : World} {this : CTemplateSocket} {change : Handle → Handle}
    (hstatus : ∀ handle, (change handle).status = handle.status)
    (hkind : ∀ handle, (change handle).kind = handle.kind) {udp : Bool}
    {name : ℕ} (hsocket : this.socket = some name)
    (hopen : Open world udp name) :
    Open (modifyTarget world this change) udp name := by
  obtain ⟨handle, hget, hactive, hsame⟩ := hopen
  simp only [modifyTarget, hsocket]
  exact ⟨change handle, Arena.get?_modify_self hget _,
    (hstatus handle).trans hactive, (hkind handle).trans hsame⟩

theorem not_isActive_modifyTarget
    {world : World} {this : CTemplateSocket} {change : Handle → Handle}
    (hinactive : ∀ handle, (change handle).status ≠ .active) {name : ℕ}
    (hsocket : this.socket = some name) :
    ¬ IsActive (modifyTarget world this change) name := by
  rintro ⟨later, hlater, hactive⟩
  simp only [modifyTarget, hsocket] at hlater
  obtain ⟨handle, _, ⟨_, rfl⟩ | ⟨hne, _⟩⟩ := Arena.get?_modify_cases hlater
  · exact hinactive handle hactive
  · contradiction

theorem Handle.uvClose_not_active (handle : Handle) :
    handle.uvClose.status ≠ .active := by
  unfold Handle.uvClose
  split_ifs with hactive
  · simp [Handle.closing]
  · exact hactive

theorem Ordered.recvStop
    {server : ThreadServer long} {this : CTemplateSocket}
    (hordered : server.Ordered this) :
    Ordered { server.recvStop this with caller := .close } this := by
  have hcalls := boundSinceClose_append_singleton server.calls
    (.uvUdpRecvStop this.sockType (server.target this))
  have hundisturbed : server.Undisturbed (server.recvStop this).world :=
    hordered.undisturbed_modifyTarget fun _ hactive => hactive
  apply hordered.undisturbed hundisturbed .close
  · intro hbound
    refine ⟨hcalls.symm.trans hbound, ?_⟩
    intro name hsocket hopen
    refine open_modifyTarget ?_ ?_ hsocket hopen
    · intro _
      rfl
    · intro _
      rfl
  · intro hunbound
    exact Or.inl (hcalls.symm.trans hunbound)

theorem Ordered.close
    {server : ThreadServer long} {this : CTemplateSocket}
    (hordered : server.Ordered this) :
    Ordered { server.close this with caller := .uvStop } this := by
  have hcalls := boundSinceClose_append_singleton server.calls
    (.uvClose this.sockType (server.target this))
  have hundisturbed : server.Undisturbed (server.close this).world :=
    hordered.undisturbed_modifyTarget fun handle hactive =>
      absurd hactive (Handle.uvClose_not_active handle)
  apply hordered.undisturbed hundisturbed .uvStop
  · intro hbound
    have hfalse := hcalls.symm.trans hbound
    contradiction
  · intro _
    right
    intro name hsocket
    exact not_isActive_modifyTarget Handle.uvClose_not_active hsocket

theorem isClosing_iff {server : ThreadServer long} {name : ℕ} :
    server.isClosing name = true ↔
      ∃ handle, server.world.handles.get? name = some handle ∧
        handle.status = .closing := by
  simp [isClosing, Option.any_eq_true]

theorem Ordered.closeCallback
    {server : ThreadServer long} {this : CTemplateSocket}
    (hordered : server.Ordered this) {name : ℕ}
    (hclosing : server.isClosing name = true) :
    Ordered { server with world := server.world.libuvCallbackOnClose name }
      this := by
  obtain ⟨closing, hget, hstatus⟩ := isClosing_iff.mp hclosing
  have hnot : ∀ other, Open server.world server.udp other → other ≠ name := by
    rintro other ⟨handle, hother, hactive, _⟩ rfl
    rw [hget, Option.some.injEq] at hother
    rw [← hother, hstatus] at hactive
    contradiction
  have hundisturbed :
      server.Undisturbed (server.world.libuvCallbackOnClose name) := by
    apply undisturbed_modify hordered
    · intro handle hactive
      contradiction
    · intro other worker hworker hphase
      exact hnot name (hordered.owned other worker name hworker hphase).1 rfl
  apply hordered.undisturbed hundisturbed server.caller
  · intro hbound
    refine ⟨hbound, ?_⟩
    intro other _ hopen
    exact open_of_get?_eq hopen (Arena.get?_modify_of_ne _ _ (hnot other hopen))
  · intro hunbound
    exact Or.inl hunbound

/-! ## Bind -/

theorem Ordered.enter_of_not_binding
    {server : ThreadServer long} {this : CTemplateSocket}
    (hordered : server.Ordered this) (name : ℕ) {phase : WorkerPhase}
    (hphase : phase.isBinding = false) : (server.enter name phase).Ordered this := by
  refine Ordered.quiet hordered ?_ ?_ ?_ ?_
  · rfl
  · rfl
  · rfl
  · intro other worker hget hbinding
    exact ⟨worker, get?_enter_of_binding hphase hget hbinding, rfl⟩

theorem Ordered.enter_storeSocket
    {server : ThreadServer long} {this : CTemplateSocket}
    (hordered : server.Ordered this) (name : ℕ) {handle : ℕ}
    (htype : this.sockType = .ofUdp server.udp)
    (hopen : Open server.world server.udp handle)
    (hsocket : this.socket ≠ some handle)
    (hnew : ∀ other worker, server.workers.get? other = some worker →
      worker.phase ≠ .storeSocket handle) :
    (server.enter name (.storeSocket handle)).Ordered this where
  isThis := hordered.isThis
  known := hordered.known
  sockType := hordered.sockType
  typed _ _ _ _ := htype
  owned other worker found hget hphase := by
    obtain ⟨_, hsame⟩ | ⟨_, hbefore⟩ := get?_enter hget
    · rw [hphase] at hsame
      cases hsame
      exact ⟨hopen, hsocket⟩
    · exact hordered.owned other worker found hbefore hphase
  distinct first worker second otherWorker found hget hother hphase hsecond := by
    obtain ⟨hfirst, hsame⟩ | ⟨_, hbefore⟩ := get?_enter hget
    · obtain ⟨hsecondName, _⟩ | ⟨_, hotherBefore⟩ := get?_enter hother
      · exact hfirst.trans hsecondName.symm
      · rw [hphase] at hsame
        cases hsame
        exact absurd hsecond (hnew second otherWorker hotherBefore)
    · obtain ⟨_, hotherSame⟩ | ⟨_, hotherBefore⟩ := get?_enter hother
      · rw [hsecond] at hotherSame
        cases hotherSame
        exact absurd hphase (hnew first worker hbefore)
      · exact hordered.distinct first worker second otherWorker found hbefore
          hotherBefore hphase hsecond
  bound := hordered.bound
  unbound := hordered.unbound

theorem Ordered.addHandle
    {server : ThreadServer long} {this : CTemplateSocket}
    (hordered : server.Ordered this) (handle : Handle) (calls : List Call) :
    Ordered { server with world := server.world.addHandle handle calls } this where
  isThis := hordered.isThis
  known name hsocket := by
    obtain ⟨found, hget⟩ := hordered.known name hsocket
    exact ⟨found, Arena.get?_alloc_of_some hget handle⟩
  sockType := hordered.sockType
  typed := hordered.typed
  owned name worker found hget hphase := by
    obtain ⟨hopen, hsocket⟩ := hordered.owned name worker found hget hphase
    exact ⟨open_addHandle hopen handle calls, hsocket⟩
  distinct := hordered.distinct
  bound hbound := by
    obtain ⟨htype, name, hsocket, hopen⟩ := hordered.bound hbound
    exact ⟨htype, name, hsocket, open_addHandle hopen handle calls⟩
  unbound hunbound name hsocket hactive := by
    apply hordered.unbound hunbound name hsocket
    exact isActive_of_addHandle hactive (hordered.known name hsocket)

theorem Ordered.bindHandle
    {server : ThreadServer long} {this : CTemplateSocket}
    (hordered : server.Ordered this) {name : ℕ} {worker : Worker}
    {ip : Option ℕ} {port : ℤ}
    (hget : server.workers.get? name = some worker)
    (hphase : worker.phase = .bindHandle ip port) (text : List UInt8)
    (libuv : BindAnswers) :
    ({ server with
      world := (server.world.listenHandle 0 this text port server.udp
        libuv).2 }.enter name
      (if (server.world.listenHandle 0 this text port server.udp libuv).1 then
        .storeSocket server.world.handles.fresh
      else .storeBindError)).Ordered this := by
  obtain ⟨handle, calls, hworld, hlistens⟩ :=
    server.world.listenHandle_spec 0 this text port server.udp libuv
  have hadded := hordered.addHandle handle calls
  rw [hworld]
  split_ifs with hbound
  · obtain ⟨hactive, hkind⟩ := hlistens hbound
    apply hadded.enter_storeSocket name
    · exact hordered.typed name worker hget (by rw [hphase]; rfl)
    · exact ⟨handle, Arena.get?_alloc_fresh _ _, hactive, hkind⟩
    · intro hsocket
      obtain ⟨found, hfound⟩ := hordered.known _ hsocket
      exact Arena.ne_fresh_of_get? hfound rfl
    · intro other otherWorker hother hsecond
      obtain ⟨hopen, _⟩ := hordered.owned other otherWorker _ hother hsecond
      obtain ⟨found, hfound⟩ := hopen.exists_get?
      exact Arena.ne_fresh_of_get? hfound rfl
  · exact hadded.enter_of_not_binding name rfl

theorem Ordered.storeSocket
    {server : ThreadServer long} {this : CTemplateSocket}
    (hordered : server.Ordered this) {name : ℕ} {worker : Worker} {handle : ℕ}
    (hget : server.workers.get? name = some worker)
    (hphase : worker.phase = .storeSocket handle) :
    ({ server with
      world := server.world.storeSocket 0 handle
      calls := server.calls ++ [SocketCall.stored handle] }.enter name
        .storeStillAlive).Ordered { this with socket := some handle } := by
  obtain ⟨⟨found, hfound, hactive, hkind⟩, _⟩ :=
    hordered.owned name worker handle hget hphase
  have hstored : Open (server.world.storeSocket 0 handle) server.udp handle :=
    ⟨_, Arena.get?_modify_self hfound _, hactive, hkind⟩
  have hcalls := boundSinceClose_append_singleton server.calls (.stored handle)
  constructor
  · exact Arena.get?_modify_self hordered.isThis _
  · intro other hsocket
    cases hsocket
    exact hstored.exists_get?
  · exact hordered.sockType
  · intro other otherWorker hother hbinding
    exact hordered.typed other otherWorker
      (get?_enter_of_binding rfl hother hbinding) hbinding
  · intro other otherWorker second hother hsecond
    obtain ⟨hne, hbefore⟩ := get?_enter_of_ne hother (by simp [hsecond])
    have hdistinct : second ≠ handle := by
      rintro rfl
      exact hne (hordered.distinct other otherWorker name worker second hbefore
        hget hsecond hphase)
    constructor
    · apply open_of_get?_eq
        (hordered.owned other otherWorker second hbefore hsecond).1
      exact Arena.get?_modify_of_ne _ _ hdistinct
    · intro hsocket
      cases hsocket
      contradiction
  · intro first firstWorker second secondWorker shared hfirst hsecond hone htwo
    exact hordered.distinct first firstWorker second secondWorker shared
      (get?_enter_of_binding rfl hfirst (by rw [hone]; rfl))
      (get?_enter_of_binding rfl hsecond (by rw [htwo]; rfl)) hone htwo
  · intro _
    exact ⟨hordered.typed name worker hget (by rw [hphase]; rfl), handle, rfl,
      hstored⟩
  · intro hunbound
    have hfalse := hcalls.symm.trans hunbound
    contradiction

/-! ## One step -/

theorem Steps.ordered
    {server next : ThreadServer long} {this : CTemplateSocket}
    {event : ThreadEvent} (hsteps : server.Steps this event next)
    (hordered : server.Ordered this) : ∃ later, next.Ordered later := by
  cases hsteps with
  | quiet hworld hudp hcalls hworkers hmeets =>
      exact ⟨this, hordered.quiet hworld hudp hcalls hworkers⟩
  | enterBind hget => exact ⟨_, hordered.enterBind _ _ _⟩
  | bindHandle hget hphase text =>
      exact ⟨this, hordered.bindHandle hget hphase text _⟩
  | storeSocket hget hphase => exact ⟨_, hordered.storeSocket hget hphase⟩
  | recvStop hcaller => exact ⟨this, hordered.recvStop⟩
  | close hcaller => exact ⟨this, hordered.close⟩
  | closeCallback hclosing => exact ⟨this, hordered.closeCallback hclosing⟩

def CallsSafe (server : ThreadServer long) : Prop :=
  ∀ call ∈ server.calls, call.IsSafe

theorem callsSafe_append_iff
    {server next : ThreadServer long} {call : SocketCall}
    (hcalls : next.calls = server.calls ++ [call]) :
    next.CallsSafe ↔ server.CallsSafe ∧ call.IsSafe := by
  rw [CallsSafe, CallsSafe, hcalls, List.forall_mem_append,
    List.forall_mem_singleton]

theorem Steps.callsSafe_iff
    {server next : ThreadServer long} {this : CTemplateSocket}
    {event : ThreadEvent} (hsteps : server.Steps this event next)
    (hordered : server.Ordered this) :
    next.CallsSafe ↔ server.CallsSafe ∧ server.StopsBound event := by
  cases hsteps with
  | quiet hworld hudp hcalls hworkers hmeets =>
      rw [CallsSafe, CallsSafe, hcalls]
      exact (and_iff_left hmeets).symm
  | enterBind hget => exact (and_iff_left (by simp [StopsBound])).symm
  | bindHandle hget hphase text =>
      exact (and_iff_left (by simp [StopsBound])).symm
  | storeSocket hget hphase =>
      rw [callsSafe_append_iff rfl]
      simp [SocketCall.IsSafe, StopsBound]
  | recvStop hcaller =>
      rw [callsSafe_append_iff rfl]
      have hsafe := hordered.target_safe_iff
      simpa [SocketCall.IsSafe, StopsBound, hcaller] using
        and_congr_right fun _ => hsafe
  | close hcaller =>
      rw [callsSafe_append_iff rfl]
      have hsafe := hordered.target_safe_iff
      simpa [SocketCall.IsSafe, StopsBound, hcaller] using
        and_congr_right fun _ => hsafe
  | closeCallback hclosing =>
      exact (and_iff_left (by simp [StopsBound])).symm

/-! ## Whole runs -/

/-- The state between two steps, with the object of the server. -/
def InOrder (server : ThreadServer long) : Prop :=
  ∃ this, server.Ordered this

theorem step_preserves_inOrder :
    Preserves step (fun _ => True) (InOrder : ThreadServer long → Prop) := by
  rintro server event next ⟨this, hordered⟩ _ hstep
  exact (steps_of_step hordered.isThis hstep).ordered hordered

/-- Every `uv_udp_recv_stop` and `uv_close` of `StopServer` is safe if and only
if a `Bind` has stored `m_socket` before it and since the last `uv_close`. -/
theorem callsSafe_iff_stopsBound
    (long : ULong) (defaultPort : ℤ) (udp : Bool) (events : List ThreadEvent)
    (final : ThreadServer long)
    (hrun : run step (new long defaultPort udp) events = .ok final) :
    final.CallsSafe ↔
      StepsMeet step StopsBound (new long defaultPort udp) events := by
  have hnew : (new long defaultPort udp).CallsSafe := by
    intro call hmem
    contradiction
  have hiff := step_preserves_inOrder.run_iff_stepsMeet CallsSafe StopsBound
    (fun server event next hinv _ hstep => by
      obtain ⟨this, hordered⟩ := hinv
      exact (steps_of_step hordered.isThis hstep).callsSafe_iff hordered)
    ⟨_, new_ordered long defaultPort udp⟩ (fun _ _ => trivial) hrun
  exact hiff.trans (and_iff_right hnew)

/-- The caller stops the server before the worker has done anything. -/
def stopsEarly : List ThreadEvent :=
  [.allocBuffer [], .start 0 0 none [] 0, .caller, .stop, .caller, .caller]

theorem callsSafe_iff_stopsBound_stopsEarly :
    ∃ final, run step (new .lp64 0 false) stopsEarly = .ok final ∧
      (final.CallsSafe ↔
        StepsMeet step StopsBound (new .lp64 0 false) stopsEarly) :=
  ⟨_, rfl, callsSafe_iff_stopsBound .lp64 0 false stopsEarly _ rfl⟩

/-- `m_socket` is still NULL when `StopServer` closes it. -/
theorem stop_closes_null :
    ∃ final, run step (new .lp64 0 false) stopsEarly = .ok final ∧
      final.calls = [.uvClose .tcp none] ∧ ¬ final.CallsSafe := by
  refine ⟨_, rfl, by decide, ?_⟩
  intro hsafe
  obtain ⟨handle, htarget, _⟩ := hsafe (.uvClose .tcp none) (by decide)
  contradiction

end ThreadServer

end MDK
