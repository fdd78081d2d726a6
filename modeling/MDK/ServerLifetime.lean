import MDK.ResourceLog
import MDK.StepSystem
import MDK.TemplateServer

/-!
# The memory of the listening handle

The life of one `CTemplateServer`: `Bind`, `StartServer`, `StopServer` and the
destructor.  `StopServer` only asks for the close; the callback that frees the
handle runs in the event loop, if the loop still runs.  The destructor frees
`m_socket` too, which nothing but a successful `Bind` ever changes.
-/

namespace MDK

open ResourceLog StepSystem

/-- What happens to the memory of a handle; a pointer is `none` for NULL. -/
inductive MemoryCall where
  | uvUdpRecvStop (socket : Option ℕ)
  | uvClose (socket : Option ℕ)
  | free (handle : ℕ) (registered : Bool)
  deriving DecidableEq, Repr

def MemoryCall.uses : MemoryCall → Option ℕ
  | .uvUdpRecvStop socket => socket
  | .uvClose socket => socket
  | .free _ _ => none

def MemoryCall.frees : MemoryCall → Option ℕ
  | .free handle _ => some handle
  | _ => none

/-- The event loop lists the handle. -/
def HandleStatus.isRegistered : HandleStatus → Bool
  | .active => true
  | .closing => true
  | .allocated => false
  | .freed => false

/-- Closing starts on an open handle only. -/
def Handle.uvClose (handle : Handle) : Handle :=
  if handle.status = .active then handle.closing else handle

def Handle.free (handle : Handle) : Handle :=
  { handle with status := .freed }

/-- One server object, the first of its world.  It is running while it is in
`uv_run`. -/
structure ServerLife where
  world : World
  memory : List MemoryCall
  running : Bool
  destroyed : Bool
  deriving DecidableEq, Repr

inductive LifeEvent where
  | bind (ip : List UInt8) (port : ℤ) (udp : Bool) (libuv : BindAnswers)
  | startServer
  | closeCallback (handle : ℕ)
  | loopEnds
  | stopServer
  | destroy

inductive LifeStop where
  | notEnabled
  deriving DecidableEq, Repr

def LifeEvent.isBind : LifeEvent → Bool
  | .bind _ _ _ _ => true
  | _ => false

def LifeEvent.isDestroy : LifeEvent → Bool
  | .destroy => true
  | _ => false

namespace ServerLife

def new : ServerLife := ⟨World.empty.construct, [], false, false⟩

def this? (life : ServerLife) : Option CTemplateSocket :=
  life.world.sockets.get? 0

def bind (life : ServerLife) (this : CTemplateSocket) (ip : List UInt8)
    (port : ℤ) (udp : Bool) (libuv : BindAnswers) : ServerLife :=
  { life with world := (life.world.bind 0 this ip port udp libuv).2 }

def modifyHandle (life : ServerLife) (name : ℕ) (change : Handle → Handle) :
    ServerLife :=
  { life with
    world := { life.world with handles := life.world.handles.modify name change } }

def isClosing (life : ServerLife) (name : ℕ) : Bool :=
  (life.world.handles.get? name).any (·.status = .closing)

def isRegistered (life : ServerLife) (name : ℕ) : Bool :=
  (life.world.handles.get? name).any (·.status.isRegistered)

def log (life : ServerLife) (calls : List MemoryCall) : ServerLife :=
  { life with memory := life.memory ++ calls }

/-- `uv_close` on `m_socket`. -/
def close (life : ServerLife) (socket : Option ℕ) : ServerLife :=
  match socket with
  | none => life.log [.uvClose none]
  | some name => (life.log [.uvClose (some name)]).modifyHandle name Handle.uvClose

/-- `uv_stop` at its end concerns the loop alone. -/
def stopServer (life : ServerLife) (this : CTemplateSocket) : ServerLife :=
  let life :=
    if this.sockType = .udp then life.log [.uvUdpRecvStop this.socket] else life
  life.close this.socket

/-- libuv has taken the handle off its list when it calls back. -/
def closeCallback (life : ServerLife) (name : ℕ) : ServerLife :=
  { life with
    world := life.world.libuvCallbackOnClose name
    memory := life.memory ++ [.free name false] }

/-- The destructor up to the end of the loop, which holds no handle's memory. -/
def destroy (life : ServerLife) (this : CTemplateSocket) : ServerLife :=
  let life :=
    match this.socket with
    | none => life
    | some name =>
        (life.log [.free name (life.isRegistered name)]).modifyHandle name
          Handle.free
  { life with
    world := { life.world with
      sockets := life.world.sockets.modify 0 fun this =>
        { this with socket := none } }
    destroyed := true }

/-- The loop calls back only while it runs, and the object is destroyed only
when it does not. -/
def step (life : ServerLife) (event : LifeEvent) : Except LifeStop ServerLife :=
  match life.this? with
  | none => .error .notEnabled
  | some this =>
      if life.destroyed then .error .notEnabled
      else
        match event with
        | .bind ip port udp libuv => .ok (life.bind this ip port udp libuv)
        | .startServer =>
            if life.running then .error .notEnabled
            else .ok { life with running := true }
        | .closeCallback name =>
            if life.running ∧ life.isClosing name then
              .ok (life.closeCallback name)
            else .error .notEnabled
        | .loopEnds =>
            if life.running then .ok { life with running := false }
            else .error .notEnabled
        | .stopServer => .ok (life.stopServer this)
        | .destroy =>
            if life.running then .error .notEnabled
            else .ok (life.destroy this)

end ServerLife

/-! ## What Bind does to the pointer -/

/-- `Bind` allocates one handle, and `m_socket` is set to it if it listens. -/
theorem World.bind_socket
    {world : World} {server : ℕ} {this : CTemplateSocket}
    (hthis : world.sockets.get? server = some this)
    (ip : List UInt8) (port : ℤ) (udp : Bool) (libuv : BindAnswers) :
    ∃ handle later,
      (world.bind server this ip port udp libuv).2.handles =
        world.handles.alloc handle ∧
      (world.bind server this ip port udp libuv).2.sockets.get? server =
        some later ∧
      (handle.status = .allocated ∨ handle.status = .active) ∧
      (later.socket = this.socket ∨
        later.socket = some world.handles.fresh ∧ handle.status = .active) := by
  have hsame : (if udp then { this with sockType := .udp } else this).socket =
      this.socket := by
    cases udp with
    | false => rfl
    | true => rfl
  by_cases hinit : libuv.init = 0
  · by_cases hbind : libuv.bind (libuv.ip4Addr ip port).2 = 0
    · by_cases hlisten : libuv.listen = 0
      · simp only [World.bind, hinit, hbind, hlisten, ne_eq, not_true_eq_false,
          if_false]
        exact ⟨_, _, rfl, Arena.get?_modify_self hthis _, Or.inr rfl,
          Or.inr ⟨rfl, rfl⟩⟩
      · simp only [World.bind, hinit, hbind, hlisten, ne_eq, not_true_eq_false,
          not_false_eq_true, if_false, if_true]
        exact ⟨_, _, rfl, Arena.get?_modify_self hthis _, Or.inr rfl,
          Or.inl hsame⟩
    · simp only [World.bind, hinit, hbind, ne_eq, not_true_eq_false,
        not_false_eq_true, if_false, if_true]
      exact ⟨_, _, rfl, Arena.get?_modify_self hthis _, Or.inr rfl,
        Or.inl hsame⟩
  · simp only [World.bind, hinit, ne_eq, not_false_eq_true, if_true]
    exact ⟨_, _, rfl, Arena.get?_modify_self hthis _, Or.inl rfl, Or.inl hsame⟩

namespace ServerLife

/-! ## Who may free a handle -/

/-- While nothing was bound, nothing was freed.  What `m_socket` was set to is
listed by the loop, or was freed by the close callback. -/
structure Tracked (life : ServerLife) : Prop where
  exists_this : ∃ this, life.this? = some this
  unbound : ∀ this, life.this? = some this → this.socket = none →
    (∀ call ∈ life.memory, call.frees = none) ∧
    ∀ name, life.isClosing name = false
  bound : ∀ this name, life.this? = some this → this.socket = some name →
    ∃ handle, life.world.handles.get? name = some handle ∧
      (handle.status.isRegistered = true ∨ .free name false ∈ life.memory)

theorem isClosing_iff {life : ServerLife} {name : ℕ} :
    life.isClosing name = true ↔
      ∃ handle, life.world.handles.get? name = some handle ∧
        handle.status = .closing := by
  simp [isClosing, Option.any_eq_true]

theorem Handle.uvClose_isRegistered
    {handle : Handle} (hregistered : handle.status.isRegistered = true) :
    handle.uvClose.status.isRegistered = true := by
  unfold Handle.uvClose
  split_ifs
  · rfl
  · exact hregistered

theorem Tracked.of_this
    {life : ServerLife} {this : CTemplateSocket}
    (hthis : life.this? = some this)
    (hunbound : this.socket = none →
      (∀ call ∈ life.memory, call.frees = none) ∧
        ∀ name, life.isClosing name = false)
    (hbound : ∀ name, this.socket = some name →
      ∃ handle, life.world.handles.get? name = some handle ∧
        (handle.status.isRegistered = true ∨ .free name false ∈ life.memory)) :
    life.Tracked where
  exists_this := ⟨this, hthis⟩
  unbound other hother := by
    cases hthis.symm.trans hother
    exact hunbound
  bound other name hother := by
    cases hthis.symm.trans hother
    exact hbound name

theorem new_tracked : new.Tracked := by
  have hnew : new.this? = some (CTemplateSocket.new 0) := rfl
  apply Tracked.of_this hnew
  · intro _
    constructor
    · simp [new]
    · simp [isClosing, new, World.construct, World.empty]
  · intro name hsocket
    contradiction

/-- The object is the same, and so are the handles and their memory. -/
theorem Tracked.of_eq
    {life next : ServerLife} (htracked : life.Tracked)
    (hworld : next.world = life.world) (hmemory : next.memory = life.memory) :
    next.Tracked where
  exists_this := by
    obtain ⟨this, hthis⟩ := htracked.exists_this
    exact ⟨this, by rw [this?, hworld]; exact hthis⟩
  unbound this hthis hsocket := by
    rw [this?, hworld] at hthis
    rw [hmemory]
    obtain ⟨hfrees, hclosing⟩ := htracked.unbound this hthis hsocket
    refine ⟨hfrees, ?_⟩
    intro name
    rw [isClosing, hworld]
    exact hclosing name
  bound this name hthis hsocket := by
    rw [this?, hworld] at hthis
    rw [hworld, hmemory]
    exact htracked.bound this name hthis hsocket

theorem Tracked.bind
    {life : ServerLife} (htracked : life.Tracked) {this : CTemplateSocket}
    (hthis : life.this? = some this) (ip : List UInt8) (port : ℤ) (udp : Bool)
    (libuv : BindAnswers) : (life.bind this ip port udp libuv).Tracked := by
  obtain ⟨handle, later, hhandles, hlater, hstatus, hsocket⟩ :=
    World.bind_socket hthis ip port udp libuv
  have hclosing : handle.status ≠ .closing := by
    obtain hstatus | hstatus := hstatus
    · simp [hstatus]
    · simp [hstatus]
  have hthat : (life.bind this ip port udp libuv).this? = some later := hlater
  apply Tracked.of_this hthat
  · intro hnone
    obtain hsame | ⟨hfresh, _⟩ := hsocket
    · obtain ⟨hfrees, hold⟩ := htracked.unbound this hthis (hsame.symm.trans hnone)
      refine ⟨hfrees, ?_⟩
      intro name
      rw [← Bool.not_eq_true, isClosing_iff]
      rintro ⟨found, hget, hfound⟩
      change (life.world.bind 0 this ip port udp libuv).2.handles.get? name =
        some found at hget
      rw [hhandles] at hget
      obtain ⟨_, rfl⟩ | hbefore := Arena.get?_alloc_cases hget
      · exact hclosing hfound
      · have hidle := hold name
        rw [← Bool.not_eq_true, isClosing_iff] at hidle
        exact hidle ⟨found, hbefore, hfound⟩
    · rw [hnone] at hfresh
      contradiction
  · intro name hsome
    change ∃ bound, (life.world.bind 0 this ip port udp libuv).2.handles.get? name =
      some bound ∧ _
    rw [hhandles]
    obtain hsame | ⟨hfresh, hactive⟩ := hsocket
    · obtain ⟨bound, hget, hbound⟩ :=
        htracked.bound this name hthis (hsame.symm.trans hsome)
      exact ⟨bound, Arena.get?_alloc_of_some hget handle, hbound⟩
    · have hname : life.world.handles.fresh = name :=
        Option.some.inj (hfresh.symm.trans hsome)
      subst hname
      refine ⟨handle, Arena.get?_alloc_fresh _ _, Or.inl ?_⟩
      rw [hactive]
      rfl

theorem Tracked.closeCallback
    {life : ServerLife} (htracked : life.Tracked) {name : ℕ}
    (hclosing : life.isClosing name = true) : (life.closeCallback name).Tracked := by
  constructor
  · exact htracked.exists_this
  · intro this hthis hnone
    have hidle := (htracked.unbound this hthis hnone).2 name
    rw [hidle] at hclosing
    contradiction
  · intro this pointed hthis hsome
    obtain ⟨handle, hget, hhandle⟩ := htracked.bound this pointed hthis hsome
    have hmemory : (life.closeCallback name).memory =
        life.memory ++ [.free name false] := rfl
    have hhandles : (life.closeCallback name).world.handles =
        life.world.handles.modify name fun closed =>
          { closed with data := .empty, status := .freed } := rfl
    rw [hmemory, hhandles]
    by_cases heq : pointed = name
    · subst heq
      refine ⟨_, Arena.get?_modify_self hget _, Or.inr ?_⟩
      exact List.mem_append_right _ (List.mem_singleton_self _)
    · refine ⟨handle, ?_, ?_⟩
      · rw [Arena.get?_modify_of_ne _ _ heq]
        exact hget
      · obtain hregistered | hfreed := hhandle
        · exact Or.inl hregistered
        · exact Or.inr (List.mem_append_left _ hfreed)

def stopCalls (this : CTemplateSocket) : List MemoryCall :=
  (if this.sockType = .udp then [.uvUdpRecvStop this.socket] else []) ++
    [.uvClose this.socket]

theorem stopCalls_frees (this : CTemplateSocket) :
    ∀ call ∈ stopCalls this, call.frees = none := by
  unfold stopCalls
  split_ifs
  · simp [MemoryCall.frees]
  · simp [MemoryCall.frees]

theorem stopServer_eq (life : ServerLife) (this : CTemplateSocket) :
    life.stopServer this =
      match this.socket with
      | none => life.log (stopCalls this)
      | some name =>
          (life.log (stopCalls this)).modifyHandle name Handle.uvClose := by
  unfold stopServer stopCalls close
  cases this.socket with
  | none =>
      split_ifs
      · simp [log]
      · simp
  | some name =>
      split_ifs
      · simp [log]
      · simp

theorem Tracked.stopServer
    {life : ServerLife} (htracked : life.Tracked) {this : CTemplateSocket}
    (hthis : life.this? = some this) : (life.stopServer this).Tracked := by
  rw [stopServer_eq]
  cases hsocket : this.socket with
  | none =>
      obtain ⟨hfrees, hidle⟩ := htracked.unbound this hthis hsocket
      have hlogged : (life.log (stopCalls this)).this? = some this := hthis
      apply Tracked.of_this hlogged
      · intro _
        refine ⟨?_, hidle⟩
        intro call hmem
        obtain hold | hnew := List.mem_append.mp hmem
        · exact hfrees call hold
        · exact stopCalls_frees this call hnew
      · intro name hsome
        rw [hsocket] at hsome
        contradiction
  | some pointed =>
      obtain ⟨handle, hget, hhandle⟩ :=
        htracked.bound this pointed hthis hsocket
      have hclosed : ((life.log (stopCalls this)).modifyHandle pointed
          Handle.uvClose).this? = some this := hthis
      apply Tracked.of_this hclosed
      · intro hnone
        rw [hsocket] at hnone
        contradiction
      · intro name hsome
        rw [hsocket] at hsome
        cases hsome
        refine ⟨handle.uvClose, Arena.get?_modify_self hget _, ?_⟩
        obtain hregistered | hfreed := hhandle
        · exact Or.inl (Handle.uvClose_isRegistered hregistered)
        · exact Or.inr (List.mem_append_left _ hfreed)

/-! ## One step -/

theorem exists_this_of_step
    {life next : ServerLife} {event : LifeEvent}
    (hstep : life.step event = .ok next) :
    ∃ this, life.this? = some this ∧ life.destroyed = false := by
  unfold step at hstep
  cases hthis : life.this? with
  | none => simp [hthis] at hstep
  | some this =>
      refine ⟨this, rfl, ?_⟩
      cases hdestroyed : life.destroyed with
      | false => rfl
      | true => simp [hthis, hdestroyed] at hstep

/-- What a step does before the destructor. -/
inductive Steps (life : ServerLife) : LifeEvent → ServerLife → Prop where
  | bind {this : CTemplateSocket} {ip : List UInt8} {port : ℤ} {udp : Bool}
      {libuv : BindAnswers} (hthis : life.this? = some this) :
      Steps life (.bind ip port udp libuv) (life.bind this ip port udp libuv)
  | startServer : Steps life .startServer { life with running := true }
  | closeCallback {name : ℕ} (hclosing : life.isClosing name = true) :
      Steps life (.closeCallback name) (life.closeCallback name)
  | loopEnds : Steps life .loopEnds { life with running := false }
  | stopServer {this : CTemplateSocket} (hthis : life.this? = some this) :
      Steps life .stopServer (life.stopServer this)
  | destroy {this : CTemplateSocket} (hthis : life.this? = some this) :
      Steps life .destroy (life.destroy this)

theorem steps_of_step
    {life next : ServerLife} {event : LifeEvent}
    (hstep : life.step event = .ok next) : life.Steps event next := by
  obtain ⟨this, hthis, hdestroyed⟩ := exists_this_of_step hstep
  have hnot : ¬ life.destroyed = true := by simp [hdestroyed]
  simp only [step, hthis, if_neg hnot] at hstep
  cases event with
  | bind ip port udp libuv =>
      cases hstep
      exact .bind hthis
  | startServer =>
      split_ifs at hstep
      cases hstep
      exact .startServer
  | closeCallback name =>
      simp only at hstep
      split_ifs at hstep with hready
      cases hstep
      exact .closeCallback hready.2
  | loopEnds =>
      split_ifs at hstep
      cases hstep
      exact .loopEnds
  | stopServer =>
      cases hstep
      exact .stopServer hthis
  | destroy =>
      split_ifs at hstep
      cases hstep
      exact .destroy hthis

theorem Steps.tracked
    {life next : ServerLife} {event : LifeEvent} (hsteps : life.Steps event next)
    (halive : event.isDestroy = false) (htracked : life.Tracked) :
    next.Tracked := by
  cases hsteps with
  | bind hthis => exact htracked.bind hthis _ _ _ _
  | startServer => exact htracked.of_eq rfl rfl
  | closeCallback hclosing => exact htracked.closeCallback hclosing
  | loopEnds => exact htracked.of_eq rfl rfl
  | stopServer hthis => exact htracked.stopServer hthis
  | destroy _ => contradiction

/-- Nothing was ever allocated. -/
def Unused (life : ServerLife) : Prop :=
  ∀ name, life.world.handles.get? name = none

theorem stopServer_unused_iff (life : ServerLife) (this : CTemplateSocket) :
    (life.stopServer this).Unused ↔ life.Unused := by
  rw [stopServer_eq]
  cases this.socket with
  | none => rfl
  | some name => simp [Unused, log, modifyHandle]

theorem destroy_unused_iff (life : ServerLife) (this : CTemplateSocket) :
    (life.destroy this).Unused ↔ life.Unused := by
  unfold destroy
  cases this.socket with
  | none => rfl
  | some name => simp [Unused, log, modifyHandle]

theorem Steps.unused_iff
    {life next : ServerLife} {event : LifeEvent}
    (hsteps : life.Steps event next) :
    next.Unused ↔ life.Unused ∧ event.isBind = false := by
  cases hsteps with
  | @bind this ip port udp libuv hthis =>
      obtain ⟨handle, _, hhandles, _⟩ :=
        World.bind_socket hthis ip port udp libuv
      have hused : ¬ (life.bind this ip port udp libuv).Unused := by
        intro hunused
        have hfresh := hunused life.world.handles.fresh
        change (life.world.bind 0 this ip port udp libuv).2.handles.get? _ =
          none at hfresh
        rw [hhandles, Arena.get?_alloc_fresh] at hfresh
        contradiction
      simp [hused, LifeEvent.isBind]
  | startServer => simp [Unused, LifeEvent.isBind]
  | closeCallback _ =>
      simp [Unused, ServerLife.closeCallback, World.libuvCallbackOnClose,
        LifeEvent.isBind]
  | loopEnds => simp [Unused, LifeEvent.isBind]
  | stopServer _ => simp [stopServer_unused_iff, LifeEvent.isBind]
  | destroy _ => simp [destroy_unused_iff, LifeEvent.isBind]

/-! ## The end of the object -/

structure FreedOnce (life : ServerLife) : Prop where
  once : ∀ name handle, life.world.handles.get? name = some handle →
    releaseCount MemoryCall.frees life.memory name = 1
  unregistered : ∀ name, .free name true ∉ life.memory
  quiet : QuietAfterRelease MemoryCall.uses MemoryCall.frees life.memory

theorem destroy_of_unbound
    (life : ServerLife) {this : CTemplateSocket} (hsocket : this.socket = none) :
    (life.destroy this).memory = life.memory ∧
      (life.destroy this).world.handles = life.world.handles := by
  simp [destroy, hsocket]

theorem destroy_of_bound
    (life : ServerLife) {this : CTemplateSocket} {name : ℕ}
    (hsocket : this.socket = some name) :
    (life.destroy this).memory =
        life.memory ++ [.free name (life.isRegistered name)] ∧
      (life.destroy this).world.handles =
        life.world.handles.modify name Handle.free := by
  simp [destroy, hsocket, log, modifyHandle]

theorem FreedOnce.of_no_frees
    {life : ServerLife} (hunused : life.Unused)
    (hfrees : ∀ call ∈ life.memory, call.frees = none) : life.FreedOnce where
  once name handle hget := by
    rw [hunused name] at hget
    contradiction
  unregistered name hmem := by
    have hnone := hfrees _ hmem
    contradiction
  quiet := by
    have hnil : QuietAfterRelease MemoryCall.uses MemoryCall.frees [] :=
      quietAfterRelease_nil
    rw [← List.nil_append life.memory]
    apply hnil.append hfrees
    simp

/-- The destructor frees what `m_socket` points to a second time, or while the
loop still lists it. -/
theorem Tracked.not_freedOnce_of_bound
    {life : ServerLife} (htracked : life.Tracked) {this : CTemplateSocket}
    (hthis : life.this? = some this) {name : ℕ}
    (hsocket : this.socket = some name) : ¬ (life.destroy this).FreedOnce := by
  intro hfreed
  obtain ⟨hmemory, hhandles⟩ := destroy_of_bound life hsocket
  obtain ⟨handle, hget, hhandle⟩ := htracked.bound this name hthis hsocket
  obtain hregistered | hmem := hhandle
  · have hlisted : life.isRegistered name = true := by
      simp [isRegistered, hget, hregistered]
    apply hfreed.unregistered name
    rw [hmemory, hlisted]
    exact List.mem_append_right _ (List.mem_singleton_self _)
  · have hlater : (life.destroy this).world.handles.get? name =
        some handle.free := by
      rw [hhandles]
      exact Arena.get?_modify_self hget _
    have honce := hfreed.once name _ hlater
    have hbefore : releaseCount MemoryCall.frees life.memory name ≠ 0 := by
      intro hzero
      exact releaseCount_eq_zero_iff.mp hzero _ hmem rfl
    rw [hmemory, releaseCount_append, releaseCount_singleton,
      if_pos (by rfl)] at honce
    omega

theorem Tracked.unbound_of_unused
    {life : ServerLife} (htracked : life.Tracked) (hunused : life.Unused)
    {this : CTemplateSocket} (hthis : life.this? = some this) :
    this.socket = none := by
  cases hsocket : this.socket with
  | none => rfl
  | some name =>
      obtain ⟨handle, hget, _⟩ := htracked.bound this name hthis hsocket
      rw [hunused name] at hget
      contradiction

theorem Tracked.freedOnce_destroy_iff
    {life : ServerLife} (htracked : life.Tracked) {this : CTemplateSocket}
    (hthis : life.this? = some this) :
    (life.destroy this).FreedOnce ↔ (life.destroy this).Unused := by
  rw [destroy_unused_iff]
  constructor
  · intro hfreed
    cases hsocket : this.socket with
    | some name =>
        exact absurd hfreed (htracked.not_freedOnce_of_bound hthis hsocket)
    | none =>
        obtain ⟨hfrees, _⟩ := htracked.unbound this hthis hsocket
        obtain ⟨hmemory, hhandles⟩ := destroy_of_unbound life hsocket
        intro name
        cases hget : life.world.handles.get? name with
        | none => rfl
        | some handle =>
            have honce := hfreed.once name handle (by rw [hhandles, hget])
            have hzero : releaseCount MemoryCall.frees life.memory name = 0 := by
              apply releaseCount_eq_zero_iff.mpr
              intro call hmem
              simp [hfrees call hmem]
            rw [hmemory, hzero] at honce
            contradiction
  · intro hunused
    have hsocket := htracked.unbound_of_unused hunused hthis
    obtain ⟨hmemory, _⟩ := destroy_of_unbound life hsocket
    apply FreedOnce.of_no_frees ((destroy_unused_iff life this).mpr hunused)
    rw [hmemory]
    exact (htracked.unbound this hthis hsocket).1

/-- Before its destructor the object is tracked; nothing happens after it. -/
def Alive (life : ServerLife) : Prop :=
  life.destroyed = false → life.Tracked

theorem step_preserves_alive :
    Preserves step (fun _ => True) Alive := by
  intro life event next halive _ hstep hnext
  obtain ⟨_, _, hdestroyed⟩ := exists_this_of_step hstep
  have hsteps := steps_of_step hstep
  apply hsteps.tracked _ (halive hdestroyed)
  cases hsteps with
  | destroy _ => simp [destroy] at hnext
  | _ => rfl

/-- Every handle is freed once and in time exactly where there is none: no
`Bind` was ever called. -/
theorem freedOnce_iff_never_bound
    (events : List LifeEvent) (final : ServerLife)
    (hrun : run step new (events ++ [.destroy]) = .ok final) :
    final.FreedOnce ↔ ∀ event ∈ events, event.isBind = false := by
  obtain ⟨last, hbefore, hdestroy⟩ := run_append_eq_ok_iff.mp hrun
  obtain ⟨next, hstep, hnil⟩ := run_cons_eq_ok_iff.mp hdestroy
  cases hnil
  obtain ⟨this, hthis, hdestroyed⟩ := exists_this_of_step hstep
  have hlast : last.Tracked :=
    step_preserves_alive.run (fun _ => new_tracked) (fun _ _ => trivial) hbefore
      hdestroyed
  have hfinal : final = last.destroy this := by
    cases steps_of_step hstep with
    | destroy hsame =>
        rw [hthis] at hsame
        cases hsame
        rfl
  have hnew : new.Unused := by
    intro name
    exact Arena.get?_empty name
  have hpres : Preserves step (fun _ => True) fun _ => True :=
    fun _ _ _ _ _ _ => trivial
  calc
    final.FreedOnce ↔ last.Unused := by
      rw [hfinal, hlast.freedOnce_destroy_iff hthis, destroy_unused_iff]
    _ ↔ new.Unused ∧ ∀ event ∈ events, event.isBind = false :=
      hpres.run_iff_forall Unused (fun event => event.isBind = false)
        (fun _ _ _ _ _ hstep => (steps_of_step hstep).unused_iff) trivial
        (fun _ _ => trivial) hbefore
    _ ↔ ∀ event ∈ events, event.isBind = false := and_iff_right hnew

/-- A server that is stopped properly: the loop runs until the close callback
has freed the handle. -/
def servedAndStopped : List LifeEvent :=
  [.bind [] 0 false (.success ⟨0, 0⟩), .startServer, .stopServer,
    .closeCallback 0, .loopEnds]

theorem freedOnce_iff_never_bound_servedAndStopped :
    ∃ final, run step new (servedAndStopped ++ [.destroy]) = .ok final ∧
      (final.FreedOnce ↔
        ∀ event ∈ servedAndStopped, event.isBind = false) :=
  ⟨_, rfl, freedOnce_iff_never_bound servedAndStopped _ rfl⟩

/-- The close callback frees the handle and the destructor frees it again. -/
theorem listening_handle_freed_twice :
    ∃ final, run step new (servedAndStopped ++ [.destroy]) = .ok final ∧
      releaseCount MemoryCall.frees final.memory 0 = 2 ∧ ¬ final.FreedOnce := by
  refine ⟨_, rfl, by decide, ?_⟩
  intro hfreed
  have honce := hfreed.once 0 _ rfl
  revert honce
  decide

end ServerLife

end MDK
