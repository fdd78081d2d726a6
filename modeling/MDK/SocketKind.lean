import MDK.BindOutcomes

/-!
# The kind of the socket and its tag

`GetType` reads `m_sockType`, which `Bind` writes for a UDP socket only and
before it can fail, while `m_socket` is written when everything has succeeded.
-/

namespace MDK

open StepSystem

namespace ServerLife

/-- Where `m_socket` is not NULL, `GetType` tells the kind of its handle, and
`StopServer` stops receiving on a UDP handle only. -/
structure NamesKind (life : ServerLife) : Prop where
  sockType : ∀ this name handle, life.this? = some this →
    this.socket = some name → life.world.handles.get? name = some handle →
    (this.sockType = .udp ↔ handle.kind = .udp)
  recvStop : ∀ this name handle, life.this? = some this →
    this.socket = some name → life.world.handles.get? name = some handle →
    (.uvUdpRecvStop (some name) ∈ stopCalls this ↔ handle.kind = .udp)

/-- A TCP bind succeeds on an object tagged TCP only, and a UDP bind fails only
where there is no socket or the object is tagged UDP. -/
def BindKeepsTag (life : ServerLife) : LifeEvent → Prop
  | .bind ip port udp libuv => ∀ this, life.this? = some this →
      (libuv.Succeeds ip port → udp = true ∨ this.sockType = .tcp) ∧
      (¬ libuv.Succeeds ip port →
        udp = false ∨ this.socket = none ∨ this.sockType = .udp)
  | .startServer => True
  | .closeCallback _ => True
  | .loopEnds => True
  | .stopServer => True
  | .destroy => True

theorem mem_stopCalls_iff {this : CTemplateSocket} {name : ℕ}
    (hsocket : this.socket = some name) :
    .uvUdpRecvStop (some name) ∈ stopCalls this ↔ this.sockType = .udp := by
  unfold stopCalls
  rw [hsocket]
  split_ifs with hudp
  · simp [hudp]
  · simp [hudp]

/-- The two fields say the same of the object and its handle. -/
theorem namesKind_iff
    {life : ServerLife} {this : CTemplateSocket}
    (hthis : life.this? = some this) :
    life.NamesKind ↔ ∀ name handle, this.socket = some name →
      life.world.handles.get? name = some handle →
      (this.sockType = .udp ↔ handle.kind = .udp) := by
  constructor
  · intro hnames name handle hsocket hget
    exact hnames.sockType this name handle hthis hsocket hget
  · intro hnames
    constructor
    · intro other name handle hother hsocket hget
      cases hthis.symm.trans hother
      exact hnames name handle hsocket hget
    · intro other name handle hother hsocket hget
      cases hthis.symm.trans hother
      rw [mem_stopCalls_iff hsocket]
      exact hnames name handle hsocket hget

/-- The object is the same, and every handle has the kind it had. -/
theorem NamesKind.of_modify
    {life next : ServerLife} (hnames : life.NamesKind)
    (hthis : next.this? = life.this?) (name : ℕ) {change : Handle → Handle}
    (hkind : ∀ handle, (change handle).kind = handle.kind)
    (hhandles : next.world.handles = life.world.handles.modify name change) :
    next.NamesKind := by
  have hkinds : ∀ pointed handle, next.world.handles.get? pointed = some handle →
      ∃ old, life.world.handles.get? pointed = some old ∧
        handle.kind = old.kind := by
    intro pointed handle hget
    rw [hhandles] at hget
    obtain ⟨old, hold, ⟨_, rfl⟩ | ⟨_, rfl⟩⟩ := Arena.get?_modify_cases hget
    · exact ⟨old, hold, hkind old⟩
    · exact ⟨handle, hold, rfl⟩
  constructor
  · intro this pointed handle hnext hsocket hget
    obtain ⟨old, hold, heq⟩ := hkinds pointed handle hget
    rw [heq]
    exact hnames.sockType this pointed old (hthis ▸ hnext) hsocket hold
  · intro this pointed handle hnext hsocket hget
    obtain ⟨old, hold, heq⟩ := hkinds pointed handle hget
    rw [heq]
    exact hnames.recvStop this pointed old (hthis ▸ hnext) hsocket hold

/-! ## One step -/

/-- The new socket has the kind that was asked for, whatever the tag was. -/
theorem namesKind_bind_iff_of_succeeds
    {life : ServerLife} {this : CTemplateSocket}
    (hthis : life.this? = some this) {ip : List UInt8} {port : ℤ} {udp : Bool}
    {libuv : BindAnswers} (hsucceeds : libuv.Succeeds ip port) :
    (life.bind this ip port udp libuv).NamesKind ↔
      udp = true ∨ this.sockType = .tcp := by
  have hlater : (life.bind this ip port udp libuv).this? =
      some { this.typed udp with socket := some life.world.handles.fresh } :=
    World.bind_sockets_of_succeeds hsucceeds hthis udp
  have hget : (life.bind this ip port udp libuv).world.handles.get?
      life.world.handles.fresh = some (Handle.ofServer this.loop
        (libuv.ip4Addr ip port).2 udp life.world.records.fresh) := by
    change (life.world.bind 0 this ip port udp libuv).2.handles.get? _ = _
    rw [World.bind_handles_of_succeeds hsucceeds]
    exact Arena.get?_alloc_fresh _ _
  have hagrees : ((this.typed udp).sockType = .udp ↔
      ESocketType.ofUdp udp = .udp) ↔ udp = true ∨ this.sockType = .tcp := by
    rw [this.typed_sockType_udp_iff, ESocketType.ofUdp_eq_udp_iff]
    cases udp with
    | true => simp
    | false => cases this.sockType with
      | tcp => simp
      | udp => simp
  rw [namesKind_iff hlater, ← hagrees]
  constructor
  · intro hnames
    exact hnames _ _ rfl hget
  · intro hkind name handle hsocket hhandle
    cases hsocket
    cases hget.symm.trans hhandle
    exact hkind

/-- The old socket stays, and only the tag may change. -/
theorem namesKind_bind_iff_of_not_succeeds
    {life : ServerLife} (htracked : life.Tracked) (hnames : life.NamesKind)
    {this : CTemplateSocket} (hthis : life.this? = some this)
    {ip : List UInt8} {port : ℤ} {udp : Bool} {libuv : BindAnswers}
    (hfails : ¬ libuv.Succeeds ip port) :
    (life.bind this ip port udp libuv).NamesKind ↔
      udp = false ∨ this.socket = none ∨ this.sockType = .udp := by
  obtain ⟨left, calls, hleave, _⟩ :=
    World.bind_of_not_succeeds hfails life.world 0 this udp
  have hnext : (life.bind this ip port udp libuv).world =
      life.world.leaveBind 0 (this.typed udp) left calls :=
    congrArg Prod.snd hleave
  have hlater : (life.bind this ip port udp libuv).this? =
      some (this.typed udp) := by
    rw [ServerLife.this?, hnext]
    exact World.leaveBind_sockets hthis _ _ _
  rw [namesKind_iff hlater, this.typed_socket, this.typed_sockType_udp_iff]
  cases hsocket : this.socket with
  | none => simp
  | some pointed =>
      obtain ⟨handle, hget, _⟩ := htracked.bound this pointed hthis hsocket
      have hold := hnames.sockType this pointed handle hthis hsocket hget
      have hsame : (life.bind this ip port udp libuv).world.handles.get?
          pointed = some handle := by
        rw [hnext]
        exact Arena.get?_alloc_of_some hget left
      have hagrees : (udp = true ∨ this.sockType = .udp ↔ handle.kind = .udp) ↔
          udp = false ∨ this.sockType = .udp := by
        rw [← hold]
        cases udp with
        | true => simp
        | false => simp
      simp only [reduceCtorEq, false_or]
      rw [← hagrees]
      constructor
      · intro hkind
        exact hkind pointed handle rfl hsame
      · intro hkind name other hname hother
        cases hname
        cases hsame.symm.trans hother
        exact hkind

theorem namesKind_bind_iff
    {life : ServerLife} (htracked : life.Tracked) (hnames : life.NamesKind)
    {this : CTemplateSocket} (hthis : life.this? = some this)
    (ip : List UInt8) (port : ℤ) (udp : Bool) (libuv : BindAnswers) :
    (life.bind this ip port udp libuv).NamesKind ↔
      (libuv.Succeeds ip port → udp = true ∨ this.sockType = .tcp) ∧
      (¬ libuv.Succeeds ip port →
        udp = false ∨ this.socket = none ∨ this.sockType = .udp) := by
  by_cases hsucceeds : libuv.Succeeds ip port
  · rw [namesKind_bind_iff_of_succeeds hthis hsucceeds]
    simp [hsucceeds]
  · rw [namesKind_bind_iff_of_not_succeeds htracked hnames hthis hsucceeds]
    simp [hsucceeds]

theorem step_namesKind_iff
    {life next : ServerLife} {event : LifeEvent} (halive : life.Alive)
    (hnames : life.NamesKind) (hstep : life.step event = .ok next) :
    next.NamesKind ↔ life.BindKeepsTag event := by
  obtain ⟨_, _, hdestroyed⟩ := exists_this_of_step hstep
  have htracked := halive hdestroyed
  cases steps_of_step hstep with
  | @bind this ip port udp libuv hthis =>
      rw [namesKind_bind_iff htracked hnames hthis]
      constructor
      · intro htag other hother
        cases hthis.symm.trans hother
        exact htag
      · intro htag
        exact htag this hthis
  | startServer => exact iff_of_true ⟨hnames.sockType, hnames.recvStop⟩ trivial
  | @closeCallback name _ =>
      refine iff_of_true ?_ trivial
      have hkind : ∀ handle : Handle, ({ handle with
          data := .empty, status := .freed } : Handle).kind = handle.kind :=
        fun _ => rfl
      exact hnames.of_modify rfl name hkind rfl
  | loopEnds => exact iff_of_true ⟨hnames.sockType, hnames.recvStop⟩ trivial
  | @stopServer this _ =>
      refine iff_of_true ?_ trivial
      rw [stopServer_eq]
      cases this.socket with
      | none => exact ⟨hnames.sockType, hnames.recvStop⟩
      | some name => exact hnames.of_modify rfl name Handle.uvClose_kind rfl
  | @destroy this hthis =>
      refine iff_of_true ?_ trivial
      have hlater : (life.destroy this).this? =
          some { this with socket := none } := by
        cases hsocket : this.socket with
        | none =>
            simpa [destroy, hsocket, this?] using
              Arena.get?_modify_self hthis fun this => { this with socket := none }
        | some name =>
            simpa [destroy, hsocket, this?, log, modifyHandle] using
              Arena.get?_modify_self hthis fun this => { this with socket := none }
      rw [namesKind_iff hlater]
      intro name handle hsome
      contradiction

/-- In every state of a run the tag names the kind of the socket exactly when
no TCP bind succeeds on an object tagged UDP and no UDP bind fails on one that
has a TCP socket. -/
theorem namesKind_throughout_iff
    (events : List LifeEvent) (final : ServerLife)
    (hrun : run step new events = .ok final) :
    HoldsThroughout step NamesKind new events ↔
      StepsMeet step BindKeepsTag new events := by
  have hnew : new.NamesKind := by
    have hthis : new.this? = some (CTemplateSocket.new 0) := rfl
    rw [namesKind_iff hthis]
    intro name handle hsome
    contradiction
  exact step_preserves_alive.holdsThroughout_iff_stepsMeet
    (fun _ _ _ halive hnames _ hstep => step_namesKind_iff halive hnames hstep)
    (fun _ => new_tracked) hnew (fun _ _ => trivial) hrun

theorem namesKind_throughout_iff_servedAndStopped :
    HoldsThroughout step NamesKind new servedAndStopped ↔
      StepsMeet step BindKeepsTag new servedAndStopped :=
  namesKind_throughout_iff servedAndStopped _ rfl

/-- A UDP bind that fails after a TCP bind leaves a TCP socket tagged UDP, on
which `StopServer` would stop receiving datagrams. -/
def tcpThenFailedUdp : List LifeEvent :=
  [.bind [] 0 false (.success ⟨0, 0⟩), .bind [] 0 true addressInUse]

theorem failed_udp_bind_retags :
    ¬ ∀ (events : List LifeEvent) (final : ServerLife),
      run step new events = .ok final →
      HoldsThroughout step NamesKind new events := by
  intro hall
  have hnames := hall tcpThenFailedUdp _ rfl tcpThenFailedUdp
    (List.prefix_refl _) _ rfl
  have hkind := hnames.sockType _ 0 _ rfl rfl rfl
  revert hkind
  decide

end ServerLife

end MDK
