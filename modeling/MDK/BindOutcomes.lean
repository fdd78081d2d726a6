import MDK.BindSteps
import MDK.ServerLifetime

/-!
# What Bind leaves

A `Bind` succeeds exactly when libuv refuses nothing.  Wherever it fails, it
leaves the handle it allocated, and `m_sockType` of a UDP bind, behind.
-/

namespace MDK

/-- libuv refuses nothing during the `Bind`. -/
structure BindAnswers.Succeeds (libuv : BindAnswers) (ip : List UInt8)
    (port : ℤ) : Prop where
  init : libuv.init = 0
  bind : libuv.bind (libuv.ip4Addr ip port).2 = 0
  listen : libuv.listen = 0

/-- The handle of a server after a successful `Bind`. -/
def Handle.ofServer (loop : ℕ) (addr : SockAddr) (udp : Bool) (record : ℕ) :
    Handle :=
  ((((Handle.malloc (.ofUdp udp)).uvInit loop).uvBind addr).uvStart
    udp).storeData (.clientData record)

theorem CTemplateSocket.typed_loop (this : CTemplateSocket) (udp : Bool) :
    (this.typed udp).loop = this.loop := by
  cases udp with
  | false => rfl
  | true => rfl

theorem CTemplateSocket.typed_socket (this : CTemplateSocket) (udp : Bool) :
    (this.typed udp).socket = this.socket := by
  cases udp with
  | false => rfl
  | true => rfl

theorem CTemplateSocket.typed_sockType_udp_iff
    (this : CTemplateSocket) (udp : Bool) :
    (this.typed udp).sockType = .udp ↔ udp = true ∨ this.sockType = .udp := by
  cases udp with
  | false => simp [CTemplateSocket.typed]
  | true => simp [CTemplateSocket.typed]

theorem ESocketType.ofUdp_eq_udp_iff (udp : Bool) :
    ESocketType.ofUdp udp = .udp ↔ udp = true := by
  cases udp with
  | false => simp [ESocketType.ofUdp]
  | true => simp [ESocketType.ofUdp]

theorem Handle.uvClose_kind (handle : Handle) :
    handle.uvClose.kind = handle.kind := by
  unfold Handle.uvClose
  split_ifs
  · rfl
  · rfl

theorem World.bind_of_succeeds
    {ip : List UInt8} {port : ℤ} {libuv : BindAnswers}
    (hsucceeds : libuv.Succeeds ip port) (world : World) (server : ℕ)
    (this : CTemplateSocket) (udp : Bool) :
    world.bind server this ip port udp libuv =
      (true, { world with
          records := world.records.alloc (CClientData.new server) }.leaveBind
        server { this.typed udp with socket := some world.handles.fresh }
        (Handle.ofServer this.loop (libuv.ip4Addr ip port).2 udp
          world.records.fresh)
        [if udp then .uvUdpRecvStart server world.handles.fresh libuv.listen
          else .uvListen server world.handles.fresh libuv.listen]) := by
  obtain ⟨hinit, hbind, hlisten⟩ := hsucceeds
  simp only [World.bind, hinit, hbind, hlisten, ne_eq, not_true_eq_false,
    if_false]
  cases udp with
  | false => rfl
  | true => rfl

theorem World.bind_handles_of_succeeds
    {ip : List UInt8} {port : ℤ} {libuv : BindAnswers}
    (hsucceeds : libuv.Succeeds ip port) (world : World) (server : ℕ)
    (this : CTemplateSocket) (udp : Bool) :
    (world.bind server this ip port udp libuv).2.handles =
      world.handles.alloc (Handle.ofServer this.loop
        (libuv.ip4Addr ip port).2 udp world.records.fresh) := by
  rw [World.bind_of_succeeds hsucceeds]
  rfl

theorem World.bind_sockets_of_succeeds
    {ip : List UInt8} {port : ℤ} {libuv : BindAnswers}
    (hsucceeds : libuv.Succeeds ip port) {world : World} {server : ℕ}
    {this : CTemplateSocket} (hthis : world.sockets.get? server = some this)
    (udp : Bool) :
    (world.bind server this ip port udp libuv).2.sockets.get? server =
      some { this.typed udp with socket := some world.handles.fresh } := by
  rw [World.bind_of_succeeds hsucceeds]
  exact Arena.get?_modify_self hthis _

/-- The handle that a failed `Bind` leaves is in the loop if `init` succeeded. -/
theorem World.bind_of_not_succeeds
    {ip : List UInt8} {port : ℤ} {libuv : BindAnswers}
    (hfails : ¬ libuv.Succeeds ip port) (world : World) (server : ℕ)
    (this : CTemplateSocket) (udp : Bool) :
    ∃ handle calls, world.bind server this ip port udp libuv =
        (false, world.leaveBind server (this.typed udp) handle calls) ∧
      (libuv.init ≠ 0 ∧ handle.status = .allocated ∨
        libuv.init = 0 ∧ handle.status = .active ∧
          handle.loop = some this.loop) := by
  have hloop := this.typed_loop udp
  by_cases hinit : libuv.init = 0
  · by_cases hbind : libuv.bind (libuv.ip4Addr ip port).2 = 0
    · have hlisten : libuv.listen ≠ 0 := fun hzero =>
        hfails ⟨hinit, hbind, hzero⟩
      simp only [World.bind, hinit, hbind, hlisten, ne_eq, not_true_eq_false,
        not_false_eq_true, if_false, if_true]
      exact ⟨_, _, rfl, Or.inr ⟨trivial, rfl, congrArg some hloop⟩⟩
    · simp only [World.bind, hinit, hbind, ne_eq, not_true_eq_false,
        not_false_eq_true, if_false, if_true]
      exact ⟨_, _, rfl, Or.inr ⟨trivial, rfl, congrArg some hloop⟩⟩
  · simp only [World.bind, hinit, ne_eq, not_false_eq_true, if_true]
    exact ⟨_, _, rfl, Or.inl ⟨trivial, rfl⟩⟩

theorem World.bind_eq_true_iff
    (world : World) (server : ℕ) (this : CTemplateSocket) (ip : List UInt8)
    (port : ℤ) (udp : Bool) (libuv : BindAnswers) :
    (world.bind server this ip port udp libuv).1 = true ↔
      libuv.Succeeds ip port := by
  by_cases hsucceeds : libuv.Succeeds ip port
  · rw [World.bind_of_succeeds hsucceeds]
    simp [hsucceeds]
  · obtain ⟨_, _, hbind, _⟩ :=
      World.bind_of_not_succeeds hsucceeds world server this udp
    rw [hbind]
    simp [hsucceeds]

/-! ## After a failed Bind -/

/-- The loop lists the handle of the given name. -/
def World.Registers (world : World) (loop name : ℕ) : Prop :=
  ∃ handle, world.handles.get? name = some handle ∧
    handle.loop = some loop ∧ handle.status.isRegistered = true

/-- The members of the object and the handles of its loop are the same, and
what was allocated in between has been released. -/
structure World.UnchangedBy (world next : World) (server : ℕ)
    (this : CTemplateSocket) : Prop where
  sockType : (next.sockets.get? server).map (·.sockType) = some this.sockType
  socket : (next.sockets.get? server).map (·.socket) = some this.socket
  registered : ∀ name,
    next.Registers this.loop name ↔ world.Registers this.loop name
  released : ∀ name handle, world.handles.fresh ≤ name →
    next.handles.get? name = some handle → handle.status = .freed

theorem World.leaveBind_sockets
    {world : World} {server : ℕ} {this : CTemplateSocket}
    (hthis : world.sockets.get? server = some this) (later : CTemplateSocket)
    (handle : Handle) (calls : List Call) :
    (world.leaveBind server later handle calls).sockets.get? server =
      some later :=
  Arena.get?_modify_self hthis _

theorem CTemplateSocket.typed_sockType_eq_iff
    (this : CTemplateSocket) (udp : Bool) :
    (this.typed udp).sockType = this.sockType ↔
      udp = false ∨ this.sockType = .udp := by
  cases udp with
  | false => simp [CTemplateSocket.typed]
  | true => simp [CTemplateSocket.typed, eq_comm]

theorem World.leaveBind_registers_iff
    (world : World) (server : ℕ) (later : CTemplateSocket) (handle : Handle)
    (calls : List Call) (loop name : ℕ) :
    (world.leaveBind server later handle calls).Registers loop name ↔
      world.Registers loop name ∨
        name = world.handles.fresh ∧ handle.loop = some loop ∧
          handle.status.isRegistered = true := by
  unfold World.Registers
  constructor
  · rintro ⟨found, hget, hloop, hlisted⟩
    obtain ⟨rfl, rfl⟩ | hold := Arena.get?_alloc_cases hget
    · exact Or.inr ⟨rfl, hloop, hlisted⟩
    · exact Or.inl ⟨found, hold, hloop, hlisted⟩
  · rintro (⟨found, hget, hloop, hlisted⟩ | ⟨rfl, hloop, hlisted⟩)
    · exact ⟨found, Arena.get?_alloc_of_some hget _, hloop, hlisted⟩
    · exact ⟨handle, Arena.get?_alloc_fresh _ _, hloop, hlisted⟩

/-- A failed `Bind` keeps `m_sockType` unless it makes it UDP, keeps the handles
of the loop if `init` failed, and never releases its own handle. -/
theorem World.failed_bind_leaves
    {world : World} {server : ℕ} {this : CTemplateSocket}
    (hthis : world.sockets.get? server = some this) {ip : List UInt8}
    {port : ℤ} {udp : Bool} {libuv : BindAnswers} {next : World}
    (hbind : world.bind server this ip port udp libuv = (false, next)) :
    ((next.sockets.get? server).map (·.sockType) = some this.sockType ↔
        udp = false ∨ this.sockType = .udp) ∧
      (next.sockets.get? server).map (·.socket) = some this.socket ∧
      ((∀ name, next.Registers this.loop name ↔
          world.Registers this.loop name) ↔ libuv.init ≠ 0) ∧
      ∃ handle, next.handles.get? world.handles.fresh = some handle ∧
        handle.status ≠ .freed := by
  have hfails : ¬ libuv.Succeeds ip port := by
    intro hsucceeds
    have htrue := (world.bind_eq_true_iff server this ip port udp libuv).mpr
      hsucceeds
    rw [hbind] at htrue
    contradiction
  obtain ⟨handle, calls, hleave, hheld⟩ :=
    World.bind_of_not_succeeds hfails world server this udp
  rw [hbind, Prod.mk.injEq] at hleave
  have hfresh : ¬ world.Registers this.loop world.handles.fresh := by
    rintro ⟨found, hget, _⟩
    rw [Arena.get?_fresh] at hget
    contradiction
  rw [hleave.2, World.leaveBind_sockets hthis]
  refine ⟨?_, ?_, ?_, handle, Arena.get?_alloc_fresh _ _, ?_⟩
  · rw [Option.map_some, Option.some.injEq]
    exact this.typed_sockType_eq_iff udp
  · rw [Option.map_some, this.typed_socket]
  · simp only [World.leaveBind_registers_iff]
    obtain ⟨hinit, hstatus⟩ | ⟨hinit, hstatus, hloop⟩ := hheld
    · simp [hinit, hstatus, HandleStatus.isRegistered]
    · simp only [hinit, ne_eq, not_true_eq_false, iff_false]
      intro hsame
      exact hfresh ((hsame world.handles.fresh).mp
        (Or.inr ⟨rfl, hloop, by rw [hstatus]; rfl⟩))
  · obtain ⟨_, hstatus⟩ | ⟨_, hstatus, _⟩ := hheld
    · simp [hstatus]
    · simp [hstatus]

/-- Wherever libuv refuses, the handle of the failed `Bind` is left, so `Bind`
changes nothing on failure exactly when it does not fail. -/
theorem World.bind_unchanged_iff
    {world : World} {server : ℕ} {this : CTemplateSocket}
    (hthis : world.sockets.get? server = some this) (ip : List UInt8)
    (port : ℤ) (udp : Bool) (libuv : BindAnswers) :
    ((world.bind server this ip port udp libuv).1 = false →
        world.UnchangedBy (world.bind server this ip port udp libuv).2 server
          this) ↔
      libuv.Succeeds ip port := by
  rw [← world.bind_eq_true_iff server this ip port udp libuv]
  constructor
  · intro hunchanged
    by_contra htrue
    have hfalse : (world.bind server this ip port udp libuv).1 = false := by
      simpa using htrue
    have hbind : world.bind server this ip port udp libuv =
        (false, (world.bind server this ip port udp libuv).2) :=
      Prod.ext hfalse rfl
    obtain ⟨_, _, _, handle, hget, hheld⟩ := World.failed_bind_leaves hthis hbind
    exact hheld
      ((hunchanged hfalse).released _ handle (Nat.le_refl _) hget)
  · intro htrue hfalse
    rw [htrue] at hfalse
    contradiction

/-- `EADDRINUSE` for a UDP bind. -/
def addressInUse : BindAnswers :=
  { BindAnswers.success ⟨0, 0⟩ with bind := fun _ => -98 }

theorem bind_unchanged_iff_first :
    ((World.empty.construct.bind 0 (.new 0) [] 0 true addressInUse).1 = false →
        World.empty.construct.UnchangedBy
          (World.empty.construct.bind 0 (.new 0) [] 0 true addressInUse).2 0
          (.new 0)) ↔
      addressInUse.Succeeds [] 0 :=
  World.bind_unchanged_iff rfl [] 0 true addressInUse

/-- The handle stays open in the loop, and the object has become a UDP server. -/
theorem failed_bind_leaves_handle :
    ¬ ∀ (world : World) (server : ℕ) (this : CTemplateSocket),
      world.sockets.get? server = some this →
      ∀ (ip : List UInt8) (port : ℤ) (udp : Bool) (libuv : BindAnswers),
      (world.bind server this ip port udp libuv).1 = false →
      world.UnchangedBy (world.bind server this ip port udp libuv).2 server
        this := by
  intro hall
  have hunchanged := hall World.empty.construct 0 (.new 0) rfl [] 0 true
    addressInUse rfl
  have hsockType := hunchanged.sockType
  revert hsockType
  decide

end MDK
