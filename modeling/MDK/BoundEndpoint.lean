import MDK.BindOutcomes
import MDK.DecimalText
import MDK.StartArguments

/-!
# Where the server listens

`Bind` hands its address text and port to `uv_ip4_addr` and ignores what it
returns.  A text that is no dotted quad becomes `0.0.0.0`, and a port loses all
but its lowest 16 bits.
-/

namespace MDK

open StepSystem

/-- The port that `uv_ip4_addr` stores. -/
def portModulo (port : ℤ) : UInt16 :=
  UInt16.ofNat (port % 2 ^ 16).toNat

/-- What is documented of `uv_ip4_addr`: the port is stored in any case, and a
text that does not parse is reported and leaves the address zero. -/
structure Ip4AddrDocumented (ip4Addr : List UInt8 → ℤ → ℤ × SockAddr) :
    Prop where
  parses : ∀ ip port address, DecimalText.dottedQuad? ip = some address →
    ip4Addr ip port = (0, ⟨address, portModulo port⟩)
  refuses : ∀ ip port, DecimalText.dottedQuad? ip = none →
    (ip4Addr ip port).1 ≠ 0 ∧ (ip4Addr ip port).2 = ⟨0, portModulo port⟩

def uvIp4Addr (ip : List UInt8) (port : ℤ) : ℤ × SockAddr :=
  match DecimalText.dottedQuad? ip with
  | some address => (0, ⟨address, portModulo port⟩)
  | none => (-22, ⟨0, portModulo port⟩)

theorem uvIp4Addr_documented : Ip4AddrDocumented uvIp4Addr where
  parses ip port address hquad := by rw [uvIp4Addr, hquad]
  refuses ip port hnone := by
    rw [uvIp4Addr, hnone]
    simp

/-- The endpoint is the address of the text and the port. -/
def SockAddr.Is (endpoint : SockAddr) (ip : List UInt8) (port : ℤ) : Prop :=
  DecimalText.dottedQuad? ip = some endpoint.address ∧
    (endpoint.port.toNat : ℤ) = port

/-- The text is a dotted quad, and the port is one. -/
def IsEndpoint (ip : List UInt8) (port : ℤ) : Prop :=
  (DecimalText.dottedQuad? ip).isSome = true ∧ 0 ≤ port ∧ port ≤ 65535

/-- The texts of an endpoint are four numbers below 256, joined by dots. -/
theorem isEndpoint_iff {ip : List UInt8} {port : ℤ} :
    IsEndpoint ip port ↔
      (∃ octets : List ℕ, octets.length = 4 ∧ (∀ octet ∈ octets, octet < 256) ∧
        ip = [DecimalText.dot].intercalate (octets.map DecimalText.ofNat)) ∧
      0 ≤ port ∧ port ≤ 65535 := by
  rw [IsEndpoint, Option.isSome_iff_exists]
  refine and_congr_left fun _ => ?_
  constructor
  · rintro ⟨address, hquad⟩
    obtain ⟨octets, hlength, hall, htext, _⟩ :=
      DecimalText.dottedQuad?_eq_some_iff.mp hquad
    exact ⟨octets, hlength, hall, htext⟩
  · rintro ⟨octets, hlength, hall, htext⟩
    exact ⟨DecimalText.quadAddress octets,
      DecimalText.dottedQuad?_eq_some_iff.mpr
        ⟨octets, hlength, hall, htext, rfl⟩⟩

theorem portModulo_toNat (port : ℤ) :
    ((portModulo port).toNat : ℤ) = port % 2 ^ 16 := by
  have hlow : 0 ≤ port % 2 ^ 16 := Int.emod_nonneg _ (by decide)
  have hhigh : port % 2 ^ 16 < 2 ^ 16 := Int.emod_lt_of_pos _ (by decide)
  rw [portModulo, UInt16.toNat_ofNat']
  omega

/-- What `uv_ip4_addr` makes of text and port is their endpoint exactly if they
have one. -/
theorem Ip4AddrDocumented.is_iff
    {ip4Addr : List UInt8 → ℤ → ℤ × SockAddr}
    (hlibuv : Ip4AddrDocumented ip4Addr) (ip : List UInt8) (port : ℤ) :
    (ip4Addr ip port).2.Is ip port ↔ IsEndpoint ip port := by
  unfold SockAddr.Is IsEndpoint
  cases hquad : DecimalText.dottedQuad? ip with
  | none => simp
  | some address =>
      rw [hlibuv.parses ip port address hquad, portModulo_toNat]
      simp only [Option.isSome_some, true_and]
      omega

/-! ## Bind -/

/-- If the call succeeded, the handle behind `m_socket` is bound to the endpoint
that it was told. -/
def World.BindsAsTold (server : ℕ) (ip : List UInt8) (port : ℤ)
    (result : Bool × World) : Prop :=
  result.1 = true → ∃ this name handle endpoint,
    result.2.sockets.get? server = some this ∧ this.socket = some name ∧
    result.2.handles.get? name = some handle ∧ handle.bound = some endpoint ∧
    endpoint.Is ip port

theorem World.bindsAsTold_iff
    {world : World} {server : ℕ} {this : CTemplateSocket}
    (hthis : world.sockets.get? server = some this) (ip : List UInt8)
    (port : ℤ) (udp : Bool) {libuv : BindAnswers}
    (hlibuv : Ip4AddrDocumented libuv.ip4Addr) :
    World.BindsAsTold server ip port
        (world.bind server this ip port udp libuv) ↔
      (libuv.Succeeds ip port → IsEndpoint ip port) := by
  rw [World.BindsAsTold, World.bind_eq_true_iff]
  refine forall_congr' fun hsucceeds => ?_
  have hsockets := World.bind_sockets_of_succeeds hsucceeds hthis udp
  have hget : (world.bind server this ip port udp libuv).2.handles.get?
      world.handles.fresh = some (Handle.ofServer this.loop
        (libuv.ip4Addr ip port).2 udp world.records.fresh) := by
    rw [World.bind_handles_of_succeeds hsucceeds]
    exact Arena.get?_alloc_fresh _ _
  rw [← hlibuv.is_iff]
  constructor
  · rintro ⟨later, name, handle, endpoint, hlater, hname, hhandle, hbound, his⟩
    cases hsockets.symm.trans hlater
    cases hname
    cases hget.symm.trans hhandle
    cases hbound
    exact his
  · intro his
    exact ⟨_, _, _, _, hsockets, rfl, hget, rfl, his⟩

/-! ## Start -/

theorem World.listenHandle_of_succeeds
    {ip : List UInt8} {port : ℤ} {libuv : BindAnswers}
    (hsucceeds : libuv.Succeeds ip port) (world : World) (server : ℕ)
    (this : CTemplateSocket) (udp : Bool) :
    (world.listenHandle server this ip port udp libuv).1 = true ∧
      ∃ handle, (world.listenHandle server this ip port udp
          libuv).2.handles.get? world.handles.fresh = some handle ∧
        handle.bound = some (libuv.ip4Addr ip port).2 := by
  obtain ⟨hinit, hbind, hlisten⟩ := hsucceeds
  simp only [World.listenHandle, hinit, hbind, hlisten, ne_eq,
    not_true_eq_false, if_false, true_and]
  exact ⟨_, Arena.get?_alloc_fresh _ _, rfl⟩

theorem World.listenHandle_eq_true_iff
    (world : World) (server : ℕ) (this : CTemplateSocket) (ip : List UInt8)
    (port : ℤ) (udp : Bool) (libuv : BindAnswers) :
    (world.listenHandle server this ip port udp libuv).1 = true ↔
      libuv.Succeeds ip port := by
  constructor
  · intro htrue
    by_cases hinit : libuv.init = 0
    · by_cases hbind : libuv.bind (libuv.ip4Addr ip port).2 = 0
      · by_cases hlisten : libuv.listen = 0
        · exact ⟨hinit, hbind, hlisten⟩
        · simp [World.listenHandle, hinit, hbind, hlisten] at htrue
      · simp [World.listenHandle, hinit, hbind] at htrue
    · simp [World.listenHandle, hinit] at htrue
  · intro hsucceeds
    exact (World.listenHandle_of_succeeds hsucceeds world server this udp).1

namespace ThreadServer

variable {long : ULong}

/-- If the worker has a socket after its step, the handle of the socket is
bound to the endpoint that it was told. -/
def BindsAsTold (name : ℕ) (ip : List UInt8) (port : ℤ)
    (next : ThreadServer long) : Prop :=
  ∀ socket, next.phase? name = some (.storeSocket socket) →
    ∃ handle endpoint, next.world.handles.get? socket = some handle ∧
      handle.bound = some endpoint ∧ endpoint.Is ip port

theorem step_bindsAsTold_iff
    {server next : ThreadServer long} {name : ℕ} {answers : WorkerAnswers}
    {ip : Option ℕ} {port : ℤ}
    (hphase : server.phase? name = some (.bindHandle ip port))
    (hstep : server.step (.worker name answers) = .ok next)
    (hlibuv : Ip4AddrDocumented answers.bind.ip4Addr) :
    next.BindsAsTold name (server.text ip) port ↔
      (answers.bind.Succeeds (server.text ip) port →
        IsEndpoint (server.text ip) port) := by
  obtain ⟨worker, hget, hworker⟩ := Option.map_eq_some_iff.mp hphase
  unfold step at hstep
  cases hthis : server.this? with
  | none => simp [hthis] at hstep
  | some this =>
      simp only [hthis, hget, hworker, workerStep, Except.ok.injEq] at hstep
      have hlater : next.phase? name = some
          (if (server.world.listenHandle 0 this (server.text ip) port
              server.udp answers.bind).1 then
            .storeSocket server.world.handles.fresh else .storeBindError) := by
        rw [← hstep, phase?, enter, modifyWorker, Arena.get?_modify_self hget]
        rfl
      have hworld : next.world = (server.world.listenHandle 0 this
          (server.text ip) port server.udp answers.bind).2 := by
        rw [← hstep]
        rfl
      rw [BindsAsTold, hlater, hworld]
      by_cases hsucceeds : answers.bind.Succeeds (server.text ip) port
      · obtain ⟨htrue, handle, hhandle, hbound⟩ :=
          World.listenHandle_of_succeeds hsucceeds server.world 0 this server.udp
        rw [htrue, if_pos rfl, ← hlibuv.is_iff]
        simp only [hsucceeds, true_imp_iff]
        constructor
        · intro hall
          obtain ⟨found, endpoint, hfound, hendpoint, his⟩ := hall _ rfl
          cases hhandle.symm.trans hfound
          cases hbound.symm.trans hendpoint
          exact his
        · intro his socket hsocket
          cases hsocket
          exact ⟨handle, _, hhandle, hbound, his⟩
      · have hfalse : ¬ (server.world.listenHandle 0 this (server.text ip) port
            server.udp answers.bind).1 = true := by
          rw [World.listenHandle_eq_true_iff]
          exact hsucceeds
        rw [if_neg hfalse]
        simp [hsucceeds]

end ThreadServer

/-- For `Bind` itself, and for the `Bind` of the worker of a `Start`, with the
default port in place of a negative one: success means the endpoint that was
told exactly if libuv refuses, or text and port are an endpoint. -/
theorem bindsAsTold_iff_isEndpoint
    {libuv : BindAnswers} (hlibuv : Ip4AddrDocumented libuv.ip4Addr) :
    (∀ (world : World) (server : ℕ) (this : CTemplateSocket),
        world.sockets.get? server = some this →
        ∀ (ip : List UInt8) (port : ℤ) (udp : Bool),
        World.BindsAsTold server ip port
            (world.bind server this ip port udp libuv) ↔
          (libuv.Succeeds ip port → IsEndpoint ip port)) ∧
      ∀ (long : ULong) (server started : ThreadServer long) (ip : ℕ) (port : ℤ)
        (db : Pointer) (cfg : ModuleConfigMap),
        server.step (.start ip port db cfg 0) = .ok started →
        ∀ (events : List ArgumentEvent) (history : ArgumentHistory long),
        (∀ event ∈ events, event.isStart = false) →
        run ArgumentHistory.step (.atStart started ip cfg) events =
          .ok history →
        ∀ (seen : Option ℕ) (seenPort : ℤ) (answers : WorkerAnswers)
          (next : ThreadServer long),
        history.server.phase? server.workers.fresh =
          some (.bindHandle seen seenPort) →
        answers.bind = libuv →
        history.server.step (.worker server.workers.fresh answers) = .ok next →
        (next.BindsAsTold server.workers.fresh history.written
            (if port < 0 then server.defaultPort else port) ↔
          (libuv.Succeeds history.written
              (if port < 0 then server.defaultPort else port) →
            IsEndpoint history.written
              (if port < 0 then server.defaultPort else port))) := by
  constructor
  · intro world server this hthis ip port udp
    exact World.bindsAsTold_iff hthis ip port udp hlibuv
  · intro long server started ip port db cfg hstart events history hlater hrun
      seen seenPort answers next hphase hanswers hstep
    have hstarted := ArgumentHistory.started_of_run hstart hlater hrun
    obtain ⟨rfl, rfl⟩ := hstarted.phase seen seenPort hphase
    have hiff := ThreadServer.step_bindsAsTold_iff hphase hstep
      (hanswers ▸ hlibuv)
    rw [hstarted.text, hanswers] at hiff
    exact hiff

/-- libuv as documented, which refuses nothing. -/
def documentedAnswers : BindAnswers :=
  { BindAnswers.success ⟨0, 0⟩ with ip4Addr := uvIp4Addr }

/-- The worker up to its `uv_ip4_addr`. -/
def entersBind : List ArgumentEvent :=
  [.server .caller, .server (.worker 0 .success), .server (.worker 0 .success),
    .server (.worker 0 .success)]

theorem bindsAsTold_iff_isEndpoint_documented :
    (World.BindsAsTold 0 [49, 46, 50, 46, 51, 46, 52] 80
        (World.empty.construct.bind 0 (.new 0) [49, 46, 50, 46, 51, 46, 52] 80
          false documentedAnswers) ↔
      (documentedAnswers.Succeeds [49, 46, 50, 46, 51, 46, 52] 80 →
        IsEndpoint [49, 46, 50, 46, 51, 46, 52] 80)) ∧
    ∃ started history next,
      ArgumentHistory.oneBuffer.step (.start 0 80 none [] 0) = .ok started ∧
      run ArgumentHistory.step (.atStart started 0 []) entersBind =
        .ok history ∧
      history.server.step (.worker 0
        { WorkerAnswers.success with bind := documentedAnswers }) = .ok next ∧
      (next.BindsAsTold 0 history.written 80 ↔
        (documentedAnswers.Succeeds history.written 80 →
          IsEndpoint history.written 80)) := by
  have hdocumented : Ip4AddrDocumented documentedAnswers.ip4Addr :=
    uvIp4Addr_documented
  have hstart : ArgumentHistory.oneBuffer.step (.start 0 80 none [] 0) =
      .ok (ArgumentHistory.oneBuffer.start 0 80 none [] 0) := rfl
  have hquiet : ∀ event ∈ entersBind, event.isStart = false := by decide
  constructor
  · exact (bindsAsTold_iff_isEndpoint hdocumented).1 World.empty.construct 0
      (.new 0) rfl _ 80 false
  · exact ⟨_, _, _, hstart, rfl, rfl,
      (bindsAsTold_iff_isEndpoint hdocumented).2 .lp64 _ _ 0 80 none [] hstart
        entersBind _ hquiet rfl (some 0) 80 _ _ rfl rfl rfl⟩

/-- The text `localhost` makes a server that listens on `0.0.0.0`. -/
theorem localhost_listens_everywhere :
    ¬ ∀ (libuv : BindAnswers), Ip4AddrDocumented libuv.ip4Addr →
      ∀ (world : World) (server : ℕ) (this : CTemplateSocket),
      world.sockets.get? server = some this →
      ∀ (ip : List UInt8) (port : ℤ) (udp : Bool),
      World.BindsAsTold server ip port
        (world.bind server this ip port udp libuv) := by
  intro hall
  obtain ⟨_, _, _, _, _, _, _, _, haddress, _⟩ :=
    hall documentedAnswers uvIp4Addr_documented World.empty.construct 0 (.new 0)
      rfl [108, 111, 99, 97, 108, 104, 111, 115, 116] 80 false rfl
  have hnone : DecimalText.dottedQuad?
      [108, 111, 99, 97, 108, 104, 111, 115, 116] = none := by decide
  rw [hnone] at haddress
  contradiction

end MDK
