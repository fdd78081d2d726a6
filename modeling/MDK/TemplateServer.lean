import MDK.TemplateSocket

/-!
# The TCP and UDP server

`CTemplateServer::Bind` and the libuv callbacks of a TCP server.  What libuv
answers is an argument of each of them.  `OnTCPNewConnection` is user code that
may call back into the library, so the connection callback is cut in two at that
call.
-/

namespace MDK

/-- What libuv answers during one `Bind`; `listen` also stands for
`uv_udp_recv_start`. -/
structure BindAnswers where
  init : ℤ
  ip4Addr : List UInt8 → ℤ → ℤ × SockAddr
  bind : SockAddr → ℤ
  listen : ℤ

def BindAnswers.success (addr : SockAddr) : BindAnswers where
  init := 0
  ip4Addr _ _ := (0, addr)
  bind _ := 0
  listen := 0

/-- `Bind` changes the object `this` of the given name and allocates a handle,
which nothing else sees before `Bind` returns. -/
def World.leaveBind (world : World) (server : ℕ) (this : CTemplateSocket)
    (handle : Handle) (calls : List Call) : World :=
  { world with
    sockets := world.sockets.modify server fun _ => this
    handles := world.handles.alloc handle
    trace := world.trace ++ calls }

def World.bind (world : World) (server : ℕ) (this : CTemplateSocket)
    (ip : List UInt8) (port : ℤ) (udp : Bool) (libuv : BindAnswers) :
    Bool × World :=
  let name := world.handles.fresh
  -- `m_sockType` is set before anything can fail, and never set back.
  let this := if udp then { this with sockType := .udp } else this
  let allocated := Handle.malloc (.ofUdp udp)
  if libuv.init ≠ 0 then (false, world.leaveBind server this allocated [])
  else
    let initialised := allocated.uvInit this.loop
    let addr := (libuv.ip4Addr ip port).2
    if libuv.bind addr ≠ 0 then
      (false, world.leaveBind server this initialised [])
    else
      let bound := initialised.uvBind addr
      let call : Call :=
        if udp then .uvUdpRecvStart server name libuv.listen
        else .uvListen server name libuv.listen
      if libuv.listen ≠ 0 then
        (false, world.leaveBind server this bound [call])
      else
        let started := (bound.uvStart udp).storeData
          (.clientData world.records.fresh)
        let world := { world with
          records := world.records.alloc (CClientData.new server) }
        (true, world.leaveBind server { this with socket := some name } started
          [call])

/-- The callback up to the call of `OnTCPNewConnection`.  After a failed
`uv_accept` the handle is closed and the callback goes on with it. -/
def World.libuvCallbackOnServerTcpNewConnection
    (world : World) (serverSocket : ℕ) (status accept : ℤ) :
    Except Fault World :=
  match world.handles.get? serverSocket with
  | none => .error .wildPointer
  | some listener =>
      if status < 0 ∨ listener.data = .empty then .ok world
      else
        match world.extraRecord serverSocket with
        | .error fault => .error fault
        | .ok clientData =>
            match world.sockets.get? clientData.socket with
            | none => .error .wildPointer
            | some socket =>
                let client := world.handles.fresh
                let initialised := (Handle.malloc .tcp).uvInit socket.loop
                let world := world.record (.uvAccept serverSocket client accept)
                let world :=
                  if accept ≠ 0 then
                    { world with handles := world.handles.alloc initialised }.uvClose
                      client
                  else
                    { world with
                      handles := world.handles.alloc
                        (initialised.uvAccept serverSocket) }
                let world := { world with
                  handles := world.handles.modify client fun handle =>
                    handle.storeData listener.data
                  calling := some client }
                .ok (world.record
                  (.onTCPNewConnection clientData.socket client 0))

/-- The rest of the callback, after `OnTCPNewConnection` answered. -/
def World.libuvCallbackOnServerTcpNewConnectionReturn
    (world : World) (client : ℕ) (answer : Bool) (readStart : ℤ) : World :=
  let world := { world with calling := none }
  if answer = false then world.uvClose client
  else if readStart ≠ 0 then world.uvClose client
  else
    { world with
      handles := world.handles.modify client Handle.uvReadStart }

def World.libuvCallbackOnServerTcpRead
    (world : World) (stream : ℕ) (nread : ℤ) (buf : List UInt8) :
    Except Fault World :=
  match world.handles.get? stream with
  | none => .error .wildPointer
  | some handle =>
      if nread < 0 ∨ handle.data = .empty then .ok (world.uvClose stream)
      else if nread = 0 then .ok world
      else if buf.length ≤ nread.toNat then .error .outOfBounds
      else
        let terminated := buf.set nread.toNat 0
        match world.extraRecord stream with
        | .error fault => .error fault
        | .ok clientData =>
            match world.sockets.get? clientData.socket with
            | none => .error .wildPointer
            | some _ =>
                .ok (world.record (.onTCPRead clientData.socket stream
                  (terminated.take nread.toNat)))

/-! ## What the operations do -/

theorem World.Owns.data_ne_empty
    {world : World} {server : ℕ} {slot : DataSlot}
    (howns : world.Owns server slot) : slot ≠ .empty := by
  rcases howns with ⟨record, _, _, hslot, _⟩
  rw [hslot]
  simp

/-- What `Bind` leaves, at whichever point it returned. -/
structure World.BindsTo (world : World) (server : ℕ) (handle : Handle)
    (added : List Call) (next : World) : Prop where
  calling : next.calling = world.calling
  handles : next.handles = world.handles.alloc handle
  trace : next.trace = world.trace ++ added
  records : next.records = world.records ∨
    next.records = world.records.alloc (CClientData.new server)
  sockets : ∀ name socket, world.sockets.get? name = some socket →
    ∃ later, next.sockets.get? name = some later
  acceptedFrom : handle.acceptedFrom = none
  reading : handle.reading = false
  listening : handle.listening = true → handle.status = .active ∧
    added = [.uvListen server world.handles.fresh 0] ∧
    next.Owns server handle.data
  added : added = [] ∨ ∃ result,
    added = [.uvListen server world.handles.fresh result] ∨
      added = [.uvUdpRecvStart server world.handles.fresh result]

theorem World.BindsTo.mem_added
    {world next : World} {server : ℕ} {handle : Handle} {added : List Call}
    (hbinds : world.BindsTo server handle added next) {call : Call}
    (hmem : call ∈ added) :
    ∃ result, call = .uvListen server world.handles.fresh result ∨
      call = .uvUdpRecvStart server world.handles.fresh result := by
  rcases hbinds.added with hadded | ⟨result, hadded⟩
  · simp [hadded] at hmem
  · refine ⟨result, ?_⟩
    rcases hadded with hadded | hadded
    · left
      simpa [hadded] using hmem
    · right
      simpa [hadded] using hmem

theorem World.leaveBind_bindsTo
    {world : World} {server : ℕ} {this : CTemplateSocket} {handle : Handle}
    {calls : List Call} (hidle : handle.listening = false)
    (hacceptedFrom : handle.acceptedFrom = none)
    (hreading : handle.reading = false)
    (hcalls : calls = [] ∨ ∃ result,
      calls = [.uvListen server world.handles.fresh result] ∨
        calls = [.uvUdpRecvStart server world.handles.fresh result]) :
    world.BindsTo server handle calls
      (world.leaveBind server this handle calls) where
  calling := rfl
  handles := rfl
  trace := rfl
  records := Or.inl rfl
  sockets _ _ hsocket := Arena.exists_get?_modify hsocket server fun _ => this
  acceptedFrom := hacceptedFrom
  reading := hreading
  listening hlistening := by simp [hidle] at hlistening
  added := hcalls

theorem World.leaveBind_records_bindsTo
    {world : World} {server : ℕ} {this old : CTemplateSocket} {handle : Handle}
    {calls : List Call} (hold : world.sockets.get? server = some old)
    (hslot : handle.data = .clientData world.records.fresh)
    (hlistening : handle.listening = true → handle.status = .active ∧
      calls = [.uvListen server world.handles.fresh 0])
    (hacceptedFrom : handle.acceptedFrom = none)
    (hreading : handle.reading = false)
    (hcalls : ∃ result,
      calls = [.uvListen server world.handles.fresh result] ∨
        calls = [.uvUdpRecvStart server world.handles.fresh result]) :
    world.BindsTo server handle calls
      ({ world with
        records := world.records.alloc (CClientData.new server) }.leaveBind server
          this handle calls) where
  calling := rfl
  handles := rfl
  trace := rfl
  records := Or.inr rfl
  sockets _ _ hsocket := Arena.exists_get?_modify hsocket server fun _ => this
  acceptedFrom := hacceptedFrom
  reading := hreading
  listening hlisten := by
    refine ⟨(hlistening hlisten).1, (hlistening hlisten).2, ?_⟩
    exact ⟨world.records.fresh, CClientData.new server, this, hslot,
      Arena.get?_alloc_fresh _ _, rfl, Arena.get?_modify_self hold _⟩
  added := Or.inr hcalls

theorem World.bind_spec
    {world : World} {server : ℕ} {this : CTemplateSocket}
    (hthis : world.sockets.get? server = some this)
    (ip : List UInt8) (port : ℤ) (udp : Bool) (libuv : BindAnswers) :
    ∃ handle added, world.BindsTo server handle added
      (world.bind server this ip port udp libuv).2 := by
  have hcalls : ∀ result : ℤ, ∃ listened,
      [if udp then Call.uvUdpRecvStart server world.handles.fresh result
        else .uvListen server world.handles.fresh result] =
          [Call.uvListen server world.handles.fresh listened] ∨
      [if udp then Call.uvUdpRecvStart server world.handles.fresh result
        else .uvListen server world.handles.fresh result] =
          [Call.uvUdpRecvStart server world.handles.fresh listened] := by
    intro result
    refine ⟨result, ?_⟩
    cases udp with
    | false => simp
    | true => simp
  by_cases hinit : libuv.init = 0
  · by_cases hbind : libuv.bind (libuv.ip4Addr ip port).2 = 0
    · by_cases hlisten : libuv.listen = 0
      · simp only [World.bind, hinit, hbind, hlisten, ne_eq, not_true_eq_false,
          if_false]
        refine ⟨_, _, World.leaveBind_records_bindsTo hthis rfl ?_ rfl rfl
          (hcalls 0)⟩
        intro hlistening
        cases udp with
        | false => exact ⟨rfl, rfl⟩
        | true => simp [Handle.uvStart, Handle.storeData] at hlistening
      · simp only [World.bind, hinit, hbind, hlisten, ne_eq, not_true_eq_false,
          not_false_eq_true, if_false, if_true]
        exact ⟨_, _, World.leaveBind_bindsTo rfl rfl rfl
          (Or.inr (hcalls libuv.listen))⟩
    · simp only [World.bind, hinit, hbind, ne_eq, not_true_eq_false,
        not_false_eq_true, if_false, if_true]
      exact ⟨_, _, World.leaveBind_bindsTo rfl rfl rfl (Or.inl rfl)⟩
  · simp only [World.bind, hinit, ne_eq, not_false_eq_true, if_true]
    exact ⟨_, _, World.leaveBind_bindsTo rfl rfl rfl (Or.inl rfl)⟩

/-- The handle of a new connection when its `OnTCPNewConnection` is called. -/
def Handle.ofClient (loop : ℕ) (listener : ℕ) (slot : DataSlot) (accept : ℤ) :
    Handle :=
  { Handle.malloc .tcp with
    loop := some loop
    status := if accept = 0 then .active else .closing
    data := slot
    acceptedFrom := if accept = 0 then some listener else none }

def World.acceptCalls (world : World) (listener server : ℕ) (accept : ℤ) :
    List Call :=
  .uvAccept listener world.handles.fresh accept ::
    ((if accept = 0 then [] else [.uvClose world.handles.fresh]) ++
      [.onTCPNewConnection server world.handles.fresh 0])

theorem World.mem_acceptCalls
    {world : World} {listener server : ℕ} {accept : ℤ} {call : Call}
    (hmem : call ∈ world.acceptCalls listener server accept) :
    call = .uvAccept listener world.handles.fresh accept ∨
      accept ≠ 0 ∧ call = .uvClose world.handles.fresh ∨
      call = .onTCPNewConnection server world.handles.fresh 0 := by
  by_cases haccept : accept = 0
  · simpa [World.acceptCalls, haccept] using hmem
  · simpa [World.acceptCalls, haccept] using hmem

def World.connected (world : World) (listener server : ℕ) (client : Handle)
    (accept : ℤ) : World :=
  { world with
    handles := world.handles.alloc client
    calling := some world.handles.fresh
    trace := world.trace ++ world.acceptCalls listener server accept }

theorem World.libuvCallbackOnServerTcpNewConnection_of_neg
    {world : World} {listener : ℕ} {handle : Handle}
    (hget : world.handles.get? listener = some handle)
    {status : ℤ} (hstatus : status < 0) (accept : ℤ) :
    world.libuvCallbackOnServerTcpNewConnection listener status accept =
      .ok world := by
  simp [World.libuvCallbackOnServerTcpNewConnection, hget, hstatus]

theorem World.libuvCallbackOnServerTcpNewConnection_of_owns
    {world : World} {listener server : ℕ} {handle : Handle}
    (hget : world.handles.get? listener = some handle)
    (hfreed : handle.status ≠ .freed) (howns : world.Owns server handle.data)
    {status : ℤ} (hstatus : 0 ≤ status) (accept : ℤ) :
    ∃ loop, world.libuvCallbackOnServerTcpNewConnection listener status accept =
      .ok (world.connected listener server
        (Handle.ofClient loop listener handle.data accept) accept) := by
  rcases World.extraRecord_of_owns hget hfreed howns with
    ⟨clientData, hextra, hserver⟩
  have hempty := howns.data_ne_empty
  rcases howns with ⟨_, _, socket, _, _, _, hsocket⟩
  refine ⟨socket.loop, ?_⟩
  have hguard : ¬ (status < 0 ∨ handle.data = .empty) := by
    simp [hempty, Int.not_lt.mpr hstatus]
  simp only [World.libuvCallbackOnServerTcpNewConnection, hget, hguard, if_false,
    hextra, hserver, hsocket]
  by_cases haccept : accept = 0
  · simp [haccept, World.record, World.connected, World.acceptCalls,
      Handle.ofClient, Handle.malloc, Handle.uvInit, Handle.uvAccept,
      Handle.storeData, Arena.modify_alloc_fresh]
  · simp [haccept, World.record, World.uvClose, World.connected,
      World.acceptCalls, Handle.ofClient, Handle.malloc, Handle.uvInit,
      Handle.closing, Handle.storeData, Arena.modify_alloc_fresh]

theorem World.libuvCallbackOnServerTcpRead_of_owns
    {world : World} {stream server : ℕ} {handle : Handle}
    (hget : world.handles.get? stream = some handle)
    (hfreed : handle.status ≠ .freed) (howns : world.Owns server handle.data)
    (nread : ℤ) (buf : List UInt8) :
    world.libuvCallbackOnServerTcpRead stream nread buf =
      if nread < 0 then .ok (world.uvClose stream)
      else if nread = 0 then .ok world
      else if buf.length ≤ nread.toNat then .error .outOfBounds
      else .ok (world.record
        (.onTCPRead server stream (buf.take nread.toNat))) := by
  rcases World.extraRecord_of_owns hget hfreed howns with
    ⟨clientData, hextra, hserver⟩
  have hempty := howns.data_ne_empty
  rcases howns with ⟨_, _, socket, _, _, _, hsocket⟩
  have htake : (buf.set nread.toNat 0).take nread.toNat = buf.take nread.toNat :=
    List.take_set_of_le (Nat.le_refl _)
  simp only [World.libuvCallbackOnServerTcpRead, hget, hempty, or_false, hextra,
    hserver, hsocket, htake]

end MDK
