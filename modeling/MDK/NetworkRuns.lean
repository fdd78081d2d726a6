import MDK.ServerDelivery
import MDK.TemplateClient

/-!
# Runs of servers and clients

A run mixes everything that the servers do with `ConnectTCP`, the callbacks of
the clients, datagrams and `GetIPFromSocket`.  The `data` slots of the handles
hold `CClientData` objects; the connection callback of the client and
`GetIPFromSocket` read them as `CTemplateSocket` objects, and the read callback
of the client calls the handler through a NULL pointer.
-/

namespace MDK

open StepSystem

inductive NetworkEvent where
  | server (event : Event)
  | connectTCP (client : ℕ) (ip : List UInt8) (port : ℤ)
      (libuv : ConnectTCPAnswers)
  | connectCompletion (req : ℕ) (status : ℤ)
  | connectReturn (answer : Bool) (readStart : ℤ)
  | clientRead (stream : ℕ) (nread : ℤ) (buf : List UInt8) (readStart : ℤ)
  | udpRead (handle : ℕ) (nread : ℤ) (recv : List UInt8) (addr : SockAddr)
      (locals : PeerLocals) (peer : PeerAnswers)
  | getIPFromSocket (socket : ℕ) (locals : PeerLocals) (peer : PeerAnswers)

/-- The loop calls back into the library. -/
def Event.isDelivery : Event → Bool
  | .newConnection _ _ _ => true
  | .tcpRead _ _ _ => true
  | .closeCallback _ => true
  | _ => false

/-- The user has been given the handle: its slot was set. -/
def Handle.isGiven (handle : Handle) : Bool :=
  handle.status ≠ .freed ∧ handle.data ≠ .indeterminate

namespace Network

def idle (net : Network) : Bool :=
  net.world.calling.isNone && net.connecting.isNone

/-- libuv completes a request before it calls back the close of its handle. -/
def isPending (net : Network) (req : ℕ) : Bool :=
  match net.requests.get? req with
  | none => false
  | some request =>
      request.pending && net.world.handleIs request.handle (·.status ≠ .freed)

def enabled (net : Network) : NetworkEvent → Bool
  | .server event => net.connecting.isNone || !event.isDelivery
  | .connectTCP _ _ _ _ => true
  | .connectCompletion req _ => net.idle && net.isPending req
  | .connectReturn answer readStart =>
      match net.connecting with
      | none => false
      | some connecting =>
          answer || connecting.status ≠ 0 || readStart ≠ 0 ||
            net.world.handleIs connecting.handle (·.status = .active)
  | .clientRead stream _ _ _ =>
      net.idle && net.reading.contains stream &&
        net.world.handleIs stream (·.status = .active)
  | .udpRead handle _ _ _ _ _ =>
      net.idle && net.world.handleIs handle fun handle =>
        handle.receiving && handle.status = .active
  | .getIPFromSocket socket _ _ => net.world.handleIs socket Handle.isGiven

def withWorld (net : Network) (world : World) : Network :=
  { net with world := world }

def perform (net : Network) : NetworkEvent → Except Stop Network
  | .server event => (net.world.step event).map net.withWorld
  | .connectTCP client ip port libuv =>
      match net.world.sockets.get? client with
      | none => .error .notEnabled
      | some this => .ok (net.connectTCP client this ip port libuv)
  | .connectCompletion req status =>
      (net.libuvCallbackOnClientTcpConnection req status).mapError .fault
  | .connectReturn answer readStart =>
      match net.connecting with
      | none => .error .notEnabled
      | some connecting =>
          .ok (net.libuvCallbackOnClientTcpConnectionReturn connecting answer
            readStart)
  | .clientRead stream nread buf readStart =>
      (net.libuvCallbackOnClientTcpRead stream nread buf readStart).mapError
        .fault
  | .udpRead handle nread recv addr locals peer =>
      match net.world.libuvCallbackOnServerUdpRead handle nread recv addr locals
          peer with
      | .error fault => .error (.fault fault)
      | .ok datagram =>
          .ok { net with datagrams := net.datagrams ++ datagram.toList }
  | .getIPFromSocket socket locals peer =>
      match net.world.getIPFromSocket socket locals peer with
      | .error fault => .error (.fault fault)
      | .ok _ => .ok net

def step (net : Network) (event : NetworkEvent) : Except Stop Network :=
  if net.enabled event then net.perform event else .error .notEnabled

end Network

/-! ## Who owns a handle -/

/-- A run, with the object that owns each handle in the order of allocation. -/
structure NetworkRun where
  net : Network
  owners : List ℕ

/-- The owner of a handle that the event allocates: the object that binds or
connects, or the owner of the listener. -/
def NetworkEvent.owner (owners : List ℕ) : NetworkEvent → Option ℕ
  | .server (.bind owner _ _ _ _) => some owner
  | .server (.newConnection listener _ _) => owners[listener]?
  | .connectTCP client _ _ _ => some client
  | _ => none

/-- The object that a handler is invoked on. -/
def Call.receiver : Call → Option ℕ
  | .onTCPNewConnection server _ _ => some server
  | .onTCPRead server _ _ => some server
  | _ => none

namespace NetworkRun

def new : NetworkRun := ⟨Network.empty, []⟩

def step (state : NetworkRun) (event : NetworkEvent) : Except Stop NetworkRun :=
  (state.net.step event).map fun next =>
    { net := next
      owners :=
        if next.world.handles.fresh = state.net.world.handles.fresh then
          state.owners
        else state.owners ++ (event.owner state.owners).toList }

/-- Handlers are invoked on existing objects that own the handle. -/
structure HandlersOwn (state : NetworkRun) : Prop where
  calls : ∀ call ∈ state.net.world.trace, ∀ receiver,
    call.receiver = some receiver → state.owners[call.handle]? = some receiver ∧
      ∃ this, state.net.world.sockets.get? receiver = some this
  datagrams : ∀ datagram ∈ state.net.datagrams,
    state.owners[datagram.handle]? = some datagram.server ∧
      ∃ this, state.net.world.sockets.get? datagram.server = some this

/-- A slot leads to the owner of its handle, and is emptied with the handle. -/
structure SlotOwned (state : NetworkRun) (name : ℕ) (handle : Handle) : Prop where
  owns : handle.data = .indeterminate ∨ handle.data = .empty ∨
    ∃ owner, state.owners[name]? = some owner ∧
      state.net.world.Owns owner handle.data
  freed : handle.data = .empty → handle.status = .freed

structure Owned (state : NetworkRun) : Prop where
  valid : state.net.world.Valid
  owners : state.owners.length = state.net.world.handles.fresh
  slots : ∀ name handle, state.net.world.handles.get? name = some handle →
    state.SlotOwned name handle
  calls : ∀ call ∈ state.net.world.trace, ∀ receiver,
    call.receiver = some receiver → state.owners[call.handle]? = some receiver ∧
      ∃ slot, state.net.world.Owns receiver slot
  connecting : state.net.connecting = none
  datagrams : state.net.datagrams = []

theorem Owned.handlersOwn {state : NetworkRun} (howned : state.Owned) :
    state.HandlersOwn where
  calls call hmem receiver hreceiver := by
    obtain ⟨howner, _, _, _, this, _, _, _, hthis⟩ :=
      howned.calls call hmem receiver hreceiver
    exact ⟨howner, this, hthis⟩
  datagrams datagram hmem := by
    rw [howned.datagrams] at hmem
    contradiction

theorem new_owned : new.Owned where
  valid := World.empty_valid
  owners := rfl
  slots name handle hget := by
    simp [new, Network.empty, World.empty] at hget
  calls call hmem := by simp [new, Network.empty, World.empty] at hmem
  connecting := rfl
  datagrams := rfl

/-! ## What a step keeps -/

/-- The slot stays and so does the memory, or both end. -/
def Handle.Keeps (handle later : Handle) : Prop :=
  later.data = handle.data ∧
      (later.status = handle.status ∨ handle.status ≠ .freed) ∨
    later.data = .empty ∧ later.status = .freed

theorem Handle.Keeps.refl (handle : Handle) : Handle.Keeps handle handle :=
  Or.inl ⟨rfl, Or.inl rfl⟩

theorem keeps_of_modify
    {arena : Arena Handle} {name : ℕ} {handle : Handle} {change : Handle → Handle}
    (hget : arena.get? name = some handle)
    (hkeeps : Handle.Keeps handle (change handle)) {other : ℕ} {later : Handle}
    (hlater : (arena.modify name change).get? other = some later) :
    ∃ before, arena.get? other = some before ∧ Handle.Keeps before later := by
  by_cases heq : other = name
  · subst heq
    rw [Arena.get?_modify_self hget, Option.some.injEq] at hlater
    exact ⟨handle, hget, hlater ▸ hkeeps⟩
  · rw [Arena.get?_modify_of_ne _ _ heq] at hlater
    exact ⟨later, hlater, .refl later⟩

def withWorld (state : NetworkRun) (world : World) : NetworkRun :=
  { state with net := state.net.withWorld world }

theorem Owned.of_kept
    {state : NetworkRun} (howned : state.Owned) {next : World}
    (hvalid : next.Valid) (hgrows : state.net.world.Grows next)
    {added : List Call} (htrace : next.trace = state.net.world.trace ++ added)
    (hfresh : next.handles.fresh = state.net.world.handles.fresh)
    (hhandles : ∀ name later, next.handles.get? name = some later →
      ∃ handle, state.net.world.handles.get? name = some handle ∧
        Handle.Keeps handle later)
    (hadded : ∀ call ∈ added, ∀ receiver, call.receiver = some receiver →
      state.owners[call.handle]? = some receiver ∧
        ∃ slot, next.Owns receiver slot) :
    (state.withWorld next).Owned where
  valid := hvalid
  owners := howned.owners.trans hfresh.symm
  slots name later hlater := by
    obtain ⟨handle, hget, hkeeps⟩ := hhandles name later hlater
    have hslot := howned.slots name handle hget
    obtain ⟨hdata, hstatus⟩ | ⟨hempty, hfreed⟩ := hkeeps
    · constructor
      · rw [hdata]
        obtain hnone | hempty | ⟨owner, howner, howns⟩ := hslot.owns
        · exact Or.inl hnone
        · exact Or.inr (Or.inl hempty)
        · exact Or.inr (Or.inr ⟨owner, howner, hgrows.owns _ _ howns⟩)
      · intro hempty
        have hfreed := hslot.freed (hdata.symm.trans hempty)
        obtain hsame | hlive := hstatus
        · exact hsame.trans hfreed
        · exact absurd hfreed hlive
    · exact ⟨Or.inr (Or.inl hempty), fun _ => hfreed⟩
  calls call hmem receiver hreceiver := by
    change call ∈ next.trace at hmem
    rw [htrace, List.mem_append] at hmem
    obtain hold | hnew := hmem
    · obtain ⟨howner, slot, howns⟩ :=
        howned.calls call hold receiver hreceiver
      exact ⟨howner, slot, hgrows.owns _ _ howns⟩
    · exact hadded call hnew receiver hreceiver
  connecting := howned.connecting
  datagrams := howned.datagrams

theorem getElem?_append_of_eq_some
    {owners : List ℕ} {name owner : ℕ} (howner : owners[name]? = some owner)
    (added : List ℕ) : (owners ++ added)[name]? = some owner := by
  obtain ⟨hlt, _⟩ := List.getElem?_eq_some_iff.mp howner
  rw [List.getElem?_append_left hlt, howner]

def withHandle (state : NetworkRun) (net : Network) (owner : ℕ) : NetworkRun :=
  ⟨net, state.owners ++ [owner]⟩

theorem Owned.of_alloc
    {state : NetworkRun} (howned : state.Owned) (net : Network)
    (hvalid : net.world.Valid) (hgrows : state.net.world.Grows net.world)
    {added : List Call}
    (htrace : net.world.trace = state.net.world.trace ++ added)
    {handle : Handle}
    (hhandles : net.world.handles = state.net.world.handles.alloc handle)
    {owner : ℕ}
    (hdata : handle.data = .indeterminate ∨ net.world.Owns owner handle.data)
    (hadded : ∀ call ∈ added, ∀ receiver, call.receiver = some receiver →
      call.handle = state.net.world.handles.fresh ∧ receiver = owner ∧
        ∃ slot, net.world.Owns receiver slot)
    (hconnecting : net.connecting = none) (hdatagrams : net.datagrams = []) :
    (state.withHandle net owner).Owned := by
  have hnewest : (state.owners ++ [owner])[state.net.world.handles.fresh]? =
      some owner := by
    rw [← howned.owners]
    exact List.getElem?_concat_length
  constructor
  · exact hvalid
  · change (state.owners ++ [owner]).length = net.world.handles.fresh
    rw [hhandles, Arena.fresh_alloc, List.length_append, howned.owners,
      List.length_singleton]
  · intro name later hlater
    change net.world.handles.get? name = some later at hlater
    rw [hhandles, Arena.get?_alloc] at hlater
    split_ifs at hlater with hname
    · cases hlater
      subst hname
      constructor
      · obtain hnone | howns := hdata
        · exact Or.inl hnone
        · exact Or.inr (Or.inr ⟨owner, hnewest, howns⟩)
      · intro hempty
        obtain hnone | howns := hdata
        · rw [hnone] at hempty
          contradiction
        · exact absurd hempty howns.data_ne_empty
    · have hslot := howned.slots name later hlater
      constructor
      · obtain hnone | hempty | ⟨former, hformer, howns⟩ := hslot.owns
        · exact Or.inl hnone
        · exact Or.inr (Or.inl hempty)
        · exact Or.inr (Or.inr ⟨former, getElem?_append_of_eq_some hformer _,
            hgrows.owns _ _ howns⟩)
      · exact hslot.freed
  · intro call hmem receiver hreceiver
    change call ∈ net.world.trace at hmem
    rw [htrace, List.mem_append] at hmem
    obtain hold | hnew := hmem
    · obtain ⟨howner, slot, howns⟩ :=
        howned.calls call hold receiver hreceiver
      exact ⟨getElem?_append_of_eq_some howner _, slot, hgrows.owns _ _ howns⟩
    · obtain ⟨hfresh, rfl, hexists⟩ := hadded call hnew receiver hreceiver
      rw [hfresh]
      exact ⟨hnewest, hexists⟩
  · exact hconnecting
  · exact hdatagrams

/-! ## The servers in a run -/

/-- The slot that `Bind` stores leads back to the object, on every kind of
socket. -/
theorem World.bind_slot
    {world : World} {server : ℕ} {this : CTemplateSocket}
    (hthis : world.sockets.get? server = some this)
    (ip : List UInt8) (port : ℤ) (udp : Bool) (libuv : BindAnswers) :
    ∃ handle, (world.bind server this ip port udp libuv).2.handles =
        world.handles.alloc handle ∧
      (handle.data = .indeterminate ∨
        (world.bind server this ip port udp libuv).2.Owns server handle.data) := by
  by_cases hinit : libuv.init = 0
  · by_cases hbind : libuv.bind (libuv.ip4Addr ip port).2 = 0
    · by_cases hlisten : libuv.listen = 0
      · simp only [World.bind, hinit, hbind, hlisten, ne_eq, not_true_eq_false,
          if_false]
        exact ⟨_, rfl, Or.inr ⟨world.records.fresh, CClientData.new server, _, rfl,
          Arena.get?_alloc_fresh _ _, rfl, Arena.get?_modify_self hthis _⟩⟩
      · simp only [World.bind, hinit, hbind, hlisten, ne_eq, not_true_eq_false,
          not_false_eq_true, if_false, if_true]
        exact ⟨_, rfl, Or.inl rfl⟩
    · simp only [World.bind, hinit, hbind, ne_eq, not_true_eq_false,
        not_false_eq_true, if_false, if_true]
      exact ⟨_, rfl, Or.inl rfl⟩
  · simp only [World.bind, hinit, ne_eq, not_false_eq_true, if_true]
    exact ⟨_, rfl, Or.inl rfl⟩

theorem receiver_eq_none_of_bind
    {world next : World} {server : ℕ} {handle : Handle} {added : List Call}
    (hbinds : world.BindsTo server handle added next) {call : Call}
    (hmem : call ∈ added) : call.receiver = none := by
  obtain ⟨_, hcall | hcall⟩ := hbinds.mem_added hmem
  · rw [hcall]
    rfl
  · rw [hcall]
    rfl

theorem Owned.bind
    {state : NetworkRun} (howned : state.Owned) {server : ℕ}
    {this : CTemplateSocket}
    (hthis : state.net.world.sockets.get? server = some this)
    (ip : List UInt8) (port : ℤ) (udp : Bool) (libuv : BindAnswers) :
    (state.withHandle (state.net.withWorld
      (state.net.world.bind server this ip port udp libuv).2) server).Owned := by
  obtain ⟨handle, added, hbinds⟩ := World.bind_spec hthis ip port udp libuv
  obtain ⟨slotted, hslotted, hdata⟩ := World.bind_slot hthis ip port udp libuv
  have hsame : handle = slotted := by
    have hget := Arena.get?_alloc_fresh state.net.world.handles handle
    rw [← hbinds.handles, hslotted, Arena.get?_alloc_fresh] at hget
    exact (Option.some.inj hget).symm
  subst hsame
  apply howned.of_alloc (state.net.withWorld _)
    (howned.valid.bindsTo hbinds) hbinds.grows hbinds.trace
    hbinds.handles hdata _ howned.connecting howned.datagrams
  intro call hmem receiver hreceiver
  rw [receiver_eq_none_of_bind hbinds hmem] at hreceiver
  contradiction

theorem Owned.connected
    {state : NetworkRun} (howned : state.Owned) {listener server loop : ℕ}
    {handle : Handle} {accept : ℤ}
    (hlisten : .uvListen server listener 0 ∈ state.net.world.trace)
    (howns : state.net.world.Owns server handle.data) :
    (state.withHandle (state.net.withWorld
      (state.net.world.connected listener server
        (Handle.ofClient loop listener handle.data accept) accept))
      server).Owned := by
  apply howned.of_alloc (state.net.withWorld _)
    (howned.valid.connected hlisten howns accept)
    (state.net.world.grows_connected _ _ _ _) rfl rfl (Or.inr howns) _
    howned.connecting howned.datagrams
  intro call hmem receiver hreceiver
  refine ⟨World.handle_of_mem_acceptCalls hmem, ?_⟩
  obtain hcall | ⟨_, hcall⟩ | hcall := World.mem_acceptCalls hmem
  · rw [hcall] at hreceiver
    contradiction
  · rw [hcall] at hreceiver
    contradiction
  · rw [hcall] at hreceiver
    cases hreceiver
    exact ⟨rfl, handle.data, howns⟩

/-- What the slot leads to is the recorded owner. -/
theorem Owned.owner_of_owns
    {state : NetworkRun} (howned : state.Owned) {name server : ℕ}
    {handle : Handle}
    (hget : state.net.world.handles.get? name = some handle)
    (howns : state.net.world.Owns server handle.data) :
    state.owners[name]? = some server := by
  obtain hnone | hempty | ⟨owner, howner, hother⟩ :=
    (howned.slots name handle hget).owns
  · obtain ⟨_, _, _, hslot, _⟩ := howns
    rw [hnone] at hslot
    contradiction
  · exact absurd hempty howns.data_ne_empty
  · rw [howns.unique hother]
    exact howner

theorem Owned.uvClose
    {state : NetworkRun} (howned : state.Owned) {name : ℕ} {handle : Handle}
    {calling : Option ℕ}
    (hget : state.net.world.handles.get? name = some handle)
    (hlive : handle.status ≠ .freed)
    (hvalid : ({ state.net.world with calling := calling }.uvClose name).Valid) :
    (state.withWorld
      ({ state.net.world with calling := calling }.uvClose name)).Owned := by
  have hgrows := state.net.world.grows_uvClose name
  apply howned.of_kept hvalid ⟨hgrows.handles, hgrows.owns, hgrows.trace⟩ rfl
    (Arena.fresh_modify _ _ _)
  · intro other later hlater
    exact keeps_of_modify hget (Or.inl ⟨rfl, Or.inr hlive⟩) hlater
  · intro call hmem receiver hreceiver
    rw [List.mem_singleton] at hmem
    rw [hmem] at hreceiver
    contradiction

theorem Owned.server
    {state : NetworkRun} (howned : state.Owned) {event : Event} {world : World}
    (hstep : state.net.world.step event = .ok world) :
    (world.handles.fresh = state.net.world.handles.fresh ∧
        (state.withWorld world).Owned) ∨
      (world.handles.fresh ≠ state.net.world.handles.fresh ∧
        ∃ owner, NetworkEvent.owner state.owners (.server event) = some owner ∧
          (state.withHandle (state.net.withWorld world) owner).Owned) := by
  have hvalid := (howned.valid.steps hstep).valid howned.valid
  have hsteps := howned.valid.steps hstep
  cases hsteps with
  | construct =>
      left
      refine ⟨rfl, howned.of_kept hvalid (World.grows_construct _)
        (List.append_nil _).symm rfl ?_ (by simp)⟩
      intro name later hlater
      exact ⟨later, hlater, .refl later⟩
  | @bind server ip port udp libuv _ _ _ hbinds =>
      right
      refine ⟨by simp [hbinds.handles], server, rfl, ?_⟩
      cases hthis : state.net.world.sockets.get? server with
      | none => simp [World.step, hthis] at hstep
      | some this =>
          simp only [World.step, hthis, Except.ok.injEq] at hstep
          rw [← hstep]
          exact howned.bind hthis ip port udp libuv
  | refused _ =>
      left
      exact ⟨rfl, howned⟩
  | connected hcalling hget hlistening hlisten howns hstatus =>
      right
      refine ⟨by simp [World.connected], _, howned.owner_of_owns hget howns, ?_⟩
      exact howned.connected hlisten howns
  | rejected hcalling hanswer =>
      left
      obtain ⟨handle, hget, hlive, _⟩ := howned.valid.calling _ hcalling
      exact ⟨Arena.fresh_modify _ _ _, howned.uvClose hget hlive hvalid⟩
  | reads hcalling hget hactive =>
      left
      refine ⟨Arena.fresh_modify _ _ _, howned.of_kept hvalid
        (state.net.world.grows_modify none _ fun _ => rfl)
        (List.append_nil _).symm (Arena.fresh_modify _ _ _) ?_ (by simp)⟩
      intro name later hlater
      exact keeps_of_modify hget (Or.inl ⟨rfl, Or.inl rfl⟩) hlater
  | readFailed hcalling hget hreading hnread =>
      left
      have hactive := ((howned.valid.handles _ _ hget).reading hreading).1
      exact ⟨Arena.fresh_modify _ _ _, howned.uvClose hget (by simp [hactive]) hvalid⟩
  | readNothing =>
      left
      exact ⟨rfl, howned⟩
  | readChunk hcalling hget hreading hnread howns =>
      left
      refine ⟨rfl, howned.of_kept hvalid (World.grows_record _ _) rfl rfl ?_ ?_⟩
      · intro name later hlater
        exact ⟨later, hlater, .refl later⟩
      · intro call hmem receiver hreceiver
        rw [List.mem_singleton] at hmem
        subst hmem
        cases hreceiver
        exact ⟨howned.owner_of_owns hget howns, _, howns⟩
  | close hget hactive =>
      left
      exact ⟨Arena.fresh_modify _ _ _, howned.uvClose hget (by simp [hactive]) hvalid⟩
  | closeCallback hcalling hget hclosing =>
      left
      refine ⟨Arena.fresh_modify _ _ _, howned.of_kept hvalid
        (state.net.world.grows_modify state.net.world.calling _ fun _ => rfl)
        (List.append_nil _).symm (Arena.fresh_modify _ _ _) ?_ (by simp)⟩
      intro name later hlater
      exact keeps_of_modify hget (Or.inr ⟨rfl, rfl⟩) hlater
  | setData hget hfreed hslot =>
      left
      refine ⟨rfl, howned.of_kept hvalid (World.grows_writeData _ _ _ _) rfl rfl
        ?_ ?_⟩
      · intro name later hlater
        exact ⟨later, hlater, .refl later⟩
      · intro call hmem receiver hreceiver
        rw [List.mem_singleton] at hmem
        rw [hmem] at hreceiver
        contradiction

/-! ## The clients in a run -/

theorem grows_connectTCP
    (net : Network) (client : ℕ) (this : CTemplateSocket) (ip : List UInt8)
    (port : ℤ) (libuv : ConnectTCPAnswers) :
    net.world.Grows (net.connectTCP client this ip port libuv).world where
  handles _ handle hget := ⟨handle, Arena.get?_alloc_of_some hget _, rfl⟩
  owns server slot howns := by
    apply howns.mono
    · intro name record hget
      exact ⟨record, Arena.get?_alloc_of_some hget _, rfl⟩
    · intro name socket hget
      exact Arena.exists_get?_modify hget _ _
  trace := List.prefix_refl _

theorem Owned.connectTCP
    {state : NetworkRun} (howned : state.Owned) {client : ℕ}
    {this : CTemplateSocket}
    (hthis : state.net.world.sockets.get? client = some this)
    (ip : List UInt8) (port : ℤ) (libuv : ConnectTCPAnswers) :
    (state.withHandle (state.net.connectTCP client this ip port libuv)
      client).Owned := by
  have hgrows := grows_connectTCP state.net client this ip port libuv
  have howns : (state.net.connectTCP client this ip port libuv).world.Owns client
      (.clientData state.net.world.records.fresh) :=
    ⟨_, CClientData.new client, _, rfl, Arena.get?_alloc_fresh _ _, rfl,
      Arena.get?_modify_self hthis _⟩
  apply howned.of_alloc _ _ hgrows (List.append_nil _).symm rfl (Or.inr howns)
    (by simp) howned.connecting howned.datagrams
  apply howned.valid.alloc hgrows rfl (List.append_nil _).symm
  · simp
  · simp
  · constructor
    · intro hlistening
      simp [Handle.storeData, Handle.uvInit, Handle.malloc] at hlistening
    · intro listener hlistener
      simp [Handle.storeData, Handle.uvInit, Handle.malloc] at hlistener
    · intro hreading
      simp [Handle.storeData, Handle.uvInit, Handle.malloc] at hreading
    · intro _ hmem
      exact howned.valid.handle_ne_fresh hmem rfl
  · left
    rfl

/-- No slot of a live handle holds a `CTemplateSocket`. -/
theorem Owned.asTemplateSocket_of_live
    {state : NetworkRun} (howned : state.Owned) {name : ℕ} {handle : Handle}
    (hget : state.net.world.handles.get? name = some handle)
    (hlive : handle.status ≠ .freed) :
    handle.data ≠ .empty ∧ ∃ fault,
      handle.data.asTemplateSocket = .error fault ∧ fault ≠ .outOfBounds := by
  have hslot := howned.slots name handle hget
  have hempty : handle.data ≠ .empty := fun hdata => hlive (hslot.freed hdata)
  refine ⟨hempty, ?_⟩
  obtain hnone | hdata | ⟨owner, _, howns⟩ := hslot.owns
  · rw [hnone]
    exact ⟨.indeterminateValue, rfl, by decide⟩
  · exact absurd hdata hempty
  · obtain ⟨record, _, _, hdata, _⟩ := howns
    rw [hdata]
    exact ⟨.wrongClass, rfl, by decide⟩

end NetworkRun

/-- The slot is read as something that was not stored there, or the handler is
called through a NULL pointer. -/
def Stop.IsMisread (stop : Stop) : Prop :=
  ∃ fault, stop = .fault fault ∧ fault ≠ .outOfBounds

/-- The event runs into a cast of the slot to `CTemplateSocket`, or into the
NULL pointer of the client's read callback. -/
def NetworkEvent.castsSlot : NetworkEvent → Bool
  | .connectCompletion _ _ => true
  | .clientRead _ nread _ _ => 1 ≤ nread
  | .udpRead _ nread _ _ _ _ => 0 < nread
  | .getIPFromSocket _ _ _ => true
  | _ => false

namespace NetworkRun

theorem getIPFromSocket_misreads
    {state : NetworkRun} (howned : state.Owned) {name : ℕ} {handle : Handle}
    (hget : state.net.world.handles.get? name = some handle)
    (hlive : handle.status ≠ .freed) (locals : PeerLocals)
    (peer : PeerAnswers) :
    ∃ fault, state.net.world.getIPFromSocket name locals peer = .error fault ∧
      fault ≠ .outOfBounds := by
  obtain ⟨_, fault, hcast, hfault⟩ := howned.asTemplateSocket_of_live hget hlive
  refine ⟨fault, ?_, hfault⟩
  simp [World.getIPFromSocket, hget, hlive, hcast]

/-- Every enabled event that casts a slot misreads it. -/
theorem Owned.misreads
    {state : NetworkRun} (howned : state.Owned) {event : NetworkEvent}
    (henabled : state.net.enabled event = true)
    (hcasts : event.castsSlot = true) :
    ∃ fault, state.net.perform event = .error (.fault fault) ∧
      fault ≠ .outOfBounds := by
  cases event with
  | server event => contradiction
  | connectTCP client ip port libuv => contradiction
  | connectCompletion req status =>
      simp only [Network.enabled, Network.isPending, Bool.and_eq_true] at henabled
      obtain ⟨_, hpending⟩ := henabled
      cases hrequest : state.net.requests.get? req with
      | none => simp [hrequest] at hpending
      | some request =>
          simp only [hrequest, Bool.and_eq_true] at hpending
          obtain ⟨handle, hget, hlive⟩ := World.handleIs_iff.mp hpending.2
          have hlive : handle.status ≠ .freed := by simpa using hlive
          obtain ⟨hempty, fault, hcast, hfault⟩ :=
            howned.asTemplateSocket_of_live hget hlive
          refine ⟨fault, ?_, hfault⟩
          simp [Network.perform, Network.libuvCallbackOnClientTcpConnection,
            Network.clientConnectionCallback, hrequest, hget, hlive, hempty, hcast,
            Except.mapError]
  | connectReturn answer readStart => contradiction
  | clientRead stream nread buf readStart =>
      have hnread : ¬ nread < 1 := by simpa [NetworkEvent.castsSlot] using hcasts
      simp only [Network.enabled, Bool.and_eq_true] at henabled
      obtain ⟨handle, hget, hactive⟩ := World.handleIs_iff.mp henabled.2
      have hactive : handle.status = .active := by simpa using hactive
      obtain ⟨hempty, _⟩ :=
        howned.asTemplateSocket_of_live hget (by simp [hactive])
      refine ⟨.nullPointer, ?_, by decide⟩
      simp [Network.perform, Network.libuvCallbackOnClientTcpRead,
        Network.clientReadCallback, hnread, hget, hactive, hempty, Except.mapError]
  | udpRead name nread recv addr locals peer =>
      have hnread : ¬ nread ≤ 0 := by simpa [NetworkEvent.castsSlot] using hcasts
      simp only [Network.enabled, Bool.and_eq_true] at henabled
      obtain ⟨handle, hget, hready⟩ := World.handleIs_iff.mp henabled.2
      have hlive : handle.status ≠ .freed := by
        simp only [Bool.and_eq_true, decide_eq_true_eq] at hready
        simp [hready.2]
      obtain ⟨hempty, _⟩ := howned.asTemplateSocket_of_live hget hlive
      obtain ⟨fault, hpeer, hfault⟩ :=
        getIPFromSocket_misreads howned hget hlive locals peer
      refine ⟨fault, ?_, hfault⟩
      simp [Network.perform, World.libuvCallbackOnServerUdpRead, hnread, hget,
        hempty, hpeer]
  | getIPFromSocket name locals peer =>
      obtain ⟨handle, hget, hgiven⟩ := World.handleIs_iff.mp henabled
      have hlive : handle.status ≠ .freed := by
        simp only [Handle.isGiven, decide_eq_true_eq] at hgiven
        exact hgiven.1
      obtain ⟨fault, hpeer, hfault⟩ :=
        getIPFromSocket_misreads howned hget hlive locals peer
      refine ⟨fault, ?_, hfault⟩
      simp [Network.perform, hpeer]

/-! ## One step -/

theorem step_eq_ok
    {state next : NetworkRun} {event : NetworkEvent}
    (hstep : state.step event = .ok next) :
    ∃ net, state.net.enabled event = true ∧ state.net.perform event = .ok net ∧
      next = ⟨net,
        if net.world.handles.fresh = state.net.world.handles.fresh then
          state.owners
        else state.owners ++ (event.owner state.owners).toList⟩ := by
  unfold step Network.step at hstep
  split_ifs at hstep with henabled
  · cases hperform : state.net.perform event with
    | error stop =>
        rw [hperform] at hstep
        contradiction
    | ok net =>
        rw [hperform] at hstep
        cases hstep
        exact ⟨net, henabled, rfl, rfl⟩
  · contradiction

theorem Owned.step
    {state next : NetworkRun} {event : NetworkEvent} (howned : state.Owned)
    (hstep : state.step event = .ok next) : next.Owned := by
  obtain ⟨net, henabled, hperform, rfl⟩ := step_eq_ok hstep
  cases hcasts : event.castsSlot with
  | true =>
      obtain ⟨fault, hfault, _⟩ := howned.misreads henabled hcasts
      rw [hperform] at hfault
      contradiction
  | false =>
      cases event with
      | server event =>
          cases hworld : state.net.world.step event with
          | error stop => simp [Network.perform, hworld, Except.map] at hperform
          | ok world =>
              simp only [Network.perform, hworld, Except.map,
                Except.ok.injEq] at hperform
              subst hperform
              obtain ⟨hfresh, hnext⟩ | ⟨hfresh, owner, howner, hnext⟩ :=
                howned.server hworld
              · simpa [Network.withWorld, hfresh, withWorld] using hnext
              · simpa [Network.withWorld, hfresh, howner, withHandle] using hnext
      | connectTCP client ip port libuv =>
          cases hthis : state.net.world.sockets.get? client with
          | none => simp [Network.perform, hthis] at hperform
          | some this =>
              simp only [Network.perform, hthis, Except.ok.injEq] at hperform
              subst hperform
              have hnext := howned.connectTCP hthis ip port libuv
              have hfresh :
                  (state.net.connectTCP client this ip port
                    libuv).world.handles.fresh ≠ state.net.world.handles.fresh := by
                simp [Network.connectTCP]
              simpa [hfresh, NetworkEvent.owner, withHandle] using hnext
      | connectCompletion req status => contradiction
      | connectReturn answer readStart =>
          simp [Network.enabled, howned.connecting] at henabled
      | clientRead stream nread buf readStart =>
          have hnread : nread < 1 := by
            simpa [NetworkEvent.castsSlot] using hcasts
          simp only [Network.perform, Network.libuvCallbackOnClientTcpRead,
            Network.clientReadCallback, hnread, if_true, Except.mapError,
            Except.ok.injEq] at hperform
          subst hperform
          simpa using howned
      | udpRead name nread recv addr locals peer =>
          have hnread : nread ≤ 0 := by
            simpa [NetworkEvent.castsSlot] using hcasts
          simp only [Network.perform, World.libuvCallbackOnServerUdpRead, hnread,
            if_true, Option.toList_none, List.append_nil,
            Except.ok.injEq] at hperform
          subst hperform
          simpa using howned
      | getIPFromSocket name locals peer => contradiction

theorem step_preserves_owned : Preserves step (fun _ => True) Owned :=
  fun _ _ _ howned _ hstep => howned.step hstep

end NetworkRun

/-- Servers read their slots as they were stored; only a buffer without room for
the NUL stops them. -/
theorem World.Valid.fault_eq
    {world : World} (hvalid : world.Valid) {event : Event} {fault : Fault}
    (hstep : world.step event = .error (.fault fault)) :
    fault = .outOfBounds := by
  by_cases hsized : event.Sized
  · exact absurd hstep (hvalid.step_ne_fault hsized fault)
  · cases event with
    | tcpRead client nread buf =>
        simp only [World.step] at hstep
        split_ifs at hstep with hready
        · obtain ⟨_, _, _, _, _, hcallback⟩ :=
            hvalid.tcpRead_of_reading hready.2 nread buf
          rw [hcallback] at hstep
          split_ifs at hstep
          · simp [Except.mapError] at hstep
          · simp [Except.mapError] at hstep
          · simpa [Except.mapError] using hstep.symm
          · simp [Except.mapError] at hstep
        · simp at hstep
    | _ => simp [Event.Sized] at hsized

namespace NetworkRun

theorem Owned.not_isMisread_of_safe
    {state : NetworkRun} (howned : state.Owned) {event : NetworkEvent}
    (henabled : state.net.enabled event = true)
    (hsafe : event.castsSlot = false) {stop : Stop}
    (hperform : state.net.perform event = .error stop) : ¬ stop.IsMisread := by
  rintro ⟨fault, rfl, hfault⟩
  cases event with
  | server event =>
      cases hworld : state.net.world.step event with
      | error stop =>
          simp only [Network.perform, hworld, Except.map,
            Except.error.injEq] at hperform
          subst hperform
          exact hfault (howned.valid.fault_eq hworld)
      | ok world => simp [Network.perform, hworld, Except.map] at hperform
  | connectTCP client ip port libuv =>
      cases hthis : state.net.world.sockets.get? client with
      | none => simp [Network.perform, hthis] at hperform
      | some this => simp [Network.perform, hthis] at hperform
  | connectCompletion req status => contradiction
  | connectReturn answer readStart =>
      simp [Network.enabled, howned.connecting] at henabled
  | clientRead stream nread buf readStart =>
      have hnread : nread < 1 := by
        simpa [NetworkEvent.castsSlot] using hsafe
      simp [Network.perform, Network.libuvCallbackOnClientTcpRead,
        Network.clientReadCallback, hnread, Except.mapError] at hperform
  | udpRead name nread recv addr locals peer =>
      have hnread : nread ≤ 0 := by
        simpa [NetworkEvent.castsSlot] using hsafe
      simp [Network.perform, World.libuvCallbackOnServerUdpRead,
        hnread] at hperform
  | getIPFromSocket name locals peer => contradiction

/-- The condition on one step: an enabled event does not cast a slot. -/
def LeavesSlots (state : NetworkRun) (event : NetworkEvent) : Prop :=
  state.net.enabled event = true → event.castsSlot = false

theorem Owned.step_avoids_iff
    {state : NetworkRun} (howned : state.Owned) (event : NetworkEvent) :
    (∀ stop, state.step event = .error stop → ¬ stop.IsMisread) ↔
      state.LeavesSlots event := by
  unfold LeavesSlots NetworkRun.step Network.step
  cases henabled : state.net.enabled event with
  | false =>
      constructor
      · intro _ hcontra
        contradiction
      · intro _ stop hstop
        simp only [Bool.false_eq_true, if_false, Except.map,
          Except.error.injEq] at hstop
        rw [← hstop]
        rintro ⟨fault, hfault, _⟩
        contradiction
  | true =>
      simp only [if_true, forall_const]
      constructor
      · intro havoids
        by_contra hcasts
        rw [Bool.not_eq_false] at hcasts
        obtain ⟨fault, hperform, hfault⟩ := howned.misreads henabled hcasts
        rw [hperform] at havoids
        exact havoids _ rfl ⟨fault, rfl, hfault⟩
      · intro hsafe stop hstop
        cases hperform : state.net.perform event with
        | ok net =>
            rw [hperform] at hstop
            contradiction
        | error reason =>
            rw [hperform, Except.map, Except.error.injEq] at hstop
            rw [← hstop]
            exact howned.not_isMisread_of_safe henabled hsafe hperform

/-! ## Whole runs -/

/-- Every slot is read as what was stored in it, and every handler is invoked on
the object that owns the handle. -/
structure SlotsRead (events : List NetworkEvent) : Prop where
  typed : ∀ stop, run step new events = .error stop → ¬ stop.IsMisread
  owned : HoldsThroughout step HandlersOwn new events

theorem slotsRead_iff_leavesSlots (events : List NetworkEvent) :
    SlotsRead events ↔ StepsMeet step LeavesSlots new events := by
  have hiff : (∀ stop, run step new events = .error stop → ¬ stop.IsMisread) ↔
      StepsMeet step LeavesSlots new events :=
    step_preserves_owned.run_avoids_iff_stepsMeet Stop.IsMisread LeavesSlots
      (fun _ event howned _ => howned.step_avoids_iff event) new_owned
      (fun _ _ => trivial)
  constructor
  · intro hread
    exact hiff.mp hread.typed
  · intro hleaves
    exact ⟨hiff.mpr hleaves, step_preserves_owned.holdsThroughout
      (fun _ howned => howned.handlersOwn) new_owned events⟩

/-- A UDP server that receives one byte from an unconnected peer. -/
def oneDatagram : List NetworkEvent :=
  [.server .construct, .server (.bind 0 [] 0 true (.success ⟨0, 0⟩)),
    .udpRead 0 1 [65] ⟨0, 0⟩ ⟨[], 0⟩ ⟨3, none⟩]

/-- The slot holds a `CClientData`; `GetIPFromSocket` asks it for its type. -/
theorem datagram_casts_clientData :
    run step new oneDatagram = .error (.fault .wrongClass) ∧
      ¬ SlotsRead oneDatagram := by
  have hrun : run step new oneDatagram = .error (.fault .wrongClass) := rfl
  refine ⟨hrun, ?_⟩
  intro hread
  exact hread.typed _ hrun ⟨.wrongClass, rfl, by decide⟩

end NetworkRun

end MDK
