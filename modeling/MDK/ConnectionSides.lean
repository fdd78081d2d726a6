import MDK.ServerRuns
import MDK.TemplateClient

/-!
# The two sides of a connection

One established connection, seen by the callbacks of the server and by those of
the client.  Both are given the same answers and the same reads, libuv delivers
a read only where reading was started, and the calls that either side makes are
compared.  The client side is given the object that issued `ConnectTCP`.
-/

namespace MDK

open StepSystem

/-- A call of one side, without the names of its objects. -/
inductive SideCall where
  | onTCPNewConnection (status : ℤ)
  | onTCPRead (chunk : List UInt8)
  | uvClose
  deriving DecidableEq, Repr

def Call.sideCall : Call → Option SideCall
  | .onTCPNewConnection _ _ status => some (.onTCPNewConnection status)
  | .onTCPRead _ _ chunk => some (.onTCPRead chunk)
  | .uvClose _ => some .uvClose
  | _ => none

/-- The calls that a world has made since an earlier one. -/
def World.sideCalls (world next : World) : List SideCall :=
  (next.trace.drop world.trace.length).filterMap Call.sideCall

structure ReadEvent where
  nread : ℤ
  buf : List UInt8
  deriving DecidableEq, Repr

def ReadEvent.chunk (event : ReadEvent) : List UInt8 :=
  event.buf.take event.nread.toNat

/-! ## The server side -/

def World.deliverRead (client : ℕ) (world : World) (event : ReadEvent) :
    Except Fault World :=
  if world.handleIs client (·.reading) then
    world.libuvCallbackOnServerTcpRead client event.nread event.buf
  else .ok world

def World.serverSide (world : World) (listener : ℕ) (answer : Bool)
    (readStart : ℤ) (events : List ReadEvent) : Except Fault World :=
  match world.libuvCallbackOnServerTcpNewConnection listener 0 0 with
  | .error fault => .error fault
  | .ok next =>
      match next.calling with
      | none => .ok next
      | some client =>
          run (World.deliverRead client)
            (next.libuvCallbackOnServerTcpNewConnectionReturn client answer
              readStart) events

def World.serverTrace (world : World) (listener : ℕ) (answer : Bool)
    (readStart : ℤ) (events : List ReadEvent) : Except Fault (List SideCall) :=
  (world.serverSide listener answer readStart events).map world.sideCalls

/-! ## The client side -/

def Network.deliverRead (client handle : ℕ) (net : Network)
    (event : ReadEvent) : Except Fault Network :=
  if handle ∈ net.reading then
    net.clientReadCallback (some client) handle event.nread event.buf 0
  else .ok net

def Network.clientSide (net : Network) (client req : ℕ) (answer : Bool)
    (readStart : ℤ) (events : List ReadEvent) : Except Fault Network :=
  match net.clientConnectionCallback (fun _ => .ok (some client)) req 0 with
  | .error fault => .error fault
  | .ok next =>
      match next.connecting with
      | none => .ok next
      | some connecting =>
          run (Network.deliverRead client connecting.handle)
            (next.libuvCallbackOnClientTcpConnectionReturn connecting answer
              readStart) events

def Network.clientTrace (net : Network) (client req : ℕ) (answer : Bool)
    (readStart : ℤ) (events : List ReadEvent) : Except Fault (List SideCall) :=
  (net.clientSide client req answer readStart events).map fun final =>
    net.world.sideCalls final.world

/-! ## What a connection should look like -/

/-- The reads up to the first failure, which closes the handle. -/
def readCalls : List ReadEvent → List SideCall
  | [] => []
  | event :: rest =>
      if event.nread < 0 then [.uvClose]
      else if event.nread = 0 then readCalls rest
      else .onTCPRead event.chunk :: readCalls rest

theorem readCalls_eq_nil_iff {events : List ReadEvent} :
    readCalls events = [] ↔ ∀ event ∈ events, event.nread = 0 := by
  induction events with
  | nil => simp [readCalls]
  | cons event rest ih =>
      by_cases hneg : event.nread < 0
      · have hne : event.nread ≠ 0 := Int.ne_of_lt hneg
        simp [readCalls, hneg, hne]
      · by_cases hzero : event.nread = 0
        · simp [readCalls, hzero, ih]
        · simp [readCalls, hneg, hzero]

structure SidesAlike (server client : Except Fault (List SideCall))
    (answer : Bool) (events : List ReadEvent) : Prop where
  same : client = server
  accepted : answer = true →
    client = .ok (.onTCPNewConnection 0 :: readCalls events)
  refused : answer = false → ∀ calls, client = .ok calls →
    ∀ chunk, .onTCPRead chunk ∉ calls

/-! ## The calls of the server side -/

theorem World.sideCalls_of_append
    {world next : World} {added : List Call}
    (htrace : next.trace = world.trace ++ added) :
    world.sideCalls next = added.filterMap Call.sideCall := by
  rw [World.sideCalls, htrace, List.drop_left]

theorem World.deliverRead_of_idle
    {world : World} {client : ℕ}
    (hidle : world.handleIs client (·.reading) = false)
    (events : List ReadEvent) :
    run (World.deliverRead client) world events = .ok world := by
  induction events with
  | nil => rfl
  | cons event rest ih =>
      have hstep : world.deliverRead client event = .ok world := by
        simp [World.deliverRead, hidle]
      rw [run_cons_of_ok rest hstep, ih]

/-- The client's handle is read for the server that it belongs to. -/
structure World.ReadsFor (world : World) (server client : ℕ) : Prop where
  exists_handle : ∃ handle, world.handles.get? client = some handle ∧
    handle.status ≠ .freed ∧ handle.reading = true ∧
    world.Owns server handle.data

theorem World.ReadsFor.deliverRead_eq
    {world : World} {server client : ℕ} (hreads : world.ReadsFor server client)
    (event : ReadEvent) :
    world.deliverRead client event =
      if event.nread < 0 then .ok (world.uvClose client)
      else if event.nread = 0 then .ok world
      else if event.buf.length ≤ event.nread.toNat then .error .outOfBounds
      else .ok (world.record (.onTCPRead server client event.chunk)) := by
  obtain ⟨handle, hget, hfreed, hreading, howns⟩ := hreads.exists_handle
  have hready : world.handleIs client (·.reading) = true :=
    World.handleIs_iff.mpr ⟨handle, hget, hreading⟩
  rw [World.deliverRead, if_pos hready,
    World.libuvCallbackOnServerTcpRead_of_owns hget hfreed howns]
  rfl

theorem World.uvClose_idle (world : World) (name : ℕ) :
    (world.uvClose name).handleIs name (·.reading) = false := by
  unfold World.handleIs World.uvClose
  cases hget : world.handles.get? name with
  | none => simp [Arena.get?_modify, hget]
  | some handle => simp [Arena.get?_modify_self hget, Handle.closing]

theorem World.ReadsFor.run_calls
    {world : World} {server client : ℕ} (hreads : world.ReadsFor server client)
    {events : List ReadEvent} {final : World}
    (hrun : run (World.deliverRead client) world events = .ok final) :
    ∃ added, final.trace = world.trace ++ added ∧
      added.filterMap Call.sideCall = readCalls events := by
  induction events generalizing world with
  | nil =>
      cases hrun
      exact ⟨[], by simp, rfl⟩
  | cons event rest ih =>
      obtain ⟨next, hstep, hrest⟩ := run_cons_eq_ok_iff.mp hrun
      rw [hreads.deliverRead_eq] at hstep
      split_ifs at hstep with hneg hzero hfull
      · cases hstep
        rw [World.deliverRead_of_idle (world.uvClose_idle client)] at hrest
        cases hrest
        exact ⟨[.uvClose client], rfl, by simp [readCalls, hneg, Call.sideCall]⟩
      · cases hstep
        obtain ⟨added, htrace, hcalls⟩ := ih hreads hrest
        exact ⟨added, htrace, by simp [readCalls, hzero, hcalls]⟩
      · cases hstep
        have hnext : (world.record
            (.onTCPRead server client event.chunk)).ReadsFor server client :=
          ⟨hreads.exists_handle⟩
        obtain ⟨added, htrace, hcalls⟩ := ih hnext hrest
        refine ⟨.onTCPRead server client event.chunk :: added, ?_, ?_⟩
        · rw [htrace]
          simp [World.record]
        · simp [readCalls, hneg, hzero, hcalls, Call.sideCall]

theorem World.ReadsFor.run_quiet
    {world : World} {server client : ℕ} (hreads : world.ReadsFor server client)
    {events : List ReadEvent} (hquiet : ∀ event ∈ events, event.nread = 0) :
    run (World.deliverRead client) world events = .ok world := by
  induction events with
  | nil => rfl
  | cons event rest ih =>
      have hzero : event.nread = 0 := hquiet event (by simp)
      have hstep : world.deliverRead client event = .ok world := by
        simp [hreads.deliverRead_eq, hzero]
      rw [run_cons_of_ok rest hstep]
      exact ih fun other hmem => hquiet other (by simp [hmem])

/-- A listener that accepts connections for the server. -/
def World.AcceptsFor (world : World) (server listener : ℕ) : Prop :=
  ∃ handle, world.handles.get? listener = some handle ∧
    handle.status ≠ .freed ∧ world.Owns server handle.data

theorem World.AcceptsFor.serverSide_eq
    {world : World} {server listener : ℕ}
    (haccepts : world.AcceptsFor server listener) :
    ∃ handle, world.Owns server handle.data ∧ handle.status = .active ∧
      ∀ answer readStart events,
        world.serverSide listener answer readStart events =
          run (World.deliverRead world.handles.fresh)
            ((world.connected listener server handle
                0).libuvCallbackOnServerTcpNewConnectionReturn
              world.handles.fresh answer readStart) events := by
  obtain ⟨handle, hget, hfreed, howns⟩ := haccepts
  obtain ⟨loop, hcallback⟩ :=
    World.libuvCallbackOnServerTcpNewConnection_of_owns hget hfreed howns
      (Int.le_refl 0) 0
  refine ⟨Handle.ofClient loop listener handle.data 0, howns, rfl, ?_⟩
  intro answer readStart events
  simp only [World.serverSide, hcallback]
  rfl

/-- Once accepted and read, the handle is read for the server. -/
theorem World.readsFor_of_connected
    {world : World} (listener : ℕ) {server : ℕ} {handle : Handle}
    (howns : world.Owns server handle.data) (hactive : handle.status = .active) :
    ((world.connected listener server handle
        0).libuvCallbackOnServerTcpNewConnectionReturn world.handles.fresh true
      0).ReadsFor server world.handles.fresh := by
  constructor
  refine ⟨handle.uvReadStart, ?_, ?_, rfl, howns⟩
  · simp [World.libuvCallbackOnServerTcpNewConnectionReturn, World.connected,
      Arena.get?_modify]
  · simp [Handle.uvReadStart, hactive]

theorem World.connectedReturn_of_refused
    (world : World) {client : ℕ} {answer : Bool} {readStart : ℤ}
    (hrefused : answer = false ∨ readStart ≠ 0) :
    world.libuvCallbackOnServerTcpNewConnectionReturn client answer readStart =
      { world with calling := none }.uvClose client := by
  unfold World.libuvCallbackOnServerTcpNewConnectionReturn
  obtain hanswer | hstart := hrefused
  · simp [hanswer]
  · simp [hstart]

theorem World.AcceptsFor.serverTrace_of_refused
    {world : World} {server listener : ℕ}
    (haccepts : world.AcceptsFor server listener) {answer : Bool} {readStart : ℤ}
    (hrefused : answer = false ∨ readStart ≠ 0) (events : List ReadEvent) :
    world.serverTrace listener answer readStart events =
      .ok [.onTCPNewConnection 0, .uvClose] := by
  obtain ⟨handle, _, _, hside⟩ := haccepts.serverSide_eq
  rw [World.serverTrace, hside, World.connectedReturn_of_refused _ hrefused,
    World.deliverRead_of_idle (World.uvClose_idle _ _), Except.map]
  have htrace : ({ world.connected listener server handle 0 with
        calling := none }.uvClose world.handles.fresh).trace =
      world.trace ++ (world.acceptCalls listener server 0 ++
        [.uvClose world.handles.fresh]) := by
    simp [World.uvClose, World.connected]
  rw [World.sideCalls_of_append htrace]
  rfl

/-- The calls of a side that goes on reading after the acceptance. -/
theorem World.sideCalls_of_accepted
    {world final : World} {listener server : ℕ} {handle : Handle}
    {added : List Call}
    (htrace : final.trace =
      ((world.connected listener server handle
          0).libuvCallbackOnServerTcpNewConnectionReturn world.handles.fresh true
        0).trace ++ added) :
    world.sideCalls final =
      .onTCPNewConnection 0 :: added.filterMap Call.sideCall := by
  have hall : final.trace =
      world.trace ++ (world.acceptCalls listener server 0 ++ added) := by
    rw [htrace, ← List.append_assoc]
    rfl
  rw [World.sideCalls_of_append hall, List.filterMap_append]
  rfl

theorem World.AcceptsFor.serverTrace_of_quiet
    {world : World} {server listener : ℕ}
    (haccepts : world.AcceptsFor server listener) {events : List ReadEvent}
    (hquiet : ∀ event ∈ events, event.nread = 0) :
    world.serverTrace listener true 0 events = .ok [.onTCPNewConnection 0] := by
  obtain ⟨handle, howns, hactive, hside⟩ := haccepts.serverSide_eq
  have hreads := World.readsFor_of_connected listener howns hactive
  rw [World.serverTrace, hside, hreads.run_quiet hquiet, Except.map,
    World.sideCalls_of_accepted (List.append_nil _).symm]
  rfl

theorem World.AcceptsFor.serverTrace_eq_ok
    {world : World} {server listener : ℕ}
    (haccepts : world.AcceptsFor server listener) {events : List ReadEvent}
    {calls : List SideCall}
    (htrace : world.serverTrace listener true 0 events = .ok calls) :
    calls = .onTCPNewConnection 0 :: readCalls events := by
  obtain ⟨handle, howns, hactive, hside⟩ := haccepts.serverSide_eq
  rw [World.serverTrace, hside] at htrace
  cases hrun : run (World.deliverRead world.handles.fresh)
      ((world.connected listener server handle
          0).libuvCallbackOnServerTcpNewConnectionReturn world.handles.fresh true
        0) events with
  | error fault =>
      rw [hrun] at htrace
      contradiction
  | ok final =>
      have hreads : World.ReadsFor _ server world.handles.fresh :=
        World.readsFor_of_connected listener howns hactive
      obtain ⟨added, hadded, hcalls⟩ := hreads.run_calls hrun
      rw [hrun, Except.map, Except.ok.injEq,
        World.sideCalls_of_accepted hadded, hcalls] at htrace
      exact htrace.symm

/-! ## The calls of the client side -/

/-- The client that issued the request, and the handle it connects. -/
structure Network.Connects (net : Network) (client req handle : ℕ) : Prop where
  exists_request : ∃ request, net.requests.get? req = some request ∧
    request.handle = handle
  exists_handle : ∃ connected, net.world.handles.get? handle = some connected ∧
    connected.status ≠ .freed ∧ connected.data ≠ .empty
  exists_client : ∃ this, net.world.sockets.get? client = some this
  unread : handle ∉ net.reading

/-- The client side in the call of `OnTCPNewConnection`, and after it. -/
def Network.connected (net : Network) (client req handle : ℕ) : Network :=
  { net.record (.onTCPNewConnection client handle 0) with
    connecting := some ⟨req, handle, 0⟩ }

def Network.answered (net : Network) (client req handle : ℕ) (answer : Bool)
    (readStart : ℤ) : Network :=
  (net.connected client req handle).libuvCallbackOnClientTcpConnectionReturn
    ⟨req, handle, 0⟩ answer readStart

theorem Network.answered_trace
    (net : Network) (client req handle : ℕ) (answer : Bool) (readStart : ℤ) :
    (net.answered client req handle answer readStart).world.trace =
      net.world.trace ++ [.onTCPNewConnection client handle 0] := by
  cases answer with
  | true => rfl
  | false =>
      by_cases hstart : readStart = 0
      · subst hstart
        rfl
      · simp [Network.answered, Network.libuvCallbackOnClientTcpConnectionReturn,
          Network.uvReadStart, hstart, Network.freeRequest, Network.connected,
          Network.record, World.record]

theorem Network.answered_true_reading
    (net : Network) (client req handle : ℕ) (readStart : ℤ) :
    (net.answered client req handle true readStart).reading = net.reading := rfl

theorem Network.Connects.clientSide_eq
    {net : Network} {client req handle : ℕ}
    (hconnects : net.Connects client req handle) (answer : Bool) (readStart : ℤ)
    (events : List ReadEvent) :
    net.clientSide client req answer readStart events =
      run (Network.deliverRead client handle)
        (net.answered client req handle answer readStart) events := by
  obtain ⟨request, hrequest, rfl⟩ := hconnects.exists_request
  obtain ⟨connected, hget, hfreed, hdata⟩ := hconnects.exists_handle
  obtain ⟨this, hthis⟩ := hconnects.exists_client
  simp only [Network.clientSide, Network.clientConnectionCallback, hrequest, hget,
    hfreed, hdata, hthis, if_false]
  rfl

theorem Network.deliverRead_of_unread
    {net : Network} {client handle : ℕ} (hunread : handle ∉ net.reading)
    (events : List ReadEvent) :
    run (Network.deliverRead client handle) net events = .ok net := by
  induction events with
  | nil => rfl
  | cons event rest ih =>
      have hstep : net.deliverRead client handle event = .ok net := by
        simp [Network.deliverRead, hunread]
      rw [run_cons_of_ok rest hstep, ih]

theorem Network.Connects.clientTrace_of_accepted
    {net : Network} {client req handle : ℕ}
    (hconnects : net.Connects client req handle) (readStart : ℤ)
    (events : List ReadEvent) :
    net.clientTrace client req true readStart events =
      .ok [.onTCPNewConnection 0] := by
  have hunread :
      handle ∉ (net.answered client req handle true readStart).reading := by
    rw [Network.answered_true_reading]
    exact hconnects.unread
  rw [Network.clientTrace, hconnects.clientSide_eq,
    Network.deliverRead_of_unread hunread, Except.map,
    World.sideCalls_of_append (net.answered_trace client req handle true readStart)]
  rfl

/-- One read adds nothing, or hands over what was read. -/
theorem Network.deliverRead_eq_ok
    {net next : Network} {client handle : ℕ} {event : ReadEvent}
    (hstep : net.deliverRead client handle event = .ok next) :
    next.world.trace = net.world.trace ∨
      next.world.trace =
        net.world.trace ++ [.onTCPRead client handle event.chunk] := by
  unfold Network.deliverRead Network.clientReadCallback at hstep
  split_ifs at hstep with hreading hnread
  · cases hstep
    exact Or.inl rfl
  · cases hget : net.world.handles.get? handle with
    | none => simp [hget] at hstep
    | some connected =>
        simp only [hget] at hstep
        split_ifs at hstep with hfreed hdata
        · cases hstep
          exact Or.inl rfl
        · cases hthis : net.world.sockets.get? client with
          | none => simp [hthis] at hstep
          | some this =>
              simp only [hthis, Except.ok.injEq] at hstep
              subst hstep
              exact Or.inr rfl
  · cases hstep
    exact Or.inl rfl

/-- Since an earlier state no handle was closed. -/
def Network.OpenSince (net next : Network) : Prop :=
  ∃ added, next.world.trace = net.world.trace ++ added ∧
    .uvClose ∉ added.filterMap Call.sideCall

theorem Network.deliverRead_preserves_openSince
    (net : Network) (client handle : ℕ) :
    Preserves (Network.deliverRead client handle) (fun _ => True)
      net.OpenSince := by
  rintro before event after ⟨added, htrace, hopen⟩ _ hstep
  obtain hsame | hread := Network.deliverRead_eq_ok hstep
  · exact ⟨added, hsame.trans htrace, hopen⟩
  · refine ⟨added ++ [.onTCPRead client handle event.chunk], ?_, ?_⟩
    · rw [hread, htrace, List.append_assoc]
    · simpa [List.filterMap_append, Call.sideCall] using hopen

theorem Network.answered_openSince
    (net : Network) (client req handle : ℕ) (answer : Bool) (readStart : ℤ) :
    net.OpenSince (net.answered client req handle answer readStart) := by
  refine ⟨_, net.answered_trace client req handle answer readStart, ?_⟩
  simp [Call.sideCall]

/-- No callback of the client closes the handle. -/
theorem Network.Connects.uvClose_notMem_clientTrace
    {net : Network} {client req handle : ℕ}
    (hconnects : net.Connects client req handle) {answer : Bool} {readStart : ℤ}
    {events : List ReadEvent} {calls : List SideCall}
    (htrace : net.clientTrace client req answer readStart events = .ok calls) :
    .uvClose ∉ calls := by
  rw [Network.clientTrace, hconnects.clientSide_eq] at htrace
  cases hrun : run (Network.deliverRead client handle)
      (net.answered client req handle answer readStart) events with
  | error fault =>
      rw [hrun] at htrace
      contradiction
  | ok final =>
      have hpres := net.deliverRead_preserves_openSince client handle
      have hopen := net.answered_openSince client req handle answer readStart
      obtain ⟨added, hadded, hnone⟩ := hpres.run hopen (fun _ _ => trivial) hrun
      rw [hrun, Except.map, Except.ok.injEq,
        World.sideCalls_of_append hadded] at htrace
      rw [← htrace]
      exact hnone

/-! ## Where the sides agree -/

theorem answered_of_sidesAlike
    {world : World} {server listener : ℕ}
    (haccepts : world.AcceptsFor server listener)
    {net : Network} {client req handle : ℕ}
    (hconnects : net.Connects client req handle)
    {answer : Bool} {readStart : ℤ} {events : List ReadEvent}
    (hsame : net.clientTrace client req answer readStart events =
      world.serverTrace listener answer readStart events) :
    answer = true ∧ readStart = 0 := by
  by_contra hrefused
  have hclosed : answer = false ∨ readStart ≠ 0 := by
    by_cases hanswer : answer = true
    · exact Or.inr fun hstart => hrefused ⟨hanswer, hstart⟩
    · exact Or.inl (Bool.not_eq_true answer ▸ hanswer)
  rw [haccepts.serverTrace_of_refused hclosed] at hsame
  have hopen := hconnects.uvClose_notMem_clientTrace hsame
  simp at hopen

/-- The sides treat a connection alike only where it is accepted, read, and
silent. -/
theorem sidesAlike_iff
    {world : World} {server listener : ℕ}
    (haccepts : world.AcceptsFor server listener)
    {net : Network} {client req handle : ℕ}
    (hconnects : net.Connects client req handle)
    (answer : Bool) (readStart : ℤ) (events : List ReadEvent) :
    SidesAlike (world.serverTrace listener answer readStart events)
        (net.clientTrace client req answer readStart events) answer events ↔
      answer = true ∧ readStart = 0 ∧ ∀ event ∈ events, event.nread = 0 := by
  constructor
  · intro halike
    obtain ⟨rfl, rfl⟩ := answered_of_sidesAlike haccepts hconnects halike.same
    refine ⟨rfl, rfl, ?_⟩
    have hserver := halike.same.symm
    rw [hconnects.clientTrace_of_accepted] at hserver
    have hcalls := haccepts.serverTrace_eq_ok hserver
    simpa [readCalls_eq_nil_iff] using hcalls
  · rintro ⟨rfl, rfl, hquiet⟩
    constructor
    · rw [hconnects.clientTrace_of_accepted, haccepts.serverTrace_of_quiet hquiet]
    · intro _
      rw [hconnects.clientTrace_of_accepted, readCalls_eq_nil_iff.mpr hquiet]
    · intro hanswer
      contradiction

def listeningServer : World :=
  (World.empty.construct.bind 0 (CTemplateSocket.new 0) [] 0 false
    (.success ⟨0, 0⟩)).2

def connectingClient : Network :=
  { Network.empty with world := World.empty.construct }.connectTCP 0
    (CTemplateSocket.new 0) [] 0 ⟨fun _ _ => (0, ⟨0, 0⟩), fun _ => 0⟩

theorem sidesAlike_iff_oneByte :
    SidesAlike (listeningServer.serverTrace 0 true 0 [⟨1, [65, 0]⟩])
        (connectingClient.clientTrace 0 0 true 0 [⟨1, [65, 0]⟩]) true
        [⟨1, [65, 0]⟩] ↔
      true = true ∧ (0 : ℤ) = 0 ∧
        ∀ event ∈ [(⟨1, [65, 0]⟩ : ReadEvent)], event.nread = 0 := by
  have haccepts : listeningServer.AcceptsFor 0 0 :=
    ⟨_, rfl, by decide, 0, _, _, rfl, rfl, rfl, rfl⟩
  have hconnects : connectingClient.Connects 0 0 0 :=
    ⟨⟨_, rfl, rfl⟩, ⟨_, rfl, by decide, by decide⟩, ⟨_, rfl⟩, by decide⟩
  exact sidesAlike_iff haccepts hconnects true 0 [⟨1, [65, 0]⟩]

/-- The server hands over what it reads; the client, accepted, never reads. -/
theorem accepted_client_never_reads :
    listeningServer.serverTrace 0 true 0 [⟨1, [65, 0]⟩] =
        .ok [.onTCPNewConnection 0, .onTCPRead [65]] ∧
      connectingClient.clientTrace 0 0 true 0 [⟨1, [65, 0]⟩] =
        .ok [.onTCPNewConnection 0] ∧
      ¬ SidesAlike (listeningServer.serverTrace 0 true 0 [⟨1, [65, 0]⟩])
        (connectingClient.clientTrace 0 0 true 0 [⟨1, [65, 0]⟩]) true
        [⟨1, [65, 0]⟩] := by
  have hserver : listeningServer.serverTrace 0 true 0 [⟨1, [65, 0]⟩] =
      .ok [.onTCPNewConnection 0, .onTCPRead [65]] := rfl
  have hclient : connectingClient.clientTrace 0 0 true 0 [⟨1, [65, 0]⟩] =
      .ok [.onTCPNewConnection 0] := rfl
  refine ⟨hserver, hclient, ?_⟩
  intro halike
  have hsame := halike.same
  rw [hserver, hclient] at hsame
  simp at hsame

end MDK
