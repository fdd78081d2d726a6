import MDK.StepSystem
import MDK.TemplateServer

/-!
# Runs of the servers

A run interleaves what the user does with server objects and sockets and what
libuv delivers.  An event is only taken where the contract of libuv or of the
user allows it; everything the callbacks do wrong by themselves stops the run
with a fault.
-/

namespace MDK

open StepSystem

inductive Event where
  | construct
  | bind (server : ℕ) (ip : List UInt8) (port : ℤ) (udp : Bool)
      (libuv : BindAnswers)
  | newConnection (listener : ℕ) (status accept : ℤ)
  | newConnectionReturn (answer : Bool) (readStart : ℤ)
  | tcpRead (client : ℕ) (nread : ℤ) (buf : List UInt8)
  | close (socket : ℕ)
  | closeCallback (handle : ℕ)
  | setData (socket : ℕ) (data : Pointer)

inductive Stop where
  | notEnabled
  | fault (fault : Fault)
  deriving DecidableEq, Repr

def World.handleIs (world : World) (name : ℕ) (is : Handle → Bool) : Bool :=
  (world.handles.get? name).any is

/-- libuv calls a listener or a reading client that is not closing, while no
other callback runs, and refuses to start reading on a closing handle.  The user
closes active handles only and reaches for extra data where there is some. -/
def World.step (world : World) : Event → Except Stop World
  | .construct => .ok world.construct
  | .bind server ip port udp libuv =>
      match world.sockets.get? server with
      | none => .error .notEnabled
      | some this => .ok (world.bind server this ip port udp libuv).2
  | .newConnection listener status accept =>
      if world.calling = none ∧ world.handleIs listener (·.listening) then
        (world.libuvCallbackOnServerTcpNewConnection listener status
          accept).mapError .fault
      else .error .notEnabled
  | .newConnectionReturn answer readStart =>
      match world.calling with
      | none => .error .notEnabled
      | some client =>
          if answer = true ∧ readStart = 0 ∧
              ¬ world.handleIs client (·.status = .active) then
            .error .notEnabled
          else
            .ok (world.libuvCallbackOnServerTcpNewConnectionReturn client answer
              readStart)
  | .tcpRead client nread buf =>
      if world.calling = none ∧ world.handleIs client (·.reading) then
        (world.libuvCallbackOnServerTcpRead client nread buf).mapError .fault
      else .error .notEnabled
  | .close socket =>
      if world.handleIs socket (·.status = .active) then .ok (world.close socket)
      else .error .notEnabled
  | .closeCallback handle =>
      if world.calling = none ∧ world.handleIs handle (·.status = .closing) then
        .ok (world.libuvCallbackOnClose handle)
      else .error .notEnabled
  | .setData socket data =>
      (world.setData socket data).mapError fun _ => .notEnabled

theorem World.bind_of_step
    {world later : World} {server : ℕ} {ip : List UInt8} {port : ℤ} {udp : Bool}
    {libuv : BindAnswers}
    (hstep : world.step (.bind server ip port udp libuv) = .ok later) :
    ∃ this, later = (world.bind server this ip port udp libuv).2 := by
  cases hthis : world.sockets.get? server with
  | none => simp [World.step, hthis] at hstep
  | some this =>
      simp only [World.step, hthis, Except.ok.injEq] at hstep
      exact ⟨this, hstep.symm⟩

theorem World.handleIs_iff {world : World} {name : ℕ} {is : Handle → Bool} :
    world.handleIs name is = true ↔
      ∃ handle, world.handles.get? name = some handle ∧ is handle = true := by
  unfold World.handleIs
  cases hget : world.handles.get? name with
  | none => simp
  | some handle => simp

/-! ## Growth -/

/-- No step forgets a handle and the listener it came from, a record and the
server it belongs to, or a call. -/
structure World.Grows (world next : World) : Prop where
  handles : ∀ name handle, world.handles.get? name = some handle →
    ∃ later, next.handles.get? name = some later ∧
      later.acceptedFrom = handle.acceptedFrom
  owns : ∀ server slot, world.Owns server slot → next.Owns server slot
  trace : world.trace <+: next.trace

theorem World.Grows.refl (world : World) : world.Grows world where
  handles _ handle hget := ⟨handle, hget, rfl⟩
  owns _ _ howns := howns
  trace := List.prefix_refl _

theorem World.Grows.mem_trace
    {world next : World} (hgrows : world.Grows next) {call : Call}
    (hmem : call ∈ world.trace) : call ∈ next.trace :=
  hgrows.trace.subset hmem

theorem World.Owns.mono
    {world next : World} {server : ℕ} {slot : DataSlot}
    (howns : world.Owns server slot)
    (hrecords : ∀ name record, world.records.get? name = some record →
      ∃ later, next.records.get? name = some later ∧
        later.socket = record.socket)
    (hsockets : ∀ name socket, world.sockets.get? name = some socket →
      ∃ later, next.sockets.get? name = some later) :
    next.Owns server slot := by
  rcases howns with ⟨record, clientData, socket, hslot, hrecord, hserver, hsocket⟩
  rcases hrecords record clientData hrecord with ⟨later, hlater, hsame⟩
  rcases hsockets server socket hsocket with ⟨laterSocket, hlaterSocket⟩
  exact ⟨record, later, laterSocket, hslot, hlater, hsame.trans hserver,
    hlaterSocket⟩

/-! ## Well-formed worlds -/

structure Handle.Valid (world : World) (name : ℕ) (handle : Handle) : Prop where
  listening : handle.listening = true → handle.status = .active ∧
    ∃ server, .uvListen server name 0 ∈ world.trace ∧
      world.Owns server handle.data
  accepted : ∀ listener, handle.acceptedFrom = some listener →
    ∃ server, .uvListen server listener 0 ∈ world.trace ∧
      (handle.status ≠ .freed → world.Owns server handle.data)
  reading : handle.reading = true →
    handle.status = .active ∧ handle.acceptedFrom ≠ none
  unclosed : handle.status = .active → .uvClose name ∉ world.trace

structure World.Valid (world : World) : Prop where
  handles : ∀ name handle, world.handles.get? name = some handle →
    handle.Valid world name
  calls : ∀ call ∈ world.trace, ∃ handle,
    world.handles.get? call.handle = some handle
  readers : ∀ server client chunk,
    .onTCPRead server client chunk ∈ world.trace →
      ∃ handle listener, world.handles.get? client = some handle ∧
        handle.acceptedFrom = some listener ∧
        .uvListen server listener 0 ∈ world.trace
  listeners : ∀ listener server other result otherResult,
    .uvListen server listener result ∈ world.trace →
      .uvListen other listener otherResult ∈ world.trace → server = other
  calling : ∀ client, world.calling = some client →
    ∃ handle, world.handles.get? client = some handle ∧
      handle.status ≠ .freed ∧
      (handle.status = .active → handle.acceptedFrom ≠ none)

theorem World.empty_valid : World.empty.Valid where
  handles name handle hget := by simp [World.empty] at hget
  calls call hmem := by simp [World.empty] at hmem
  readers server client chunk hmem := by simp [World.empty] at hmem
  listeners listener server other result otherResult hmem := by
    simp [World.empty] at hmem
  calling client hcalling := by simp [World.empty] at hcalling

theorem Handle.Valid.owns_of_reading
    {world : World} {name : ℕ} {handle : Handle}
    (hvalid : handle.Valid world name) (hreading : handle.reading = true) :
    ∃ listener server, handle.acceptedFrom = some listener ∧
      .uvListen server listener 0 ∈ world.trace ∧
      world.Owns server handle.data := by
  rcases hvalid.reading hreading with ⟨hactive, haccepted⟩
  rcases Option.ne_none_iff_exists'.mp haccepted with ⟨listener, hlistener⟩
  rcases hvalid.accepted listener hlistener with ⟨server, hlisten, howns⟩
  refine ⟨listener, server, hlistener, hlisten, howns ?_⟩
  simp [hactive]

/-! ## What a step can do -/

inductive World.Steps (world : World) : Event → World → Prop where
  | construct : Steps world .construct world.construct
  | bind {server : ℕ} {ip : List UInt8} {port : ℤ} {udp : Bool}
      {libuv : BindAnswers} {handle : Handle} {added : List Call} {next : World}
      (hbinds : world.BindsTo server handle added next) :
      Steps world (.bind server ip port udp libuv) next
  | refused {listener : ℕ} {status accept : ℤ} (hstatus : status < 0) :
      Steps world (.newConnection listener status accept) world
  | connected {listener server loop : ℕ} {handle : Handle} {status accept : ℤ}
      (hcalling : world.calling = none)
      (hget : world.handles.get? listener = some handle)
      (hlistening : handle.listening = true)
      (hlisten : .uvListen server listener 0 ∈ world.trace)
      (howns : world.Owns server handle.data) (hstatus : 0 ≤ status) :
      Steps world (.newConnection listener status accept)
        (world.connected listener server
          (Handle.ofClient loop listener handle.data accept) accept)
  | rejected {client : ℕ} {answer : Bool} {readStart : ℤ}
      (hcalling : world.calling = some client)
      (hanswer : answer = false ∨ readStart ≠ 0) :
      Steps world (.newConnectionReturn answer readStart)
        ({ world with calling := none }.uvClose client)
  | reads {client : ℕ} {handle : Handle}
      (hcalling : world.calling = some client)
      (hget : world.handles.get? client = some handle)
      (hactive : handle.status = .active) :
      Steps world (.newConnectionReturn true 0)
        { world with
          calling := none
          handles := world.handles.modify client Handle.uvReadStart }
  | readFailed {client : ℕ} {handle : Handle} {nread : ℤ} {buf : List UInt8}
      (hcalling : world.calling = none)
      (hget : world.handles.get? client = some handle)
      (hreading : handle.reading = true) (hnread : nread < 0) :
      Steps world (.tcpRead client nread buf) (world.uvClose client)
  | readNothing {client : ℕ} {buf : List UInt8} :
      Steps world (.tcpRead client 0 buf) world
  | readChunk {client server : ℕ} {handle : Handle} {nread : ℤ}
      {buf : List UInt8} (hcalling : world.calling = none)
      (hget : world.handles.get? client = some handle)
      (hreading : handle.reading = true) (hnread : 0 < nread)
      (howns : world.Owns server handle.data) :
      Steps world (.tcpRead client nread buf)
        (world.record (.onTCPRead server client (buf.take nread.toNat)))
  | close {socket : ℕ} {handle : Handle}
      (hget : world.handles.get? socket = some handle)
      (hactive : handle.status = .active) :
      Steps world (.close socket) (world.uvClose socket)
  | closeCallback {name : ℕ} {handle : Handle}
      (hcalling : world.calling = none)
      (hget : world.handles.get? name = some handle)
      (hclosing : handle.status = .closing) :
      Steps world (.closeCallback name) (world.libuvCallbackOnClose name)
  | setData {socket record : ℕ} {handle : Handle} {data : Pointer}
      (hget : world.handles.get? socket = some handle)
      (hfreed : handle.status ≠ .freed)
      (hslot : handle.data = .clientData record) :
      Steps world (.setData socket data) (world.writeData socket record data)

theorem mapError_eq_ok_iff
    {Failure Reason Result : Type} {outcome : Except Failure Result}
    {reason : Failure → Reason} {result : Result} :
    outcome.mapError reason = .ok result ↔ outcome = .ok result := by
  cases outcome with
  | error failure => simp [Except.mapError]
  | ok value => simp [Except.mapError]

/-! ## What the callbacks of a valid world do -/

theorem World.Valid.newConnection_of_listening
    {world : World} (hvalid : world.Valid) {listener : ℕ}
    (hready : world.handleIs listener (·.listening) = true)
    (status accept : ℤ) :
    (status < 0 ∧
      world.libuvCallbackOnServerTcpNewConnection listener status accept =
        .ok world) ∨
    ∃ handle server loop, world.handles.get? listener = some handle ∧
      handle.listening = true ∧ .uvListen server listener 0 ∈ world.trace ∧
      world.Owns server handle.data ∧ 0 ≤ status ∧
      world.libuvCallbackOnServerTcpNewConnection listener status accept =
        .ok (world.connected listener server
          (Handle.ofClient loop listener handle.data accept) accept) := by
  rcases World.handleIs_iff.mp hready with ⟨handle, hget, hlistening⟩
  by_cases hstatus : status < 0
  · left
    exact ⟨hstatus,
      World.libuvCallbackOnServerTcpNewConnection_of_neg hget hstatus accept⟩
  · right
    rcases (hvalid.handles listener handle hget).listening hlistening with
      ⟨hactive, server, hlisten, howns⟩
    have hnonneg : 0 ≤ status := Int.not_lt.mp hstatus
    rcases World.libuvCallbackOnServerTcpNewConnection_of_owns hget
      (by simp [hactive]) howns hnonneg accept with ⟨loop, hcallback⟩
    exact ⟨handle, server, loop, hget, hlistening, hlisten, howns, hnonneg,
      hcallback⟩

theorem World.libuvCallbackOnServerTcpNewConnectionReturn_of_rejected
    (world : World) (client : ℕ) {answer : Bool} {readStart : ℤ}
    (hrejected : answer = false ∨ readStart ≠ 0) :
    world.libuvCallbackOnServerTcpNewConnectionReturn client answer readStart =
      { world with calling := none }.uvClose client := by
  unfold World.libuvCallbackOnServerTcpNewConnectionReturn
  rcases hrejected with hanswer | hreadStart
  · simp [hanswer]
  · simp [hreadStart]

theorem World.Valid.tcpRead_of_reading
    {world : World} (hvalid : world.Valid) {client : ℕ}
    (hready : world.handleIs client (·.reading) = true)
    (nread : ℤ) (buf : List UInt8) :
    ∃ handle server, world.handles.get? client = some handle ∧
      handle.reading = true ∧ world.Owns server handle.data ∧
      world.libuvCallbackOnServerTcpRead client nread buf =
        if nread < 0 then .ok (world.uvClose client)
        else if nread = 0 then .ok world
        else if buf.length ≤ nread.toNat then .error .outOfBounds
        else .ok (world.record
          (.onTCPRead server client (buf.take nread.toNat))) := by
  rcases World.handleIs_iff.mp hready with ⟨handle, hget, hreading⟩
  have hhandle := hvalid.handles client handle hget
  rcases hhandle.owns_of_reading hreading with ⟨_, server, _, _, howns⟩
  exact ⟨handle, server, hget, hreading, howns,
    World.libuvCallbackOnServerTcpRead_of_owns hget
      (by simp [(hhandle.reading hreading).1]) howns nread buf⟩

/-! ## Every step is one of them -/

theorem World.Valid.steps
    {world next : World} (hvalid : world.Valid) {event : Event}
    (hstep : world.step event = .ok next) : world.Steps event next := by
  cases event with
  | construct =>
      cases hstep
      exact .construct
  | bind server ip port udp libuv =>
      cases hthis : world.sockets.get? server with
      | none => simp [World.step, hthis] at hstep
      | some this =>
          simp only [World.step, hthis, Except.ok.injEq] at hstep
          rcases World.bind_spec hthis ip port udp libuv with ⟨_, _, hbinds⟩
          rw [hstep] at hbinds
          exact .bind hbinds
  | newConnection listener status accept =>
      simp only [World.step] at hstep
      split_ifs at hstep with hready
      rw [mapError_eq_ok_iff] at hstep
      rcases hvalid.newConnection_of_listening hready.2 status accept with
        ⟨hstatus, hcallback⟩ | ⟨handle, server, loop, hget, hlistening, hlisten,
          howns, hstatus, hcallback⟩
      · rw [hcallback] at hstep
        cases hstep
        exact .refused hstatus
      · rw [hcallback] at hstep
        cases hstep
        exact .connected hready.1 hget hlistening hlisten howns hstatus
  | newConnectionReturn answer readStart =>
      cases hcalling : world.calling with
      | none => simp [World.step, hcalling] at hstep
      | some client =>
          simp only [World.step, hcalling] at hstep
          split_ifs at hstep with hrefused
          cases hstep
          by_cases hanswer : answer = false ∨ readStart ≠ 0
          · rw [world.libuvCallbackOnServerTcpNewConnectionReturn_of_rejected
              client hanswer]
            exact .rejected hcalling hanswer
          · simp only [not_or, Bool.not_eq_false, ne_eq, not_not] at hanswer
            rcases hanswer with ⟨rfl, rfl⟩
            simp only [true_and, not_not] at hrefused
            rcases World.handleIs_iff.mp hrefused with ⟨handle, hget, hactive⟩
            exact .reads hcalling hget (by simpa using hactive)
  | tcpRead client nread buf =>
      simp only [World.step] at hstep
      split_ifs at hstep with hready
      rcases hvalid.tcpRead_of_reading hready.2 nread buf with
        ⟨handle, server, hget, hreading, howns, hcallback⟩
      rw [mapError_eq_ok_iff, hcallback] at hstep
      split_ifs at hstep with hneg hzero hlength
      · cases hstep
        exact .readFailed hready.1 hget hreading hneg
      · cases hstep
        subst nread
        exact .readNothing
      · cases hstep
        exact .readChunk hready.1 hget hreading (by omega) howns
  | close socket =>
      simp only [World.step] at hstep
      split_ifs at hstep with hready
      cases hstep
      rcases World.handleIs_iff.mp hready with ⟨handle, hget, hactive⟩
      exact .close hget (by simpa using hactive)
  | closeCallback name =>
      simp only [World.step] at hstep
      split_ifs at hstep with hready
      cases hstep
      rcases World.handleIs_iff.mp hready.2 with ⟨handle, hget, hclosing⟩
      exact .closeCallback hready.1 hget (by simpa using hclosing)
  | setData socket data =>
      simp only [World.step, mapError_eq_ok_iff] at hstep
      rcases World.setData_eq_ok hstep with ⟨_, _, hget, hfreed, hslot, hnext⟩
      subst hnext
      exact .setData hget hfreed hslot

/-! ## Validity along a run -/

theorem World.grows_uvClose (world : World) (name : ℕ) :
    world.Grows (world.uvClose name) where
  handles _ _ hget := Arena.exists_get?_modify_and hget name rfl rfl
  owns _ _ howns := howns
  trace := List.prefix_append _ _

theorem World.grows_record (world : World) (call : Call) :
    world.Grows (world.record call) where
  handles _ handle hget := ⟨handle, hget, rfl⟩
  owns _ _ howns := howns
  trace := List.prefix_append _ _

theorem World.grows_modify
    (world : World) (calling : Option ℕ) (name : ℕ) {change : Handle → Handle}
    (hchange : ∀ handle, (change handle).acceptedFrom = handle.acceptedFrom) :
    world.Grows { world with
      calling := calling
      handles := world.handles.modify name change } where
  handles _ handle hget :=
    Arena.exists_get?_modify_and hget name (hchange handle) rfl
  owns _ _ howns := howns
  trace := List.prefix_refl _

theorem World.grows_connected
    (world : World) (listener server : ℕ) (client : Handle) (accept : ℤ) :
    world.Grows (world.connected listener server client accept) where
  handles _ handle hget := ⟨handle, Arena.get?_alloc_of_some hget client, rfl⟩
  owns _ _ howns := howns
  trace := List.prefix_append _ _

theorem World.BindsTo.grows
    {world next : World} {server : ℕ} {handle : Handle} {added : List Call}
    (hbinds : world.BindsTo server handle added next) : world.Grows next where
  handles name old hget := by
    refine ⟨old, ?_, rfl⟩
    rw [hbinds.handles]
    exact Arena.get?_alloc_of_some hget handle
  owns owner slot howns := by
    apply howns.mono _ hbinds.sockets
    intro name record hget
    rcases hbinds.records with hsame | halloc
    · exact ⟨record, by rw [hsame, hget], rfl⟩
    · exact ⟨record, by rw [halloc, Arena.get?_alloc_of_some hget], rfl⟩
  trace := by
    rw [hbinds.trace]
    exact List.prefix_append _ _

theorem World.grows_writeData
    (world : World) (socket record : ℕ) (data : Pointer) :
    world.Grows (world.writeData socket record data) where
  handles _ handle hget := ⟨handle, hget, rfl⟩
  owns server slot howns := by
    apply howns.mono
    · intro name clientData hget
      exact Arena.exists_get?_modify_and hget record rfl rfl
    · intro name socket hget
      exact ⟨socket, hget⟩
  trace := List.prefix_append _ _

theorem World.grows_construct (world : World) : world.Grows world.construct where
  handles _ handle hget := ⟨handle, hget, rfl⟩
  owns server slot howns := by
    apply howns.mono
    · intro name record hget
      exact ⟨record, hget, rfl⟩
    · intro name socket hget
      exact ⟨socket, Arena.get?_alloc_of_some hget _⟩
  trace := List.prefix_refl _

theorem World.Steps.grows
    {world next : World} {event : Event} (hsteps : world.Steps event next) :
    world.Grows next := by
  cases hsteps with
  | construct => exact world.grows_construct
  | bind hbinds => exact hbinds.grows
  | refused _ => exact .refl world
  | connected _ _ _ _ _ _ => exact world.grows_connected _ _ _ _
  | rejected _ _ =>
      exact ⟨(world.grows_uvClose _).handles, fun _ _ howns => howns,
        List.prefix_append _ _⟩
  | reads _ _ _ => exact world.grows_modify none _ fun _ => rfl
  | readFailed _ _ _ _ => exact world.grows_uvClose _
  | readNothing => exact .refl world
  | readChunk _ _ _ _ _ => exact world.grows_record _
  | close _ _ => exact world.grows_uvClose _
  | closeCallback _ _ _ => exact world.grows_modify world.calling _ fun _ => rfl
  | setData _ _ _ => exact world.grows_writeData _ _ _

theorem Handle.Valid.mono
    {world next : World} {name : ℕ} {handle : Handle}
    (hvalid : handle.Valid world name) (hgrows : world.Grows next)
    (hclose : .uvClose name ∈ next.trace → .uvClose name ∈ world.trace) :
    handle.Valid next name where
  listening hlistening := by
    rcases hvalid.listening hlistening with ⟨hactive, server, hlisten, howns⟩
    exact ⟨hactive, server, hgrows.mem_trace hlisten, hgrows.owns _ _ howns⟩
  accepted listener hlistener := by
    rcases hvalid.accepted listener hlistener with ⟨server, hlisten, howns⟩
    exact ⟨server, hgrows.mem_trace hlisten,
      fun hfreed => hgrows.owns _ _ (howns hfreed)⟩
  reading := hvalid.reading
  unclosed hactive hmem := hvalid.unclosed hactive (hclose hmem)

/-- The parts of validity that are about the past: they survive a step whose
added calls are on handles that exist, deliver to clients of the right server,
and listen on a new handle only. -/
theorem World.Valid.of_grows
    {world next : World} (hvalid : world.Valid) (hgrows : world.Grows next)
    {added : List Call} (htrace : next.trace = world.trace ++ added)
    (hhandles : ∀ name handle, next.handles.get? name = some handle →
      handle.Valid next name)
    (hcalls : ∀ call ∈ added, ∃ handle,
      next.handles.get? call.handle = some handle)
    (hreaders : ∀ server client chunk, .onTCPRead server client chunk ∈ added →
      ∃ handle listener, next.handles.get? client = some handle ∧
        handle.acceptedFrom = some listener ∧
        .uvListen server listener 0 ∈ next.trace)
    (hlisteners : ∀ listener server result,
      .uvListen server listener result ∈ added →
        listener = world.handles.fresh ∧
          ∀ other otherResult, .uvListen other listener otherResult ∈ added →
            other = server)
    (hcalling : ∀ client, next.calling = some client →
      ∃ handle, next.handles.get? client = some handle ∧
        handle.status ≠ .freed ∧
        (handle.status = .active → handle.acceptedFrom ≠ none)) :
    next.Valid where
  handles := hhandles
  calls call hmem := by
    rw [htrace, List.mem_append] at hmem
    rcases hmem with hold | hnew
    · rcases hvalid.calls call hold with ⟨handle, hget⟩
      rcases hgrows.handles _ _ hget with ⟨later, hlater, _⟩
      exact ⟨later, hlater⟩
    · exact hcalls call hnew
  readers server client chunk hmem := by
    rw [htrace, List.mem_append] at hmem
    rcases hmem with hold | hnew
    · rcases hvalid.readers server client chunk hold with
        ⟨handle, listener, hget, hlistener, hlisten⟩
      rcases hgrows.handles _ _ hget with ⟨later, hlater, hsame⟩
      exact ⟨later, listener, hlater, hsame.trans hlistener,
        hgrows.mem_trace hlisten⟩
    · exact hreaders server client chunk hnew
  listeners listener server other result otherResult hmem hother := by
    rw [htrace, List.mem_append] at hmem hother
    have hfresh : ∀ owner ownerResult,
        Call.uvListen owner listener ownerResult ∈ world.trace →
          listener ≠ world.handles.fresh := by
      intro owner ownerResult hold
      rcases hvalid.calls _ hold with ⟨handle, hget⟩
      exact Arena.ne_fresh_of_get? hget
    rcases hmem with hold | hnew
    · rcases hother with hotherOld | hotherNew
      · exact hvalid.listeners listener server other result otherResult hold
          hotherOld
      · exact absurd (hlisteners listener other otherResult hotherNew).1
          (hfresh server result hold)
    · rcases hother with hotherOld | hotherNew
      · exact absurd (hlisteners listener server result hnew).1
          (hfresh other otherResult hotherOld)
      · exact ((hlisteners listener server result hnew).2 other otherResult
          hotherNew).symm
  calling := hcalling

theorem World.Valid.idle {world : World} (hvalid : world.Valid) :
    { world with calling := none }.Valid := by
  have hgrows : world.Grows { world with calling := none } := by
    constructor
    · intro name handle hget
      exact ⟨handle, hget, rfl⟩
    · intro server slot howns
      exact howns
    · exact List.prefix_refl _
  apply hvalid.of_grows hgrows (List.append_nil _).symm
  · intro name handle hget
    exact (hvalid.handles name handle hget).mono hgrows fun hmem => hmem
  · simp
  · simp
  · simp
  · simp

theorem World.Valid.sameHandles
    {world next : World} (hvalid : world.Valid) (hgrows : world.Grows next)
    (hhandles : next.handles = world.handles)
    (hcalling : next.calling = world.calling)
    {added : List Call} (htrace : next.trace = world.trace ++ added)
    (hcalls : ∀ call ∈ added, ∃ handle,
      world.handles.get? call.handle = some handle)
    (hreaders : ∀ server client chunk, .onTCPRead server client chunk ∈ added →
      ∃ handle listener, world.handles.get? client = some handle ∧
        handle.acceptedFrom = some listener ∧
        .uvListen server listener 0 ∈ next.trace)
    (hquiet : ∀ name, .uvClose name ∉ added ∧
      ∀ server result, .uvListen server name result ∉ added) :
    next.Valid := by
  apply hvalid.of_grows hgrows htrace
  · intro name handle hget
    rw [hhandles] at hget
    apply (hvalid.handles name handle hget).mono hgrows
    intro hmem
    rw [htrace, List.mem_append] at hmem
    rcases hmem with hold | hnew
    · exact hold
    · exact absurd hnew (hquiet name).1
  · rw [hhandles]
    exact hcalls
  · rw [hhandles]
    exact hreaders
  · intro listener server result hmem
    exact absurd hmem ((hquiet listener).2 server result)
  · intro client hclient
    rw [hcalling] at hclient
    rw [hhandles]
    exact hvalid.calling client hclient

/-- A change of one handle that keeps it valid keeps the world valid, if the
step calls nothing but that handle. -/
theorem World.Valid.modify
    {world next : World} (hvalid : world.Valid) (hgrows : world.Grows next)
    {name : ℕ} {handle : Handle} (hget : world.handles.get? name = some handle)
    {change : Handle → Handle}
    (hhandles : next.handles = world.handles.modify name change)
    {added : List Call} (htrace : next.trace = world.trace ++ added)
    (hadded : added = [] ∨ added = [.uvClose name])
    (hchanged : (change handle).Valid next name)
    (hcalling : ∀ client, next.calling = some client →
      world.calling = some client ∧
        (client = name → (change handle).status = .closing)) :
    next.Valid := by
  have hself : next.handles.get? name = some (change handle) := by
    rw [hhandles]
    exact Arena.get?_modify_self hget change
  have hother : ∀ other, other ≠ name →
      next.handles.get? other = world.handles.get? other := by
    intro other hne
    rw [hhandles]
    exact Arena.get?_modify_of_ne _ _ hne
  apply hvalid.of_grows hgrows htrace
  · intro other later hlater
    by_cases heq : other = name
    · subst heq
      rw [hself] at hlater
      cases hlater
      exact hchanged
    · rw [hother other heq] at hlater
      apply (hvalid.handles other later hlater).mono hgrows
      intro hmem
      rw [htrace] at hmem
      rcases hadded with hnone | hclose
      · simpa [hnone] using hmem
      · simpa [hclose, heq] using hmem
  · intro call hmem
    rcases hadded with hnone | hclose
    · simp [hnone] at hmem
    · rw [hclose, List.mem_singleton] at hmem
      subst hmem
      exact ⟨change handle, hself⟩
  · intro server client chunk hmem
    rcases hadded with hnone | hclose
    · simp [hnone] at hmem
    · simp [hclose] at hmem
  · intro listener server result hmem
    rcases hadded with hnone | hclose
    · simp [hnone] at hmem
    · simp [hclose] at hmem
  · intro client hclient
    rcases hcalling client hclient with ⟨hbefore, hclosing⟩
    rcases hvalid.calling client hbefore with ⟨before, hgetBefore, haccepted⟩
    by_cases heq : client = name
    · subst heq
      refine ⟨change handle, hself, ?_⟩
      simp [hclosing rfl]
    · exact ⟨before, by rw [hother client heq, hgetBefore], haccepted⟩

theorem World.Valid.uvClose
    {world : World} (hvalid : world.Valid) {name : ℕ} {handle : Handle}
    (hget : world.handles.get? name = some handle)
    (hfreed : handle.status ≠ .freed) : (world.uvClose name).Valid := by
  have hgrows := world.grows_uvClose name
  have hhandle := hvalid.handles name handle hget
  apply hvalid.modify hgrows hget rfl rfl (Or.inr rfl)
  · constructor
    · intro hlistening
      simp [Handle.closing] at hlistening
    · intro listener hlistener
      rcases hhandle.accepted listener hlistener with ⟨server, hlisten, howns⟩
      exact ⟨server, hgrows.mem_trace hlisten, fun _ => howns hfreed⟩
    · intro hreading
      simp [Handle.closing] at hreading
    · intro hactive
      simp [Handle.closing] at hactive
  · intro client hcalling
    exact ⟨hcalling, by simp [Handle.closing]⟩

theorem World.Valid.reads
    {world : World} (hvalid : world.Valid) {client : ℕ} {handle : Handle}
    (hcalling : world.calling = some client)
    (hget : world.handles.get? client = some handle)
    (hactive : handle.status = .active) :
    { world with
      calling := none
      handles := world.handles.modify client Handle.uvReadStart }.Valid := by
  have hhandle := hvalid.handles client handle hget
  rcases hvalid.calling client hcalling with ⟨same, hsame, _, haccepted⟩
  rw [hget] at hsame
  cases hsame
  have hgrows : world.Grows { world with
      calling := none
      handles := world.handles.modify client Handle.uvReadStart } :=
    world.grows_modify none client fun _ => rfl
  apply hvalid.modify hgrows hget rfl (List.append_nil _).symm (Or.inl rfl)
  · constructor
    · intro hlistening
      rcases hhandle.listening hlistening with ⟨_, server, hlisten, howns⟩
      exact ⟨hactive, server, hlisten, howns⟩
    · exact hhandle.accepted
    · intro _
      exact ⟨hactive, haccepted hactive⟩
    · exact hhandle.unclosed
  · intro other hother
    simp at hother

theorem World.Valid.libuvCallbackOnClose
    {world : World} (hvalid : world.Valid) {name : ℕ} {handle : Handle}
    (hget : world.handles.get? name = some handle)
    (hclosing : handle.status = .closing) (hcalling : world.calling = none) :
    (world.libuvCallbackOnClose name).Valid := by
  have hhandle := hvalid.handles name handle hget
  have hgrows : world.Grows (world.libuvCallbackOnClose name) :=
    world.grows_modify world.calling name fun _ => rfl
  apply hvalid.modify hgrows hget rfl (List.append_nil _).symm (Or.inl rfl)
  · constructor
    · intro hlistening
      have hactive := (hhandle.listening hlistening).1
      simp [hclosing] at hactive
    · intro listener hlistener
      rcases hhandle.accepted listener hlistener with ⟨server, hlisten, _⟩
      exact ⟨server, hlisten, fun hfreed => absurd rfl hfreed⟩
    · intro hreading
      have hactive := (hhandle.reading hreading).1
      simp [hclosing] at hactive
    · intro hactive
      simp at hactive
  · intro client hclient
    have hnone : world.calling = some client := hclient
    simp [hcalling] at hnone

theorem World.Valid.alloc
    {world next : World} (hvalid : world.Valid) (hgrows : world.Grows next)
    {handle : Handle} (hhandles : next.handles = world.handles.alloc handle)
    {added : List Call} (htrace : next.trace = world.trace ++ added)
    (hadded : ∀ call ∈ added, call.handle = world.handles.fresh ∧
      ∀ server client chunk, call ≠ .onTCPRead server client chunk)
    (hlisteners : ∀ listener server other result otherResult,
      .uvListen server listener result ∈ added →
        .uvListen other listener otherResult ∈ added → server = other)
    (hnew : handle.Valid next world.handles.fresh)
    (hcalling : next.calling = world.calling ∨
      next.calling = some world.handles.fresh ∧ handle.status ≠ .freed ∧
        (handle.status = .active → handle.acceptedFrom ≠ none)) :
    next.Valid := by
  have hself : next.handles.get? world.handles.fresh = some handle := by
    rw [hhandles]
    exact Arena.get?_alloc_fresh _ _
  apply hvalid.of_grows hgrows htrace
  · intro other later hlater
    rw [hhandles, Arena.get?_alloc] at hlater
    split_ifs at hlater with heq
    · cases hlater
      rw [heq]
      exact hnew
    · apply (hvalid.handles other later hlater).mono hgrows
      intro hmem
      rw [htrace, List.mem_append] at hmem
      rcases hmem with hold | hclose
      · exact hold
      · exact absurd (hadded _ hclose).1 heq
  · intro call hmem
    exact ⟨handle, by rw [(hadded call hmem).1, hself]⟩
  · intro server client chunk hmem
    exact absurd rfl ((hadded _ hmem).2 server client chunk)
  · intro listener server result hmem
    exact ⟨(hadded _ hmem).1, fun other otherResult hother =>
      hlisteners listener other server otherResult result hother hmem⟩
  · intro client hclient
    rcases hcalling with hsame | ⟨hfresh, haccepted⟩
    · rw [hsame] at hclient
      rcases hvalid.calling client hclient with ⟨before, hget, haccepted⟩
      exact ⟨before, by rw [hhandles, Arena.get?_alloc_of_some hget], haccepted⟩
    · rw [hfresh] at hclient
      cases hclient
      exact ⟨handle, hself, haccepted⟩

theorem World.Valid.handle_ne_fresh
    {world : World} (hvalid : world.Valid) {call : Call}
    (hmem : call ∈ world.trace) : call.handle ≠ world.handles.fresh := by
  rcases hvalid.calls call hmem with ⟨handle, hget⟩
  exact Arena.ne_fresh_of_get? hget

theorem World.BindsTo.owner_eq
    {world next : World} {server : ℕ} {handle : Handle} {added : List Call}
    (hbinds : world.BindsTo server handle added next) {owner listener : ℕ}
    {result : ℤ} (hmem : .uvListen owner listener result ∈ added) :
    owner = server := by
  rcases hbinds.mem_added hmem with ⟨_, hcall | hcall⟩
  · exact (Call.uvListen.inj hcall).1
  · contradiction

theorem World.Valid.bindsTo
    {world next : World} (hvalid : world.Valid) {server : ℕ} {handle : Handle}
    {added : List Call} (hbinds : world.BindsTo server handle added next) :
    next.Valid := by
  apply hvalid.alloc hbinds.grows hbinds.handles hbinds.trace
  · intro call hmem
    rcases hbinds.mem_added hmem with ⟨_, hcall | hcall⟩
    · simp [hcall, Call.handle]
    · simp [hcall, Call.handle]
  · intro listener owner other result otherResult hmem hother
    rw [hbinds.owner_eq hmem, hbinds.owner_eq hother]
  · constructor
    · intro hlistening
      rcases hbinds.listening hlistening with ⟨hactive, hadded, howns⟩
      refine ⟨hactive, server, ?_, howns⟩
      simp [hbinds.trace, hadded]
    · intro listener hlistener
      simp [hbinds.acceptedFrom] at hlistener
    · intro hreading
      simp [hbinds.reading] at hreading
    · intro _ hmem
      rw [hbinds.trace, List.mem_append] at hmem
      rcases hmem with hold | hnew
      · exact hvalid.handle_ne_fresh hold rfl
      · rcases hbinds.mem_added hnew with ⟨_, hcall⟩
        simp at hcall
  · left
    exact hbinds.calling

theorem World.handle_of_mem_acceptCalls
    {world : World} {listener server : ℕ} {accept : ℤ} {call : Call}
    (hmem : call ∈ world.acceptCalls listener server accept) :
    call.handle = world.handles.fresh := by
  rcases World.mem_acceptCalls hmem with hcall | ⟨_, hcall⟩ | hcall
  · simp [hcall, Call.handle]
  · simp [hcall, Call.handle]
  · simp [hcall, Call.handle]

theorem World.Valid.connected
    {world : World} (hvalid : world.Valid) {listener server loop : ℕ}
    {slot : DataSlot} (hlisten : .uvListen server listener 0 ∈ world.trace)
    (howns : world.Owns server slot) (accept : ℤ) :
    (world.connected listener server
      (Handle.ofClient loop listener slot accept) accept).Valid := by
  have hgrows := world.grows_connected listener server
    (Handle.ofClient loop listener slot accept) accept
  apply hvalid.alloc hgrows rfl rfl
  · intro call hmem
    refine ⟨World.handle_of_mem_acceptCalls hmem, ?_⟩
    intro owner client chunk hcall
    subst hcall
    simpa using World.mem_acceptCalls hmem
  · intro other owner otherOwner result otherResult hmem
    simpa using World.mem_acceptCalls hmem
  · constructor
    · intro hlistening
      simp [Handle.ofClient, Handle.malloc] at hlistening
    · intro other hother
      refine ⟨server, hgrows.mem_trace ?_, fun _ => hgrows.owns _ _ howns⟩
      by_cases haccept : accept = 0
      · simp only [Handle.ofClient, haccept, if_true, Option.some.injEq] at hother
        rw [← hother]
        exact hlisten
      · simp [Handle.ofClient, haccept] at hother
    · intro hreading
      simp [Handle.ofClient, Handle.malloc] at hreading
    · intro hactive hmem
      by_cases haccept : accept = 0
      · rw [World.connected, List.mem_append] at hmem
        rcases hmem with hold | hnew
        · exact hvalid.handle_ne_fresh hold rfl
        · simpa [haccept] using World.mem_acceptCalls hnew
      · simp [Handle.ofClient, haccept] at hactive
  · right
    refine ⟨rfl, ?_⟩
    by_cases haccept : accept = 0
    · simp [Handle.ofClient, haccept]
    · simp [Handle.ofClient, haccept]

theorem World.Valid.readChunk
    {world : World} (hvalid : world.Valid) {client server : ℕ} {handle : Handle}
    (hget : world.handles.get? client = some handle)
    (hreading : handle.reading = true) (howns : world.Owns server handle.data)
    (chunk : List UInt8) :
    (world.record (.onTCPRead server client chunk)).Valid := by
  have hgrows := world.grows_record (.onTCPRead server client chunk)
  rcases (hvalid.handles client handle hget).owns_of_reading hreading with
    ⟨listener, owner, hlistener, hlisten, hownsOwner⟩
  rw [hownsOwner.unique howns] at hlisten
  apply hvalid.sameHandles hgrows rfl rfl rfl
  · simp [Call.handle, hget]
  · intro other otherClient otherChunk hmem
    simp only [List.mem_singleton, Call.onTCPRead.injEq] at hmem
    rw [hmem.1, hmem.2.1]
    exact ⟨handle, listener, hget, hlistener, hgrows.mem_trace hlisten⟩
  · simp

theorem World.Valid.writeData
    {world : World} (hvalid : world.Valid) {socket : ℕ} {handle : Handle}
    (hget : world.handles.get? socket = some handle) (record : ℕ)
    (data : Pointer) : (world.writeData socket record data).Valid := by
  have hgrows := world.grows_writeData socket record data
  apply hvalid.sameHandles hgrows rfl rfl rfl
  · simp [Call.handle, hget]
  · simp
  · simp

theorem World.Valid.construct {world : World} (hvalid : world.Valid) :
    world.construct.Valid := by
  apply hvalid.sameHandles world.grows_construct rfl rfl (List.append_nil _).symm
  · simp
  · simp
  · simp

theorem World.Steps.valid
    {world next : World} {event : Event} (hsteps : world.Steps event next)
    (hvalid : world.Valid) : next.Valid := by
  cases hsteps with
  | construct => exact hvalid.construct
  | bind hbinds => exact hvalid.bindsTo hbinds
  | refused _ => exact hvalid
  | connected _ _ _ hlisten howns _ => exact hvalid.connected hlisten howns _
  | rejected hcalling _ =>
      rcases hvalid.calling _ hcalling with ⟨handle, hget, hfreed, _⟩
      exact hvalid.idle.uvClose hget hfreed
  | reads hcalling hget hactive => exact hvalid.reads hcalling hget hactive
  | readFailed _ hget hreading _ =>
      apply hvalid.uvClose hget
      simp [((hvalid.handles _ _ hget).reading hreading).1]
  | readNothing => exact hvalid
  | readChunk _ hget hreading _ howns =>
      exact hvalid.readChunk hget hreading howns _
  | close hget hactive =>
      apply hvalid.uvClose hget
      simp [hactive]
  | closeCallback hcalling hget hclosing =>
      exact hvalid.libuvCallbackOnClose hget hclosing hcalling
  | setData hget _ _ => exact hvalid.writeData hget _ _

theorem World.step_preserves_valid :
    Preserves World.step (fun _ => True) World.Valid :=
  fun _ _ _ hvalid _ hstep => (hvalid.steps hstep).valid hvalid

end MDK
