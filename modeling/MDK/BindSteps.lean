import MDK.TemplateServer

/-!
# Bind, store by store

`Bind` sets `m_sockType` first and `m_socket` last.  Everything between the two
stores is done to a handle that nothing else can reach, so another thread can
see the object at three points of `Bind` only.
-/

namespace MDK

def CTemplateSocket.typed (this : CTemplateSocket) (udp : Bool) :
    CTemplateSocket :=
  if udp then { this with sockType := .udp } else this

def World.storeSockType (world : World) (server : ℕ) (udp : Bool) : World :=
  { world with
    sockets := world.sockets.modify server fun this => this.typed udp }

def World.addHandle (world : World) (handle : Handle) (calls : List Call) :
    World :=
  { world with
    handles := world.handles.alloc handle
    trace := world.trace ++ calls }

/-- From the allocation of the handle to the start of listening. -/
def World.listenHandle (world : World) (server : ℕ) (this : CTemplateSocket)
    (ip : List UInt8) (port : ℤ) (udp : Bool) (libuv : BindAnswers) :
    Bool × World :=
  let name := world.handles.fresh
  let allocated := Handle.malloc (.ofUdp udp)
  if libuv.init ≠ 0 then (false, world.addHandle allocated [])
  else
    let initialised := allocated.uvInit this.loop
    let addr := (libuv.ip4Addr ip port).2
    if libuv.bind addr ≠ 0 then (false, world.addHandle initialised [])
    else
      let bound := initialised.uvBind addr
      let call : Call :=
        if udp then .uvUdpRecvStart server name libuv.listen
        else .uvListen server name libuv.listen
      if libuv.listen ≠ 0 then (false, world.addHandle bound [call])
      else (true, world.addHandle (bound.uvStart udp) [call])

/-- The handle gets its `CClientData`, and the object its handle. -/
def World.storeSocket (world : World) (server name : ℕ) : World :=
  { world with
    records := world.records.alloc (CClientData.new server)
    handles := world.handles.modify name fun handle =>
      handle.storeData (.clientData world.records.fresh)
    sockets := world.sockets.modify server fun this =>
      { this with socket := some name } }

/-- Where nothing comes between them, the steps are `Bind`. -/
theorem World.bind_eq_steps
    {world : World} {server : ℕ} {this : CTemplateSocket}
    (hthis : world.sockets.get? server = some this)
    (ip : List UInt8) (port : ℤ) (udp : Bool) (libuv : BindAnswers) :
    world.bind server this ip port udp libuv =
      let bound := (world.storeSockType server udp).listenHandle server
        (this.typed udp) ip port udp libuv
      if bound.1 then (true, bound.2.storeSocket server world.handles.fresh)
      else bound := by
  have htyped : world.sockets.modify server (fun _ => this.typed udp) =
      world.sockets.modify server fun this => this.typed udp :=
    Arena.modify_eq_of_get? hthis rfl
  have hstored : world.sockets.modify server
        (fun _ => { this.typed udp with socket := some world.handles.fresh }) =
      world.sockets.modify server fun this =>
        { this.typed udp with socket := some world.handles.fresh } :=
    Arena.modify_eq_of_get? hthis rfl
  have hleave : world.bind server this ip port udp libuv =
      let handle := (Handle.malloc (.ofUdp udp)).uvInit (this.typed udp).loop
      let addr := (libuv.ip4Addr ip port).2
      let call : Call :=
        if udp then .uvUdpRecvStart server world.handles.fresh libuv.listen
        else .uvListen server world.handles.fresh libuv.listen
      if libuv.init ≠ 0 then
        (false, world.leaveBind server (this.typed udp)
          (Handle.malloc (.ofUdp udp)) [])
      else if libuv.bind addr ≠ 0 then
        (false, world.leaveBind server (this.typed udp) handle [])
      else if libuv.listen ≠ 0 then
        (false, world.leaveBind server (this.typed udp) (handle.uvBind addr)
          [call])
      else
        (true, { world with
            records := world.records.alloc (CClientData.new server)
          }.leaveBind server
            { this.typed udp with socket := some world.handles.fresh }
            (((handle.uvBind addr).uvStart udp).storeData
              (.clientData world.records.fresh)) [call]) := rfl
  rw [hleave]
  by_cases hinit : libuv.init = 0
  · by_cases hbind : libuv.bind (libuv.ip4Addr ip port).2 = 0
    · by_cases hlisten : libuv.listen = 0
      · simp [World.listenHandle, World.leaveBind, World.addHandle,
          World.storeSockType, World.storeSocket, hinit, hbind, hlisten,
          Arena.modify_modify, Arena.modify_alloc_fresh, hstored]
      · simp [World.listenHandle, World.leaveBind, World.addHandle,
          World.storeSockType, hinit, hbind, hlisten, htyped]
    · simp [World.listenHandle, World.leaveBind, World.addHandle,
        World.storeSockType, hinit, hbind, htyped]
  · simp [World.listenHandle, World.leaveBind, World.addHandle,
      World.storeSockType, hinit, htyped]

/-- A handle that listens is open and of the kind that was asked for. -/
theorem World.listenHandle_spec
    (world : World) (server : ℕ) (this : CTemplateSocket) (ip : List UInt8)
    (port : ℤ) (udp : Bool) (libuv : BindAnswers) :
    ∃ handle calls,
      (world.listenHandle server this ip port udp libuv).2 =
        world.addHandle handle calls ∧
      ((world.listenHandle server this ip port udp libuv).1 = true →
        handle.status = .active ∧ handle.kind = .ofUdp udp) := by
  unfold World.listenHandle
  by_cases hinit : libuv.init = 0
  · by_cases hbind : libuv.bind (libuv.ip4Addr ip port).2 = 0
    · by_cases hlisten : libuv.listen = 0
      · simp only [hinit, hbind, hlisten, ne_eq, not_true_eq_false, if_false]
        exact ⟨_, _, rfl, fun _ => ⟨rfl, rfl⟩⟩
      · simp only [hinit, hbind, hlisten, ne_eq, not_true_eq_false,
          not_false_eq_true, if_false, if_true]
        exact ⟨_, _, rfl, by simp⟩
    · simp only [hinit, hbind, ne_eq, not_true_eq_false, not_false_eq_true,
        if_false, if_true]
      exact ⟨_, _, rfl, by simp⟩
  · simp only [hinit, ne_eq, not_false_eq_true, if_true]
    exact ⟨_, _, rfl, by simp⟩

end MDK
