import MDK.Arena
import Mathlib.Data.Int.Notation

/-!
# Socket objects, handles and their data slots

The objects of the socket layer: `CTemplateSocket` objects, the
`CClientData` records they allocate, and the libuv handles whose data slots
point to such records.  Objects are named by their order of allocation, and the
calls that matter to the outside are kept in a trace.
-/

namespace MDK

inductive ESocketType where
  | tcp
  | udp
  deriving DecidableEq, Repr

/-- A user pointer, `none` for NULL. -/
abbrev Pointer := Option ℕ

structure CClientData where
  socket : ℕ
  data : Pointer
  deriving DecidableEq, Repr

def CClientData.new (socket : ℕ) : CClientData := ⟨socket, none⟩

def CClientData.setData (record : CClientData) (data : Pointer) : CClientData :=
  { record with data := data }

structure CTemplateSocket where
  sockType : ESocketType
  loop : ℕ
  socket : Option ℕ
  deriving DecidableEq, Repr

def ESocketType.ofUdp (udp : Bool) : ESocketType := if udp then .udp else .tcp

/-- The constructor, with the loop that it allocates. -/
def CTemplateSocket.new (loop : ℕ) : CTemplateSocket := ⟨.tcp, loop, none⟩

/-- The `data` member of a handle, with the class of what was stored in it. -/
inductive DataSlot where
  | indeterminate
  | empty
  | clientData (record : ℕ)
  | templateSocket (socket : ℕ)
  deriving DecidableEq, Repr

inductive HandleStatus where
  | allocated
  | active
  | closing
  | freed
  deriving DecidableEq, Repr

structure SockAddr where
  address : UInt32
  port : UInt16
  deriving DecidableEq, Repr

structure Handle where
  kind : ESocketType
  loop : Option ℕ
  status : HandleStatus
  data : DataSlot
  bound : Option SockAddr
  listening : Bool
  receiving : Bool
  acceptedFrom : Option ℕ
  reading : Bool
  deriving DecidableEq, Repr

def Handle.malloc (kind : ESocketType) : Handle where
  kind := kind
  loop := none
  status := .allocated
  data := .indeterminate
  bound := none
  listening := false
  receiving := false
  acceptedFrom := none
  reading := false

/-- `uv_tcp_init` and `uv_udp_init` leave the data slot as it is. -/
def Handle.uvInit (handle : Handle) (loop : ℕ) : Handle :=
  { handle with loop := some loop, status := .active }

def Handle.uvBind (handle : Handle) (addr : SockAddr) : Handle :=
  { handle with bound := some addr }

/-- `uv_listen`, or `uv_udp_recv_start` for a UDP handle. -/
def Handle.uvStart (handle : Handle) (udp : Bool) : Handle :=
  { handle with listening := !udp, receiving := udp }

def Handle.storeData (handle : Handle) (data : DataSlot) : Handle :=
  { handle with data := data }

def Handle.uvAccept (handle : Handle) (listener : ℕ) : Handle :=
  { handle with acceptedFrom := some listener }

def Handle.uvReadStart (handle : Handle) : Handle :=
  { handle with reading := true }

def Handle.closing (handle : Handle) : Handle :=
  { handle with
    status := .closing
    listening := false
    receiving := false
    reading := false }

/-! ## The world -/

/-- The calls between the library, libuv and the handlers of the user. -/
inductive Call where
  | uvListen (server handle : ℕ) (result : ℤ)
  | uvUdpRecvStart (server handle : ℕ) (result : ℤ)
  | uvAccept (listener client : ℕ) (result : ℤ)
  | uvClose (handle : ℕ)
  | onTCPNewConnection (server client : ℕ) (status : ℤ)
  | onTCPRead (server client : ℕ) (chunk : List UInt8)
  | setData (handle : ℕ) (data : Pointer)
  deriving DecidableEq, Repr

/-- The handle that a call is made on; for `uv_accept` the new one. -/
def Call.handle : Call → ℕ
  | .uvListen _ handle _ => handle
  | .uvUdpRecvStart _ handle _ => handle
  | .uvAccept _ client _ => client
  | .uvClose handle => handle
  | .onTCPNewConnection _ client _ => client
  | .onTCPRead _ client _ => client
  | .setData handle _ => handle

inductive Fault where
  | wildPointer
  | nullPointer
  | indeterminateValue
  | wrongClass
  | useAfterFree
  | outOfBounds
  deriving DecidableEq, Repr

/-- `calling` is the client whose `OnTCPNewConnection` is running: until it
returns the loop delivers nothing else. -/
structure World where
  sockets : Arena CTemplateSocket
  records : Arena CClientData
  handles : Arena Handle
  calling : Option ℕ
  trace : List Call
  deriving DecidableEq, Repr

def World.empty : World := ⟨.empty, .empty, .empty, none, []⟩

def World.record (world : World) (call : Call) : World :=
  { world with trace := world.trace ++ [call] }

/-- A second call on a handle is recorded like the first. -/
def World.uvClose (world : World) (handle : ℕ) : World :=
  { world with
    handles := world.handles.modify handle Handle.closing
    trace := world.trace ++ [.uvClose handle] }

/-- `CTemplateSocket::CTemplateSocket` with the loop it allocates. -/
def World.construct (world : World) : World :=
  { world with
    sockets := world.sockets.alloc (CTemplateSocket.new world.sockets.fresh) }

def World.close (world : World) (socket : ℕ) : World :=
  world.uvClose socket

def World.libuvCallbackOnClose (world : World) (handle : ℕ) : World :=
  { world with
    handles := world.handles.modify handle fun closed =>
      { closed with data := .empty, status := .freed } }

/-! ## Extra data -/

/-- The name of the record that a slot points to, `none` for NULL. -/
def DataSlot.asClientData : DataSlot → Except Fault (Option ℕ)
  | .indeterminate => .error .indeterminateValue
  | .empty => .ok none
  | .clientData record => .ok (some record)
  | .templateSocket _ => .error .wrongClass

def World.getSocketExtraData (world : World) (socket : ℕ) :
    Except Fault (Option ℕ) :=
  match world.handles.get? socket with
  | none => .error .wildPointer
  | some handle =>
      if handle.status = .freed then .error .useAfterFree
      else handle.data.asClientData

/-- The record behind `GetSocketExtraData(socket)->`. -/
def World.extraRecord (world : World) (socket : ℕ) :
    Except Fault CClientData :=
  match world.getSocketExtraData socket with
  | .error fault => .error fault
  | .ok none => .error .nullPointer
  | .ok (some record) =>
      match world.records.get? record with
      | none => .error .wildPointer
      | some clientData => .ok clientData

def World.getData (world : World) (socket : ℕ) : Except Fault Pointer :=
  match world.extraRecord socket with
  | .error fault => .error fault
  | .ok clientData => .ok clientData.data

def World.writeData (world : World) (socket record : ℕ) (data : Pointer) :
    World :=
  { world with
    records := world.records.modify record fun clientData =>
      clientData.setData data
    trace := world.trace ++ [.setData socket data] }

/-- `GetSocketExtraData(socket)->SetData(data)`. -/
def World.setData (world : World) (socket : ℕ) (data : Pointer) :
    Except Fault World :=
  match world.getSocketExtraData socket with
  | .error fault => .error fault
  | .ok none => .error .nullPointer
  | .ok (some record) => .ok (world.writeData socket record data)

theorem World.setData_eq_ok
    {world next : World} {socket : ℕ} {data : Pointer}
    (hset : world.setData socket data = .ok next) :
    ∃ handle record, world.handles.get? socket = some handle ∧
      handle.status ≠ .freed ∧ handle.data = .clientData record ∧
      next = world.writeData socket record data := by
  cases hget : world.handles.get? socket with
  | none => simp [World.setData, World.getSocketExtraData, hget] at hset
  | some handle =>
      by_cases hfreed : handle.status = .freed
      · simp [World.setData, World.getSocketExtraData, hget, hfreed] at hset
      · simp only [World.setData, World.getSocketExtraData, hget, hfreed,
          if_false] at hset
        cases hslot : handle.data with
        | indeterminate => simp [hslot, DataSlot.asClientData] at hset
        | empty => simp [hslot, DataSlot.asClientData] at hset
        | clientData record =>
            simp only [hslot, DataSlot.asClientData, Except.ok.injEq] at hset
            exact ⟨handle, record, rfl, hfreed, hslot, hset.symm⟩
        | templateSocket _ => simp [hslot, DataSlot.asClientData] at hset

/-- The slot leads to a record that leads to an existing server object. -/
def World.Owns (world : World) (server : ℕ) (slot : DataSlot) : Prop :=
  ∃ record clientData socket, slot = .clientData record ∧
    world.records.get? record = some clientData ∧
    clientData.socket = server ∧ world.sockets.get? server = some socket

theorem World.Owns.unique
    {world : World} {first second : ℕ} {slot : DataSlot}
    (hfirst : world.Owns first slot) (hsecond : world.Owns second slot) :
    first = second := by
  rcases hfirst with ⟨record, clientData, _, hslot, hrecord, hfirst, _⟩
  rcases hsecond with ⟨other, otherData, _, hother, hotherRecord, hsecond, _⟩
  rw [hslot] at hother
  cases hother
  rw [hrecord] at hotherRecord
  cases hotherRecord
  rw [← hfirst, ← hsecond]

theorem World.extraRecord_of_owns
    {world : World} {socket server : ℕ} {handle : Handle}
    (hhandle : world.handles.get? socket = some handle)
    (hstatus : handle.status ≠ .freed) (howns : world.Owns server handle.data) :
    ∃ clientData, world.extraRecord socket = .ok clientData ∧
      clientData.socket = server := by
  rcases howns with ⟨record, clientData, _, hslot, hrecord, hserver, _⟩
  refine ⟨clientData, ?_, hserver⟩
  simp [World.extraRecord, World.getSocketExtraData, hhandle, hstatus, hslot,
    DataSlot.asClientData, hrecord]

end MDK
