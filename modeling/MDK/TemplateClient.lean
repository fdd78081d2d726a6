import MDK.PeerAddress

/-!
# The TCP client

`CTemplateClient::ConnectTCP` and the two libuv callbacks of a client.  As with
the server, the connection callback is cut in two at its call of
`OnTCPNewConnection`.  How a callback comes by the client object is an argument
of it, which the callbacks of the library fill in.
-/

namespace MDK

/-- A `uv_connect_t`, pending until libuv calls back. -/
structure ConnectRequest where
  handle : ℕ
  addr : SockAddr
  pending : Bool
  freed : Bool
  deriving DecidableEq, Repr

/-- A connection callback in its call of `OnTCPNewConnection`. -/
structure Connecting where
  request : ℕ
  handle : ℕ
  status : ℤ
  deriving DecidableEq, Repr

/-- The world with its clients; `reading` lists the handles that libuv reads for
the callback of the client. -/
structure Network where
  world : World
  requests : Arena ConnectRequest
  reading : List ℕ
  connecting : Option Connecting
  datagrams : List Datagram
  deriving DecidableEq, Repr

def Network.empty : Network := ⟨World.empty, .empty, [], none, []⟩

/-- What libuv answers during one `ConnectTCP`. -/
structure ConnectTCPAnswers where
  ip4Addr : List UInt8 → ℤ → ℤ × SockAddr
  connect : SockAddr → ℤ

/-- `uv_tcp_connect` calls back only if it returns zero. -/
def Network.connectTCP (net : Network) (client : ℕ) (this : CTemplateSocket)
    (ip : List UInt8) (port : ℤ) (libuv : ConnectTCPAnswers) : Network :=
  let name := net.world.handles.fresh
  let handle := ((Handle.malloc .tcp).uvInit this.loop).storeData
    (.clientData net.world.records.fresh)
  let addr := (libuv.ip4Addr ip port).2
  { net with
    world := { net.world with
      sockets := net.world.sockets.modify client fun _ =>
        { this with socket := some name }
      records := net.world.records.alloc (CClientData.new client)
      handles := net.world.handles.alloc handle }
    requests := net.requests.alloc
      ⟨name, addr, libuv.connect addr = 0, false⟩ }

def Network.freeRequest (net : Network) (request : ℕ) : Network :=
  { net with
    requests := net.requests.modify request fun freed =>
      { freed with pending := false, freed := true } }

def Network.record (net : Network) (call : Call) : Network :=
  { net with world := net.world.record call }

/-- `uv_read_start` with the read callback of the client. -/
def Network.uvReadStart (net : Network) (handle : ℕ) (result : ℤ) : Network :=
  if result = 0 then { net with reading := handle :: net.reading } else net

/-- The connection callback up to the call of `OnTCPNewConnection`. -/
def Network.clientConnectionCallback
    (clientPointer : DataSlot → Except Fault (Option ℕ)) (net : Network)
    (req : ℕ) (status : ℤ) : Except Fault Network :=
  match net.requests.get? req with
  | none => .error .wildPointer
  | some request =>
      match net.world.handles.get? request.handle with
      | none => .error .wildPointer
      | some handle =>
          if handle.status = .freed then .error .useAfterFree
          else if handle.data = .empty then .ok (net.freeRequest req)
          else
            match clientPointer handle.data with
            | .error fault => .error fault
            | .ok none => .error .nullPointer
            | .ok (some client) =>
                match net.world.sockets.get? client with
                | none => .error .wildPointer
                | some _ =>
                    .ok { net.record
                        (.onTCPNewConnection client request.handle status) with
                      connecting := some ⟨req, request.handle, status⟩ }

def Network.libuvCallbackOnClientTcpConnection :
    Network → ℕ → ℤ → Except Fault Network :=
  Network.clientConnectionCallback DataSlot.asTemplateSocket

/-- The rest of the callback, after `OnTCPNewConnection` answered. -/
def Network.libuvCallbackOnClientTcpConnectionReturn
    (net : Network) (connecting : Connecting) (answer : Bool) (readStart : ℤ) :
    Network :=
  let net := { net with connecting := none }
  -- In `!OnTCPNewConnection(...) == 0` the negation binds first.
  if (!answer) = false then net.freeRequest connecting.request
  else
    let net :=
      if connecting.status = 0 then
        net.uvReadStart connecting.handle readStart
      else net
    net.freeRequest connecting.request

def Network.clientReadCallback
    (clientPointer : Option ℕ) (net : Network) (stream : ℕ) (nread : ℤ)
    (buf : List UInt8) (readStart : ℤ) : Except Fault Network :=
  if nread < 1 then .ok net
  else
    match net.world.handles.get? stream with
    | none => .error .wildPointer
    | some handle =>
        if handle.status = .freed then .error .useAfterFree
        else if handle.data = .empty then .ok net
        else
          match clientPointer with
          | none => .error .nullPointer
          | some client =>
              match net.world.sockets.get? client with
              | none => .error .wildPointer
              | some _ =>
                  .ok ((net.record (.onTCPRead client stream
                    (buf.take nread.toNat))).uvReadStart stream readStart)

/-- `client_pointer` is NULL and is never set. -/
def Network.libuvCallbackOnClientTcpRead :
    Network → ℕ → ℤ → List UInt8 → ℤ → Except Fault Network :=
  Network.clientReadCallback none

end MDK
