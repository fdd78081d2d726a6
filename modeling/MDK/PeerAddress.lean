import MDK.TemplateSocket

/-!
# Peer addresses and datagrams

`CTemplateSocket::GetIPFromSocket` and the callback of a UDP server.  Both read
the data slot of a handle through a cast to `CTemplateSocket`.
-/

namespace MDK

def DataSlot.asTemplateSocket : DataSlot → Except Fault (Option ℕ)
  | .indeterminate => .error .indeterminateValue
  | .empty => .ok none
  | .clientData _ => .error .wrongClass
  | .templateSocket socket => .ok (some socket)

/-- The locals of `GetIPFromSocket`, which nothing initialises: the bytes of a
`sockaddr_in` and the length handed to the lookup. -/
structure PeerLocals where
  clientaddr : List UInt8
  clientaddrLen : ℕ
  deriving DecidableEq, Repr

/-- What the system answers: the descriptor of the handle, and the peer's name
unless the lookup fails. -/
structure PeerAnswers where
  fd : ℤ
  name : Option (List UInt8)
  deriving DecidableEq, Repr

/-- At most the given number of bytes is written, and nothing on an error. -/
def PeerLocals.getpeername (locals : PeerLocals) (peer : PeerAnswers) :
    PeerLocals :=
  match peer.name with
  | none => locals
  | some name =>
      let written := name.take locals.clientaddrLen
      { clientaddr := written ++ locals.clientaddr.drop written.length
        clientaddrLen := name.length }

def PeerLocals.uvTcpGetpeername (locals : PeerLocals) (peer : PeerAnswers) :
    PeerLocals :=
  locals.getpeername peer

def PeerLocals.uvUdpGetpeername (locals : PeerLocals) (peer : PeerAnswers) :
    PeerLocals :=
  if peer.fd < 0 then locals else locals.getpeername peer

/-- `clientaddr.sin_addr.s_addr`, the four bytes behind family and port. -/
def PeerLocals.sAddr (locals : PeerLocals) : UInt32 :=
  ((locals.clientaddr.drop 4).take 4).foldr
    (fun byte address => byte.toUInt32 + 256 * address) 0

def World.getIPFromSocket (world : World) (socket : ℕ) (locals : PeerLocals)
    (peer : PeerAnswers) : Except Fault Int32 :=
  match world.handles.get? socket with
  | none => .error .wildPointer
  | some handle =>
      if handle.status = .freed then .error .useAfterFree
      else
        match handle.data.asTemplateSocket with
        | .error fault => .error fault
        | .ok none => .ok (-1)
        | .ok (some name) =>
            match world.sockets.get? name with
            | none => .error .wildPointer
            | some this =>
                match this.sockType with
                | .udp => .ok (locals.uvUdpGetpeername peer).sAddr.toInt32
                | .tcp => .ok (locals.uvTcpGetpeername peer).sAddr.toInt32

/-- One call of `OnUDPRead`. -/
structure Datagram where
  server : ℕ
  handle : ℕ
  addr : SockAddr
  chunk : List UInt8
  deriving DecidableEq, Repr

/-- The address that `GetIPFromSocket` returns is not used. -/
def World.libuvCallbackOnServerUdpRead (world : World) (name : ℕ) (nread : ℤ)
    (recv : List UInt8) (addr : SockAddr) (locals : PeerLocals)
    (peer : PeerAnswers) : Except Fault (Option Datagram) :=
  if nread ≤ 0 then .ok none
  else
    match world.handles.get? name with
    | none => .error .wildPointer
    | some handle =>
        if handle.data = .empty then .ok none
        else
          match world.getIPFromSocket name locals peer with
          | .error fault => .error fault
          | .ok _ =>
              match world.extraRecord name with
              | .error fault => .error fault
              | .ok clientData =>
                  match world.sockets.get? clientData.socket with
                  | none => .error .wildPointer
                  | some _ =>
                      .ok (some ⟨clientData.socket, name, addr,
                        recv.take nread.toNat⟩)

end MDK
