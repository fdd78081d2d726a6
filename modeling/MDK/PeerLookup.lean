import MDK.PeerAddress
import MDK.TemplateServer
import Mathlib.Data.Nat.Digits.Defs

/-!
# Peer addresses and uninitialised locals

`GetIPFromSocket` returns the address bytes of a local that nothing has
initialised, whatever the lookup of the peer has written there.  What it writes
is bounded by another such local.
-/

namespace MDK

/-! ## The bytes of an address -/

def addressOfBytes (bytes : List UInt8) : UInt32 :=
  bytes.foldr (fun byte address => byte.toUInt32 + 256 * address) 0

theorem PeerLocals.sAddr_eq (locals : PeerLocals) :
    locals.sAddr = addressOfBytes ((locals.clientaddr.drop 4).take 4) := rfl

theorem digit_lt_of_bytes (bytes : List UInt8) :
    ∀ digit ∈ bytes.map UInt8.toNat, digit < 256 := by
  intro digit hdigit
  obtain ⟨byte, _, rfl⟩ := List.mem_map.mp hdigit
  exact byte.toNat_lt

theorem addressOfBytes_toNat
    {bytes : List UInt8} (hlength : bytes.length ≤ 4) :
    (addressOfBytes bytes).toNat =
      Nat.ofDigits 256 (bytes.map UInt8.toNat) := by
  induction bytes with
  | nil => rfl
  | cons byte bytes ih =>
      have hrest : bytes.length ≤ 3 := Nat.le_of_succ_le_succ hlength
      have hlt : Nat.ofDigits 256 (bytes.map UInt8.toNat) <
          256 ^ (bytes.map UInt8.toNat).length :=
        Nat.ofDigits_lt_base_pow_length (by decide) (digit_lt_of_bytes bytes)
      rw [List.length_map] at hlt
      have hpow : (256 : ℕ) ^ bytes.length ≤ 256 ^ 3 :=
        Nat.pow_le_pow_right (by decide) hrest
      have hbyte := byte.toNat_lt
      change (byte.toUInt32 + 256 * addressOfBytes bytes).toNat = _
      rw [List.map_cons, Nat.ofDigits_cons, UInt32.toNat_add, UInt32.toNat_mul,
        ih (Nat.le_succ_of_le hrest), UInt8.toNat_toUInt32]
      change (byte.toNat + 256 * _ % 2 ^ 32) % 2 ^ 32 = _
      omega

theorem addressOfBytes_injective
    {first second : List UInt8} (hfirst : first.length = 4)
    (hsecond : second.length = 4)
    (hsame : addressOfBytes first = addressOfBytes second) :
    first = second := by
  have hdigits := congrArg UInt32.toNat hsame
  rw [addressOfBytes_toNat (Nat.le_of_eq hfirst),
    addressOfBytes_toNat (Nat.le_of_eq hsecond)] at hdigits
  have hmap := Nat.ofDigits_inj_of_len_eq (by decide)
    (by rw [List.length_map, List.length_map, hfirst, hsecond])
    (digit_lt_of_bytes first) (digit_lt_of_bytes second) hdigits
  exact List.map_injective_iff.mpr (fun _ _ => UInt8.toNat_inj.mp) hmap

/-! ## The call, whatever the slot points to -/

/-- A pointer is stored in the slot, of whatever class. -/
def DataSlot.IsPointer : DataSlot → Prop
  | .indeterminate => False
  | .empty => False
  | .clientData _ => True
  | .templateSocket _ => True

/-- `GetIPFromSocket` with what `GetType` reads behind the pointer, which need
not point to a `CTemplateSocket`. -/
def World.getIPFromSocketOfType (world : World) (socket : ℕ)
    (sockType : ESocketType) (locals : PeerLocals) (peer : PeerAnswers) :
    Except Fault Int32 :=
  match world.handles.get? socket with
  | none => .error .wildPointer
  | some handle =>
      if handle.status = .freed then .error .useAfterFree
      else
        match handle.data, sockType with
        | .indeterminate, _ => .error .indeterminateValue
        | .empty, _ => .ok (-1)
        | _, .udp => .ok (locals.uvUdpGetpeername peer).sAddr.toInt32
        | _, .tcp => .ok (locals.uvTcpGetpeername peer).sAddr.toInt32

theorem World.getIPFromSocket_eq_ofType
    {world : World} {socket name : ℕ} {handle : Handle} {this : CTemplateSocket}
    (hget : world.handles.get? socket = some handle)
    (hdata : handle.data = .templateSocket name)
    (hthis : world.sockets.get? name = some this)
    (locals : PeerLocals) (peer : PeerAnswers) :
    world.getIPFromSocket socket locals peer =
      world.getIPFromSocketOfType socket this.sockType locals peer := by
  unfold World.getIPFromSocket World.getIPFromSocketOfType
  rw [hget]
  dsimp only
  rw [hdata]
  dsimp only [DataSlot.asTemplateSocket]
  rw [hthis]
  cases hsockType : this.sockType with
  | tcp => simp only [hsockType]
  | udp => simp only [hsockType]

/-! ## What it should return -/

/-- The name that the lookup finds, `none` if it fails. -/
def PeerAnswers.lookup (peer : PeerAnswers) :
    ESocketType → Option (List UInt8)
  | .udp => if peer.fd < 0 then none else peer.name
  | .tcp => peer.name

/-- The address of the peer, or -1. -/
def peerAddress : Option (List UInt8) → Int32
  | none => -1
  | some name => (addressOfBytes ((name.drop 4).take 4)).toInt32

def World.ReturnsPeerAddress (world : World) (socket : ℕ)
    (sockType : ESocketType) (locals : PeerLocals) (peer : PeerAnswers) :
    Prop :=
  world.getIPFromSocketOfType socket sockType locals peer =
    .ok (peerAddress (peer.lookup sockType))

/-- What the lookup leaves as it was is what it should have written: the rest
of the address, or the four bytes of -1. -/
def PeerLocals.Settled (locals : PeerLocals)
    (outcome : Option (List UInt8)) : Prop :=
  ∀ index, 4 ≤ index → index < 8 →
    match outcome with
    | none => locals.clientaddr[index]? = some 255
    | some name =>
        locals.clientaddrLen ≤ index →
          locals.clientaddr[index]? = name[index]?

/-! ## What it returns -/

/-- The local after a lookup with that outcome. -/
def PeerLocals.written (locals : PeerLocals) :
    Option (List UInt8) → List UInt8
  | none => locals.clientaddr
  | some name =>
      name.take locals.clientaddrLen ++
        locals.clientaddr.drop (name.take locals.clientaddrLen).length

theorem PeerLocals.getpeername_clientaddr
    (locals : PeerLocals) (peer : PeerAnswers) :
    (locals.getpeername peer).clientaddr = locals.written peer.name := by
  unfold PeerLocals.getpeername PeerLocals.written
  cases peer.name with
  | none => rfl
  | some name => rfl

theorem PeerLocals.uvUdpGetpeername_clientaddr
    (locals : PeerLocals) (peer : PeerAnswers) :
    (locals.uvUdpGetpeername peer).clientaddr =
      locals.written (peer.lookup .udp) := by
  unfold PeerLocals.uvUdpGetpeername PeerAnswers.lookup
  split_ifs
  · rfl
  · exact locals.getpeername_clientaddr peer

theorem World.getIPFromSocketOfType_eq
    {world : World} {socket : ℕ} {handle : Handle}
    (hget : world.handles.get? socket = some handle)
    (hlive : handle.status ≠ .freed) (hdata : handle.data.IsPointer)
    (sockType : ESocketType) (locals : PeerLocals) (peer : PeerAnswers) :
    world.getIPFromSocketOfType socket sockType locals peer =
      .ok (addressOfBytes
        (((locals.written (peer.lookup sockType)).drop 4).take 4)).toInt32 := by
  have htcp : (locals.uvTcpGetpeername peer).sAddr = addressOfBytes
      (((locals.written (peer.lookup .tcp)).drop 4).take 4) := by
    rw [PeerLocals.sAddr_eq, PeerLocals.uvTcpGetpeername,
      PeerLocals.getpeername_clientaddr]
    rfl
  have hudp : (locals.uvUdpGetpeername peer).sAddr = addressOfBytes
      (((locals.written (peer.lookup .udp)).drop 4).take 4) := by
    rw [PeerLocals.sAddr_eq, PeerLocals.uvUdpGetpeername_clientaddr]
  unfold World.getIPFromSocketOfType
  rw [hget]
  dsimp only
  rw [if_neg hlive]
  cases hslot : handle.data with
  | indeterminate => simp [hslot, DataSlot.IsPointer] at hdata
  | empty => simp [hslot, DataSlot.IsPointer] at hdata
  | clientData record =>
      cases sockType with
      | tcp => rw [← htcp]
      | udp => rw [← hudp]
  | templateSocket name =>
      cases sockType with
      | tcp => rw [← htcp]
      | udp => rw [← hudp]

/-! ## When the garbage does not show -/

theorem addressWindow_eq_iff {first second : List UInt8} :
    (first.drop 4).take 4 = (second.drop 4).take 4 ↔
      ∀ index, 4 ≤ index → index < 8 → first[index]? = second[index]? := by
  constructor
  · intro hwindow index hlow hhigh
    have hget := congrArg (fun window => window[index - 4]?) hwindow
    simpa [List.getElem?_take, List.getElem?_drop, show index - 4 < 4 by omega,
      Nat.add_sub_cancel' hlow] using hget
  · intro hsame
    apply List.ext_getElem?
    intro index
    rw [List.getElem?_take, List.getElem?_take]
    split_ifs with hindex
    · rw [List.getElem?_drop, List.getElem?_drop]
      exact hsame (4 + index) (by omega) (by omega)
    · rfl

theorem PeerLocals.written_getElem?
    (locals : PeerLocals) {name : List UInt8} (hname : name.length = 16)
    {index : ℕ} (hindex : index < 8) :
    (locals.written (some name))[index]? =
      if locals.clientaddrLen ≤ index then locals.clientaddr[index]?
      else name[index]? := by
  have hlength := List.length_take (i := locals.clientaddrLen) (l := name)
  unfold PeerLocals.written
  split_ifs with hkept
  · rw [List.getElem?_append_right (by omega), List.getElem?_drop]
    congr 1
    omega
  · rw [List.getElem?_append_left (by omega), List.getElem?_take,
      if_pos (by omega)]

theorem PeerLocals.written_length
    {locals : PeerLocals} (hlocals : locals.clientaddr.length = 16)
    {outcome : Option (List UInt8)}
    (hname : ∀ name, outcome = some name → name.length = 16) :
    (locals.written outcome).length = 16 := by
  cases outcome with
  | none => exact hlocals
  | some name =>
      have hlength := hname name rfl
      simp [PeerLocals.written, hlocals, hlength]

theorem addressWindow_length {bytes : List UInt8} (hbytes : bytes.length = 16) :
    ((bytes.drop 4).take 4).length = 4 := by
  simp [hbytes]

/-- The four bytes are those of the name, or 0xFF. -/
theorem PeerLocals.settled_iff
    (locals : PeerLocals) {outcome : Option (List UInt8)}
    (hname : ∀ name, outcome = some name → name.length = 16) :
    locals.Settled outcome ↔
      ((locals.written outcome).drop 4).take 4 =
        ((outcome.getD (List.replicate 16 255)).drop 4).take 4 := by
  rw [addressWindow_eq_iff]
  refine forall_congr' fun index => forall_congr' fun _ =>
    forall_congr' fun hhigh => ?_
  cases outcome with
  | none =>
      have hbyte : (List.replicate 16 (255 : UInt8))[index]? = some 255 := by
        rw [List.getElem?_replicate, if_pos (by omega)]
      change _ ↔ _ = (List.replicate 16 (255 : UInt8))[index]?
      rw [hbyte]
      rfl
  | some name =>
      change _ ↔ _ = name[index]?
      rw [locals.written_getElem? (hname name rfl) hhigh]
      by_cases hkept : locals.clientaddrLen ≤ index
      · simp [hkept]
      · simp [hkept]

theorem peerAddress_eq (outcome : Option (List UInt8)) :
    peerAddress outcome =
      (addressOfBytes (((outcome.getD (List.replicate 16 255)).drop 4).take
        4)).toInt32 := by
  cases outcome with
  | none => rfl
  | some name => rfl

section

variable {world : World} {socket : ℕ} {handle : Handle}
  (hget : world.handles.get? socket = some handle)
  (hlive : handle.status ≠ .freed) (hdata : handle.data.IsPointer)
  (sockType : ESocketType) {peer : PeerAnswers}
  (hpeer : ∀ name, peer.name = some name → name.length = 16)

include hpeer in
theorem PeerAnswers.lookup_length
    (name : List UInt8) (hname : peer.lookup sockType = some name) :
    name.length = 16 := by
  cases sockType with
  | tcp => exact hpeer name hname
  | udp =>
      unfold PeerAnswers.lookup at hname
      split_ifs at hname
      exact hpeer name hname

include hget hlive hdata hpeer

theorem returnsPeerAddress_iff
    {locals : PeerLocals} (hlocals : locals.clientaddr.length = 16) :
    world.ReturnsPeerAddress socket sockType locals peer ↔
      locals.Settled (peer.lookup sockType) := by
  have hname := PeerAnswers.lookup_length sockType hpeer
  have hexpected :
      ((peer.lookup sockType).getD (List.replicate 16 255)).length = 16 := by
    cases hlookup : peer.lookup sockType with
    | none => rfl
    | some name => exact hname name hlookup
  rw [World.ReturnsPeerAddress,
    World.getIPFromSocketOfType_eq hget hlive hdata, peerAddress_eq,
    locals.settled_iff hname]
  constructor
  · intro hreturns
    have hint := Except.ok.inj hreturns
    exact addressOfBytes_injective
      (addressWindow_length (PeerLocals.written_length hlocals hname))
      (addressWindow_length hexpected)
      (congrArg Int32.toUInt32 hint)
  · intro hwindow
    rw [hwindow]

end

/-! ## Two runs -/

/-- Locals full of one byte, with no room for a name. -/
def PeerLocals.filled (byte : UInt8) : PeerLocals :=
  ⟨List.replicate 16 byte, 0⟩

theorem PeerLocals.filled_written (byte : UInt8)
    (outcome : Option (List UInt8)) :
    (PeerLocals.filled byte).written outcome = List.replicate 16 byte := by
  cases outcome with
  | none => rfl
  | some name => rfl

/-- Two runs return the address, or -1, exactly when the garbage of both is
settled.  Whatever the outcome, some garbage shows. -/
theorem getIPFromSocket_same_iff_settled
    {world : World} {socket : ℕ} {handle : Handle}
    (hget : world.handles.get? socket = some handle)
    (hlive : handle.status ≠ .freed) (hdata : handle.data.IsPointer)
    (sockType : ESocketType) {peer : PeerAnswers}
    (hpeer : ∀ name, peer.name = some name → name.length = 16) :
    (∀ first second : PeerLocals, first.clientaddr.length = 16 →
      second.clientaddr.length = 16 →
      (world.ReturnsPeerAddress socket sockType first peer ∧
          world.ReturnsPeerAddress socket sockType second peer ↔
        first.Settled (peer.lookup sockType) ∧
          second.Settled (peer.lookup sockType))) ∧
    world.getIPFromSocketOfType socket sockType (.filled 0) peer ≠
      world.getIPFromSocketOfType socket sockType (.filled 1) peer := by
  constructor
  · intro first second hfirst hsecond
    exact and_congr
      (returnsPeerAddress_iff hget hlive hdata sockType hpeer hfirst)
      (returnsPeerAddress_iff hget hlive hdata sockType hpeer hsecond)
  · rw [World.getIPFromSocketOfType_eq hget hlive hdata,
      World.getIPFromSocketOfType_eq hget hlive hdata,
      PeerLocals.filled_written, PeerLocals.filled_written]
    decide

/-- A server whose UDP socket is not connected. -/
def udpServer : World :=
  (World.empty.construct.bind 0 (CTemplateSocket.new 0) [] 53 true
    (.success ⟨0, 53⟩)).2

theorem getIPFromSocket_same_iff_settled_unconnected :
    udpServer.ReturnsPeerAddress 0 .udp (.filled 255) ⟨3, none⟩ ∧
      udpServer.ReturnsPeerAddress 0 .udp (.filled 255) ⟨3, none⟩ := by
  have hsettled : (PeerLocals.filled 255).Settled none := by
    intro index _ hhigh
    change (List.replicate 16 (255 : UInt8))[index]? = some 255
    rw [List.getElem?_replicate, if_pos (by omega)]
  have hget : udpServer.handles.get? 0 = some _ := rfl
  have hpeer : ∀ name, (⟨3, none⟩ : PeerAnswers).name = some name →
      name.length = 16 := by
    simp
  have hruns := (getIPFromSocket_same_iff_settled hget (by decide) trivial .udp
    hpeer).1 (.filled 255) (.filled 255) rfl rfl
  exact hruns.mpr ⟨hsettled, hsettled⟩

/-- The garbage of the two runs is returned, and never -1. -/
theorem unconnected_peer_shows_garbage :
    udpServer.getIPFromSocketOfType 0 .udp (.filled 0) ⟨3, none⟩ = .ok 0 ∧
      udpServer.getIPFromSocketOfType 0 .udp (.filled 1) ⟨3, none⟩ =
        .ok 16843009 ∧
      ¬ (udpServer.ReturnsPeerAddress 0 .udp (.filled 0) ⟨3, none⟩ ∧
        udpServer.ReturnsPeerAddress 0 .udp (.filled 1) ⟨3, none⟩) := by
  refine ⟨by decide, by decide, ?_⟩
  unfold World.ReturnsPeerAddress
  decide

end MDK
