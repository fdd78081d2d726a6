import MDK.CString
import MDK.TemplateServer

/-!
# Receive buffers

The block that `libuv_callback_allocate_buffer` hands to libuv, and what the two
read callbacks of a server do with it.  The TCP callback stores a terminator
behind the received bytes and logs the block in a debug build; the UDP callback
logs the block as it is.  An access outside of the block is a fault.
-/

namespace MDK

open CString (cString)

/-- `uv_buf_t` with the block behind `base`; `len` is an `unsigned int`. -/
structure ReceiveBuf where
  base : List UInt8
  len : ℕ
  deriving DecidableEq, Repr

/-- `malloc` leaves the block with whatever it `contains`. -/
def libuvCallbackAllocateBuffer (contains : ℕ → UInt8) (size : ℕ) : ReceiveBuf where
  base := (List.range size).map contains
  len := size % 2 ^ 32

/-- libuv stores what it received at the start of the block. -/
def ReceiveBuf.receive (buf : ReceiveBuf) (received : List UInt8) : List UInt8 :=
  received ++ buf.base.drop received.length

/-! ## Accesses to a block -/

def storeByte (memory : List UInt8) (index : ℕ) (value : UInt8) :
    Except Fault (List UInt8) :=
  if index < memory.length then .ok (memory.set index value)
  else .error .outOfBounds

/-- What `%s` prints, byte by byte up to the first NUL. -/
def readString : List UInt8 → Except Fault (List UInt8)
  | [] => .error .outOfBounds
  | byte :: rest =>
      if byte = 0 then .ok []
      else
        match readString rest with
        | .ok text => .ok (byte :: text)
        | .error fault => .error fault

inductive ReadPath where
  | tcp (debug : Bool)
  | udp
  deriving DecidableEq, Repr

/-- What a read callback of a handle with data does with the block, up to the
call of `OnTCPRead` or `OnUDPRead`, which is handed it. -/
def ReadPath.readCallback (memory : List UInt8) (nread : ℤ) :
    ReadPath → Except Fault (List UInt8)
  | .tcp debug =>
      if nread ≤ 0 then .ok memory
      else
        match storeByte memory nread.toNat 0 with
        | .error fault => .error fault
        | .ok terminated =>
            if debug then
              match readString terminated with
              | .error fault => .error fault
              | .ok _ => .ok terminated
            else .ok terminated
  | .udp =>
      if nread ≤ 0 then .ok memory
      else
        match readString memory with
        | .error fault => .error fault
        | .ok _ => .ok memory

/-- The callback stays inside of the block that was allocated. -/
def ReadPath.StaysInside (path : ReadPath) (contains : ℕ → UInt8) (size : ℕ)
    (received : List UInt8) : Prop :=
  ∃ memory, path.readCallback
    ((libuvCallbackAllocateBuffer contains size).receive received)
    received.length = .ok memory

/-- The TCP path has room for a terminator; on the UDP path there is one. -/
def ReadPath.Terminated (contains : ℕ → UInt8) (size : ℕ)
    (received : List UInt8) : ReadPath → Prop
  | .tcp _ => received.length < size
  | .udp => 0 ∈ received ∨
      ∃ index, received.length ≤ index ∧ index < size ∧ contains index = 0

/-! ## When the accesses succeed -/

theorem ReceiveBuf.length_receive
    {contains : ℕ → UInt8} {size : ℕ} {received : List UInt8}
    (hfits : received.length ≤ size) :
    ((libuvCallbackAllocateBuffer contains size).receive received).length =
      size := by
  simp only [ReceiveBuf.receive, libuvCallbackAllocateBuffer, List.length_append,
    List.length_drop, List.length_map, List.length_range]
  omega

theorem ReceiveBuf.mem_receive_iff
    {contains : ℕ → UInt8} {size : ℕ} {received : List UInt8} (byte : UInt8) :
    byte ∈ (libuvCallbackAllocateBuffer contains size).receive received ↔
      byte ∈ received ∨
        ∃ index, received.length ≤ index ∧ index < size ∧
          contains index = byte := by
  rw [ReceiveBuf.receive, List.mem_append, libuvCallbackAllocateBuffer]
  refine or_congr_right ?_
  rw [List.mem_drop_iff_getElem]
  constructor
  · rintro ⟨offset, hoffset, heq⟩
    simp only [List.length_map, List.length_range] at hoffset
    exact ⟨received.length + offset, by omega, by omega, by simpa using heq⟩
  · rintro ⟨index, hfrom, hto, heq⟩
    refine ⟨index - received.length, ?_, ?_⟩
    · simp only [List.length_map, List.length_range]
      omega
    · simpa [Nat.add_sub_cancel' hfrom] using heq

theorem readString_eq (memory : List UInt8) :
    readString memory =
      if 0 ∈ memory then .ok (cString memory) else .error .outOfBounds := by
  induction memory with
  | nil => rfl
  | cons byte rest ih =>
      by_cases hzero : byte = 0
      · simp [readString, hzero, cString]
      · have hne : (0 : UInt8) ≠ byte := fun heq => hzero heq.symm
        rw [readString, if_neg hzero, ih]
        by_cases hmem : 0 ∈ rest
        · simp [hmem, cString, hzero]
        · simp [hmem, hne]

theorem mem_set_of_lt
    {memory : List UInt8} {index : ℕ} (hinside : index < memory.length)
    (value : UInt8) : value ∈ memory.set index value := by
  refine List.mem_iff_getElem.mpr ⟨index, by simpa using hinside, ?_⟩
  simp

theorem ReadPath.readCallback_tcp
    (debug : Bool) (memory : List UInt8) {nread : ℤ} (hsome : 1 ≤ nread) :
    (ReadPath.tcp debug).readCallback memory nread =
      storeByte memory nread.toNat 0 := by
  rw [ReadPath.readCallback, if_neg (by omega), storeByte]
  by_cases hinside : nread.toNat < memory.length
  · simp only [if_pos hinside, readString_eq, if_pos (mem_set_of_lt hinside 0),
      ite_self]
  · simp only [if_neg hinside]

theorem ReadPath.readCallback_udp
    (memory : List UInt8) {nread : ℤ} (hsome : 1 ≤ nread) :
    ReadPath.udp.readCallback memory nread =
      if 0 ∈ memory then .ok memory else .error .outOfBounds := by
  rw [ReadPath.readCallback, if_neg (by omega), readString_eq]
  split_ifs with hzero <;> rfl

/-- For every size, content of the block and bytes received, a callback stays
inside of the block exactly when fewer bytes arrive than the size, on the TCP
path, and exactly when one of the bytes or the rest of the block is NUL, on
the UDP path. -/
theorem staysInside_iff
    (path : ReadPath) (contains : ℕ → UInt8) (size : ℕ)
    (received : List UInt8) (hsome : 1 ≤ received.length)
    (hfits : received.length ≤ size) :
    path.StaysInside contains size received ↔
      path.Terminated contains size received := by
  have hnread : 1 ≤ (received.length : ℤ) := by exact_mod_cast hsome
  unfold ReadPath.StaysInside
  cases path with
  | tcp debug =>
      rw [ReadPath.readCallback_tcp debug _ hnread, storeByte,
        ReceiveBuf.length_receive hfits, Int.toNat_natCast, ReadPath.Terminated]
      split_ifs with hroom
      · simp [hroom]
      · simp [hroom]
  | udp =>
      rw [ReadPath.readCallback_udp _ hnread, ReadPath.Terminated,
        ← ReceiveBuf.mem_receive_iff 0]
      split_ifs with hzero
      · simp [hzero]
      · simp [hzero]

theorem staysInside_short :
    (ReadPath.tcp true).StaysInside (fun _ => 7) 4 [65, 66] ↔
      (ReadPath.tcp true).Terminated (fun _ => 7) 4 [65, 66] :=
  staysInside_iff (.tcp true) (fun _ => 7) 4 [65, 66] (by decide) (by decide)

/-- A read that fills the block has its terminator stored behind it. -/
theorem full_tcp_read_overruns :
    ¬ ∀ (path : ReadPath) (contains : ℕ → UInt8) (size : ℕ)
        (received : List UInt8),
      1 ≤ received.length → received.length ≤ size →
      path.StaysInside contains size received := by
  intro hall
  have hinside :=
    hall (.tcp false) (fun _ => 7) 2 [65, 66] (by decide) (by decide)
  have hfault : (ReadPath.tcp false).readCallback [65, 66] 2 =
      .error .outOfBounds := by decide
  obtain ⟨memory, hmemory⟩ := hinside
  exact absurd (hmemory.symm.trans hfault) (by simp)

/-! ## The callback of the TCP server -/

/-- The access that the callback of a server refuses is the one that leaves the
block. -/
theorem World.libuvCallbackOnServerTcpRead_overruns_iff
    {world : World} {stream server : ℕ} {handle : Handle}
    (hget : world.handles.get? stream = some handle)
    (hfreed : handle.status ≠ .freed) (howns : world.Owns server handle.data)
    (debug : Bool) (contains : ℕ → UInt8) (size : ℕ) (received : List UInt8)
    (hsome : 1 ≤ received.length) (hfits : received.length ≤ size) :
    world.libuvCallbackOnServerTcpRead stream received.length
        ((libuvCallbackAllocateBuffer contains size).receive received) =
          .error .outOfBounds ↔
      ¬ (ReadPath.tcp debug).StaysInside contains size received := by
  rw [staysInside_iff (.tcp debug) contains size received hsome hfits,
    World.libuvCallbackOnServerTcpRead_of_owns hget hfreed howns]
  rw [if_neg (by omega), if_neg (by omega), ReceiveBuf.length_receive hfits,
    Int.toNat_natCast, ReadPath.Terminated]
  split_ifs with hfull
  · simpa using hfull
  · simpa using hfull

end MDK
