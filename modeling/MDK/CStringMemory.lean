import MDK.CString

/-!
# The memory of C strings

Checked accesses to blocks of bytes, `strcmp` on two of them, sizes that wrap
around, and a block from `malloc` with whatever it contains.  A copy that goes
upwards overwrites a block from its start; the bytes behind it are still the
original ones.
-/

namespace CString

/-! ## Accesses -/

/-- What undefined behaviour stops a program. -/
inductive Trap where
  | outOfBounds
  | divisionByZero
  | useAfterFree
  | doubleFree
  deriving DecidableEq, Repr

theorem ok_bind {Value Result : Type} (value : Value)
    (next : Value → Except Trap Result) :
    (Except.ok value >>= next) = next value := rfl

theorem error_bind {Value Result : Type} (trap : Trap)
    (next : Value → Except Trap Result) :
    ((Except.error trap : Except Trap Value) >>= next) = .error trap := rfl

def load (memory : List UInt8) (index : ℕ) : Except Trap UInt8 :=
  match memory[index]? with
  | none => .error .outOfBounds
  | some byte => .ok byte

def store (memory : List UInt8) (index : ℕ) (byte : UInt8) :
    Except Trap (List UInt8) :=
  if index < memory.length then .ok (memory.set index byte)
  else .error .outOfBounds

/-- `memory[index]` with an index that may be negative. -/
def loadInt (memory : List UInt8) (index : ℤ) : Except Trap UInt8 :=
  if index < 0 then .error .outOfBounds else load memory index.toNat

/-- `dividend % divisor` -/
def remainder (dividend divisor : ℕ) : Except Trap ℕ :=
  if divisor = 0 then .error .divisionByZero else .ok (dividend % divisor)

theorem load_of_getElem?
    {memory : List UInt8} {index : ℕ} {byte : UInt8}
    (hbyte : memory[index]? = some byte) : load memory index = .ok byte := by
  rw [load, hbyte]

theorem loadInt_natCast (memory : List UInt8) (index : ℕ) :
    loadInt memory index = load memory index := by
  rw [loadInt, if_neg (by omega), Int.toNat_natCast]

theorem remainder_of_pos {divisor : ℕ} (hpos : 0 < divisor) (dividend : ℕ) :
    remainder dividend divisor = .ok (dividend % divisor) :=
  if_neg (Nat.ne_of_gt hpos)

theorem store_of_lt
    {memory : List UInt8} {index : ℕ} (hindex : index < memory.length)
    (byte : UInt8) : store memory index byte = .ok (memory.set index byte) :=
  if_pos hindex

/-- The bytes up to the first difference or the end of both strings are read. -/
def strcmp : List UInt8 → List UInt8 → Except Trap ℤ
  | left :: lefts, right :: rights =>
      if left ≠ right then .ok (left.toNat - right.toNat)
      else if left = 0 then .ok 0
      else strcmp lefts rights
  | _, _ => .error .outOfBounds

/-- A block with room for the string and its NUL is compared without leaving
it. -/
theorem strcmp_text
    {memory text : List UInt8} (htext : 0 ∉ text)
    (hroom : text.length < memory.length) :
    ∃ order, strcmp memory (text ++ [0]) = .ok order ∧
      (order = 0 ↔ text ++ [0] <+: memory) := by
  induction text generalizing memory with
  | nil =>
      obtain _ | ⟨byte, rest⟩ := memory
      · contradiction
      · by_cases hzero : byte = 0
        · refine ⟨0, ?_, ?_⟩
          · simp [strcmp, hzero]
          · simp [hzero]
        · refine ⟨byte.toNat, ?_, ?_⟩
          · simp [strcmp, hzero]
          · simp [eq_comm, ← UInt8.toNat_inj]
  | cons char text ih =>
      obtain _ | ⟨byte, rest⟩ := memory
      · contradiction
      · rw [List.mem_cons, not_or] at htext
        by_cases hsame : byte = char
        · subst hsame
          obtain ⟨order, horder, hiff⟩ :=
            ih htext.2 (Nat.lt_of_succ_lt_succ hroom)
          refine ⟨order, ?_, ?_⟩
          · simpa [strcmp, Ne.symm htext.1] using horder
          · simpa using hiff
        · refine ⟨byte.toNat - char.toNat, ?_, ?_⟩
          · simp [strcmp, hsame]
          · have hdiffer : byte.toNat ≠ char.toNat :=
              fun hnat => hsame (UInt8.toNat_inj.mp hnat)
            constructor
            · intro horder
              omega
            · intro hinitial
              rw [List.cons_append, List.cons_prefix_cons] at hinitial
              exact absurd hinitial.1.symm hsame

/-! ## Copies that go upwards -/

def overwrite (memory written : List UInt8) : List UInt8 :=
  written ++ memory.drop written.length

theorem length_overwrite
    {memory written : List UInt8} (hle : written.length ≤ memory.length) :
    (overwrite memory written).length = memory.length := by
  rw [overwrite, List.length_append, List.length_drop]
  omega

/-- No byte behind the copy has changed. -/
theorem getElem?_overwrite
    (memory : List UInt8) {written : List UInt8} {index : ℕ}
    (hbehind : written.length ≤ index) :
    (overwrite memory written)[index]? = memory[index]? := by
  rw [overwrite, List.getElem?_append_right hbehind, List.getElem?_drop,
    Nat.add_sub_cancel' hbehind]

theorem store_overwrite
    {memory written : List UInt8} (hlt : written.length < memory.length)
    (byte : UInt8) :
    store (overwrite memory written) written.length byte =
      .ok (overwrite memory (written ++ [byte])) := by
  have hroom : written.length < (overwrite memory written).length := by
    rw [length_overwrite (Nat.le_of_lt hlt)]
    exact hlt
  rw [store_of_lt hroom, overwrite, overwrite, List.set_append_right _ _
    (Nat.le_refl _), Nat.sub_self, List.drop_eq_getElem_cons hlt,
    List.set_cons_zero, List.length_append, List.length_singleton,
    List.append_assoc, List.singleton_append]

/-- One more byte of a source, which lies elsewhere or was read before. -/
theorem store_take
    {memory source : List UInt8} {count : ℕ} (hsource : count < source.length)
    (hmemory : count < memory.length) :
    store (overwrite memory (source.take count)) count source[count] =
      .ok (overwrite memory (source.take (count + 1))) := by
  have htake : (source.take count).length = count :=
    List.length_take_of_le (Nat.le_of_lt hsource)
  have hwritten : (source.take count).length < memory.length := by
    rw [htake]
    exact hmemory
  have hnext := store_overwrite hwritten source[count]
  rwa [htake, List.take_append_getElem hsource] at hnext

/-! ## Sizes -/

/-- `size_t`, at least as wide as `int`. -/
structure SizeT where
  bits : ℕ
  wide : 32 ≤ bits

namespace SizeT

def ofInt (size : SizeT) (value : ℤ) : ℕ :=
  toUnsigned size.bits value

def add (size : SizeT) (first second : ℕ) : ℕ :=
  (first + second) % 2 ^ size.bits

/-- `second` is below `2 ^ bits`. -/
def sub (size : SizeT) (first second : ℕ) : ℕ :=
  (first + (2 ^ size.bits - second)) % 2 ^ size.bits

theorem add_of_lt
    {size : SizeT} {first second : ℕ}
    (hfits : first + second < 2 ^ size.bits) :
    size.add first second = first + second :=
  Nat.mod_eq_of_lt hfits

theorem sub_of_le
    {size : SizeT} {first second : ℕ} (hle : second ≤ first)
    (hfits : first < 2 ^ size.bits) :
    size.sub first second = first - second := by
  unfold sub
  rw [show first + (2 ^ size.bits - second) =
    first - second + 2 ^ size.bits by omega, Nat.add_mod_right,
    Nat.mod_eq_of_lt (by omega)]

theorem ofInt_natCast
    {size : SizeT} {value : ℕ} (hfits : value < 2 ^ size.bits) :
    size.ofInt value = value := by
  have hcast : ((2 ^ size.bits : ℕ) : ℤ) = 2 ^ size.bits := by simp
  unfold ofInt toUnsigned
  rw [← hcast, Int.emod_eq_of_lt (by omega) (by omega), Int.toNat_natCast]

theorem ofInt_neg_one (size : SizeT) : size.ofInt (-1) = 2 ^ size.bits - 1 := by
  have hpos : 0 < 2 ^ size.bits := Nat.two_pow_pos size.bits
  have hcast : ((2 ^ size.bits : ℕ) : ℤ) = 2 ^ size.bits := by simp
  unfold ofInt toUnsigned
  rw [← hcast, ← Int.add_emod_right, Int.emod_eq_of_lt (by omega) (by omega)]
  omega

end SizeT

/-! ## Strings -/

/-- A string whose block `size_t` can count. -/
structure Text (size : SizeT) where
  chars : List UInt8
  nulFree : 0 ∉ chars
  fits : chars.length + 1 < 2 ^ size.bits

namespace Text

variable {size : SizeT}

def memory (text : Text size) : List UInt8 := text.chars ++ [0]

def strlen (text : Text size) : ℕ := text.chars.length

@[simp] theorem length_memory (text : Text size) :
    text.memory.length = text.strlen + 1 := by
  simp [memory, strlen]

theorem cString_memory (text : Text size) (rest : List UInt8) :
    cString (text.memory ++ rest) = text.chars := by
  rw [memory, List.append_assoc]
  exact cString_append_zero text.nulFree rest

def drop (text : Text size) (number : ℕ) : Text size where
  chars := text.chars.drop number
  nulFree := fun hzero => text.nulFree (List.mem_of_mem_drop hzero)
  fits := by
    have hfits := text.fits
    rw [List.length_drop]
    omega

@[simp] theorem strlen_drop (text : Text size) (number : ℕ) :
    (text.drop number).strlen = text.strlen - number :=
  List.length_drop

end Text

/-! ## Blocks from malloc -/

/-- A block and how often it was freed. -/
structure Scratch where
  bytes : List UInt8
  frees : ℕ
  deriving DecidableEq, Repr

namespace Scratch

/-- The block has whatever it `contains`. -/
def malloc (contains : ℕ → UInt8) (size : ℕ) : Scratch :=
  ⟨(List.range size).map contains, 0⟩

def store (block : Scratch) (index : ℕ) (byte : UInt8) :
    Except Trap Scratch :=
  if block.frees ≠ 0 then .error .useAfterFree
  else do
    let bytes ← CString.store block.bytes index byte
    .ok { block with bytes := bytes }

def strcmp (block : Scratch) (memory : List UInt8) : Except Trap ℤ :=
  if block.frees ≠ 0 then .error .useAfterFree
  else CString.strcmp block.bytes memory

def free (block : Scratch) : Except Trap Scratch :=
  if block.frees ≠ 0 then .error .doubleFree
  else .ok { block with frees := block.frees + 1 }

theorem length_malloc (contains : ℕ → UInt8) (size : ℕ) :
    (malloc contains size).bytes.length = size := by
  simp [malloc]

theorem store_of_store
    {bytes stored : List UInt8} {index : ℕ} {byte : UInt8}
    (hstore : CString.store bytes index byte = .ok stored) :
    store ⟨bytes, 0⟩ index byte = .ok ⟨stored, 0⟩ := by
  rw [store, if_neg (not_not.mpr rfl), hstore]
  rfl

end Scratch

end CString
