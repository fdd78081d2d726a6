import MDK.CStringMemory
import MDK.WhileLoop

/-!
# Prefixes and suffixes

`strstartswith` and `strendswith` copy the start or the end of `buffer` to a
block from `malloc`, and compare the block with `what`.  The copy of
`strendswith` never starts, since -1 is the greatest of all sizes;
`strstartswith` returns with the block still allocated if `what` is too long.
-/

namespace MDK

open CString WhileLoop

variable {size : SizeT}

/-- How both functions end. -/
def compareAndFree (checkbuf : Scratch) (what : Text size) :
    Except Trap (Bool × Scratch) := do
  let order ← checkbuf.strcmp what.memory
  if order = 0 then do
    let checkbuf ← checkbuf.free
    .ok (true, checkbuf)
  else do
    let checkbuf ← checkbuf.free
    .ok (false, checkbuf)

/-! ## strendswith -/

structure SuffixCopy where
  checkbuf : Scratch
  buffsize : ℕ
  endsize : ℕ
  deriving DecidableEq, Repr

def SuffixCopy.test (size : SizeT) (copy : SuffixCopy) : Bool :=
  size.ofInt (-1) < copy.endsize

def SuffixCopy.body (buffer : Text size) (copy : SuffixCopy) :
    Except Trap SuffixCopy := do
  let byte ← load buffer.memory copy.buffsize
  let checkbuf ← copy.checkbuf.store copy.endsize byte
  .ok {
    checkbuf := checkbuf
    buffsize := size.sub copy.buffsize 1
    endsize := size.sub copy.endsize 1 }

/-- `malloc` succeeds, and the block has whatever it `contains`. -/
def strendswith (contains : ℕ → UInt8) (buffer what : Text size) (fuel : ℕ) :
    Option (Except Trap (Bool × Scratch)) :=
  let endsize := what.strlen
  let buffsize := buffer.strlen
  let checkbuf := Scratch.malloc contains (size.add endsize 1)
  (run (guarded (SuffixCopy.test size) (SuffixCopy.body buffer)) fuel
    ⟨checkbuf, buffsize, endsize⟩).map fun outcome => do
      let copy ← outcome
      compareAndFree copy.checkbuf what

def DecidesSuffix (contains : ℕ → UInt8) (buffer what : Text size) : Prop :=
  ∃ found checkbuf,
    Returns (strendswith contains buffer what) (.ok (found, checkbuf)) ∧
      (found = true ↔ what.chars <:+ buffer.chars)

/-! ## strstartswith -/

structure PrefixCopy where
  checkbuf : Scratch
  count : ℕ
  deriving DecidableEq, Repr

def PrefixCopy.test (whatsize : ℕ) (copy : PrefixCopy) : Bool :=
  copy.count < whatsize

def PrefixCopy.body (buffer : Text size) (copy : PrefixCopy) :
    Except Trap PrefixCopy := do
  let byte ← load buffer.memory copy.count
  let checkbuf ← copy.checkbuf.store copy.count byte
  .ok {
    checkbuf := checkbuf
    count := size.add copy.count 1 }

def strstartswith (contains : ℕ → UInt8) (buffer what : Text size)
    (fuel : ℕ) : Option (Except Trap (Bool × Scratch)) :=
  let whatsize := what.strlen
  let checkbuf := Scratch.malloc contains (size.add whatsize 1)
  if whatsize > buffer.strlen then some (.ok (false, checkbuf))
  else
    (run (guarded (PrefixCopy.test whatsize) (PrefixCopy.body buffer)) fuel
      ⟨checkbuf, 0⟩).map fun outcome => do
        let copy ← outcome
        let checkbuf ← copy.checkbuf.store copy.count 0
        compareAndFree checkbuf what

/-- The answer is right, and the block is freed once. -/
def DecidesPrefix (contains : ℕ → UInt8) (buffer what : Text size) : Prop :=
  ∃ found checkbuf,
    Returns (strstartswith contains buffer what) (.ok (found, checkbuf)) ∧
      (found = true ↔ what.chars <+: buffer.chars) ∧ checkbuf.frees = 1

/-! ## The comparison -/

/-- A block of the size of `what` and its NUL. -/
theorem compareAndFree_eq
    {bytes : List UInt8} {what : Text size}
    (hbytes : bytes.length = what.strlen + 1) :
    ∃ found, compareAndFree ⟨bytes, 0⟩ what = .ok (found, ⟨bytes, 1⟩) ∧
      (found = true ↔ bytes = what.memory) := by
  have hroom : what.chars.length < bytes.length := by
    rw [hbytes]
    exact Nat.lt_succ_self _
  obtain ⟨order, horder, hzero⟩ := strcmp_text what.nulFree hroom
  have hstrcmp : Scratch.strcmp ⟨bytes, 0⟩ what.memory = .ok order := horder
  have hsame : what.memory <+: bytes ↔ bytes = what.memory := by
    constructor
    · intro hinitial
      exact (hinitial.eq_of_length
        (what.length_memory.trans hbytes.symm)).symm
    · rintro rfl
      exact List.prefix_rfl
  unfold compareAndFree
  rw [hstrcmp, ok_bind]
  by_cases horder : order = 0
  · rw [if_pos horder]
    exact ⟨true, rfl, iff_of_true rfl (hsame.mp (hzero.mp horder))⟩
  · rw [if_neg horder]
    refine ⟨false, rfl, iff_of_false Bool.false_ne_true ?_⟩
    intro hbytes
    exact horder (hzero.mpr (hsame.mpr hbytes))

/-- The size of the block does not wrap around. -/
theorem add_strlen_one (what : Text size) :
    size.add what.strlen 1 = what.strlen + 1 :=
  SizeT.add_of_lt what.fits

/-! ## The suffix is never copied -/

theorem suffixCopy_test_eq_false (copy : SuffixCopy) (what : Text size)
    (hendsize : copy.endsize = what.strlen) :
    copy.test size = false := by
  have hfits := what.fits
  rw [SuffixCopy.test, SizeT.ofInt_neg_one, hendsize, Text.strlen]
  exact decide_eq_false (by omega)

/-- What is compared is the block as `malloc` returned it. -/
theorem strendswith_returns (contains : ℕ → UInt8) (buffer what : Text size) :
    ∃ found checkbuf,
      Returns (strendswith contains buffer what) (.ok (found, checkbuf)) ∧
        (found = true ↔
          (List.range (what.strlen + 1)).map contains = what.memory) := by
  let copy : SuffixCopy :=
    ⟨Scratch.malloc contains (size.add what.strlen 1), buffer.strlen,
      what.strlen⟩
  have htest : copy.test size = false := suffixCopy_test_eq_false copy what rfl
  have hends :
      guarded (SuffixCopy.test size) (SuffixCopy.body buffer) copy =
        .ok (.ends copy) :=
    guarded_of_false htest _
  have hblock : copy.checkbuf.bytes.length = what.strlen + 1 := by
    rw [Scratch.length_malloc, add_strlen_one]
  obtain ⟨found, hcompare, hfound⟩ := compareAndFree_eq hblock
  refine ⟨found, ⟨copy.checkbuf.bytes, 1⟩, ?_, ?_⟩
  · exact (returns_of_ends hends).map hcompare
  · rw [hfound]
    change (List.range (size.add what.strlen 1)).map contains = _ ↔ _
    rw [add_strlen_one]

theorem decidesSuffix_iff
    (contains : ℕ → UInt8) (buffer what : Text size) :
    DecidesSuffix contains buffer what ↔
      ((List.range (what.strlen + 1)).map contains = what.memory ↔
        what.chars <:+ buffer.chars) := by
  obtain ⟨found, checkbuf, hreturns, hfound⟩ :=
    strendswith_returns contains buffer what
  rw [← hfound]
  constructor
  · rintro ⟨other, _, hother, hiff⟩
    have hsame : found = other :=
      congrArg Prod.fst (Except.ok.inj (hreturns.unique hother))
    rw [hsame]
    exact hiff
  · intro hiff
    exact ⟨found, checkbuf, hreturns, hiff⟩

/-- A block full of the string. -/
theorem map_getD_memory (what : Text size) :
    (List.range (what.strlen + 1)).map (fun index => what.memory.getD index 0) =
      what.memory := by
  apply List.ext_getElem
  · simp
  · intro index _ hindex
    simp [List.getD_eq_getElem?_getD, List.getElem?_eq_getElem hindex]

/-- A block without any NUL. -/
theorem map_one_ne_memory (what : Text size) :
    (List.range (what.strlen + 1)).map (fun _ => (1 : UInt8)) ≠ what.memory := by
  intro hsame
  have hzero : (0 : UInt8) ∈ what.memory := by
    simp [Text.memory]
  rw [← hsame] at hzero
  obtain ⟨_, _, hone⟩ := List.mem_map.mp hzero
  exact absurd hone (by decide)

/-- The answer is right exactly when the block already holds `what`, or must not
hold it and does not.  For any two strings there is a block for which it is
wrong. -/
theorem strendswith_decides_iff_block_agrees (buffer what : Text size) :
    (∀ contains, DecidesSuffix contains buffer what ↔
      ((List.range (what.strlen + 1)).map contains = what.memory ↔
        what.chars <:+ buffer.chars)) ∧
    ∃ contains, ¬ DecidesSuffix contains buffer what := by
  refine ⟨fun contains => decidesSuffix_iff contains buffer what, ?_⟩
  by_cases hsuffix : what.chars <:+ buffer.chars
  · refine ⟨fun _ => 1, ?_⟩
    rw [decidesSuffix_iff]
    intro hiff
    exact map_one_ne_memory what (hiff.mpr hsuffix)
  · refine ⟨fun index => what.memory.getD index 0, ?_⟩
    rw [decidesSuffix_iff]
    intro hiff
    exact hsuffix (hiff.mp (map_getD_memory what))

def textB : Text ⟨64, by decide⟩ := ⟨[98], by decide, by decide⟩

def textAB : Text ⟨64, by decide⟩ := ⟨[97, 98], by decide, by decide⟩

/-- A block full of zeros. -/
theorem strendswith_misses_suffix :
    ¬ DecidesSuffix (fun _ => 0) textAB textB := by
  intro hdecides
  have hiff := (decidesSuffix_iff _ _ _).mp hdecides
  have hblock := hiff.mpr ⟨[97], rfl⟩
  exact absurd hblock (by decide)

/-! ## The start is copied -/

/-- So many bytes of `buffer` are copied, the others are those of the block. -/
def PrefixCopy.after (buffer : Text size) (block : List UInt8) (count : ℕ) :
    PrefixCopy :=
  ⟨⟨overwrite block (buffer.chars.take count), 0⟩, count⟩

theorem PrefixCopy.after_body
    {buffer : Text size} {block : List UInt8} {count : ℕ}
    (hchar : count < buffer.chars.length) (hroom : count < block.length) :
    (PrefixCopy.after buffer block count).body buffer =
      .ok (PrefixCopy.after buffer block (count + 1)) := by
  have hload : load buffer.memory count = .ok buffer.chars[count] := by
    apply load_of_getElem?
    rw [Text.memory, List.getElem?_append_left hchar,
      List.getElem?_eq_getElem hchar]
  have hcount : size.add count 1 = count + 1 := by
    have hfits := buffer.fits
    exact SizeT.add_of_lt (by omega)
  unfold PrefixCopy.after PrefixCopy.body
  dsimp only
  rw [hload, ok_bind, Scratch.store_of_store (store_take hchar hroom),
    ok_bind, hcount]

/-- As much of `buffer` as there is of `what`, with a NUL. -/
theorem store_terminator
    {block : List UInt8} {buffer what : Text size}
    (hle : what.strlen ≤ buffer.strlen)
    (hblock : block.length = what.strlen + 1) :
    store (overwrite block (buffer.chars.take what.strlen)) what.strlen 0 =
      .ok (buffer.chars.take what.strlen ++ [0]) := by
  have htake : (buffer.chars.take what.strlen).length = what.strlen :=
    List.length_take_of_le hle
  have hroom : (buffer.chars.take what.strlen).length < block.length := by
    rw [htake, hblock]
    exact Nat.lt_succ_self _
  have hstore := store_overwrite hroom 0
  rw [htake] at hstore
  rw [hstore, overwrite, List.length_append, List.length_singleton, htake,
    ← hblock, List.drop_length, List.append_nil]

theorem PrefixCopy.returns_after
    {block : List UInt8} {buffer : Text size} {whatsize : ℕ}
    (hle : whatsize ≤ buffer.strlen) (hblock : whatsize < block.length) :
    Returns (fun fuel => run (guarded (PrefixCopy.test whatsize)
      (PrefixCopy.body buffer)) fuel (.after buffer block 0))
      (.ok (.after buffer block whatsize)) := by
  apply returns_counted
  · intro count hcount
    refine ⟨decide_eq_true hcount, ?_⟩
    apply PrefixCopy.after_body
    · exact Nat.lt_of_lt_of_le hcount hle
    · exact Nat.lt_trans hcount hblock
  · exact decide_eq_false (Nat.lt_irrefl _)

/-- The copy ends, and the block is freed, unless `what` is too long. -/
theorem strstartswith_returns
    (contains : ℕ → UInt8) {buffer what : Text size}
    (hle : what.strlen ≤ buffer.strlen) :
    ∃ found bytes,
      Returns (strstartswith contains buffer what) (.ok (found, ⟨bytes, 1⟩)) ∧
        (found = true ↔ what.chars <+: buffer.chars) := by
  let block := (Scratch.malloc contains (size.add what.strlen 1)).bytes
  have hblock : block.length = what.strlen + 1 := by
    rw [Scratch.length_malloc, add_strlen_one]
  have hroom : what.strlen < block.length := by
    rw [hblock]
    exact Nat.lt_succ_self _
  have hloop := PrefixCopy.returns_after hle hroom
  have hterminated :
      (PrefixCopy.after buffer block what.strlen).checkbuf.store what.strlen
          0 =
        .ok ⟨buffer.chars.take what.strlen ++ [0], 0⟩ :=
    Scratch.store_of_store (store_terminator hle hblock)
  have hlength :
      (buffer.chars.take what.strlen ++ [0]).length = what.strlen + 1 := by
    rw [List.length_append, List.length_take_of_le hle, List.length_singleton]
  obtain ⟨found, hcompare, hfound⟩ := compareAndFree_eq hlength
  refine ⟨found, buffer.chars.take what.strlen ++ [0], ?_, ?_⟩
  · have hfinish :
        ((PrefixCopy.after buffer block what.strlen).checkbuf.store
            what.strlen 0 >>= fun checkbuf =>
              compareAndFree checkbuf what) =
          .ok (found, ⟨buffer.chars.take what.strlen ++ [0], 1⟩) := by
      rw [hterminated, ok_bind, hcompare]
    obtain ⟨enough, hloop⟩ := hloop
    refine ⟨enough, ?_⟩
    intro fuel hfuel
    rw [strstartswith, if_neg (Nat.not_lt.mpr hle)]
    exact (congrArg (Option.map _) (hloop fuel hfuel)).trans
      (congrArg some hfinish)
  · rw [hfound, Text.memory, List.append_left_inj, List.prefix_iff_eq_take]
    exact eq_comm

theorem strstartswith_of_too_long
    (contains : ℕ → UInt8) {buffer what : Text size}
    (hlong : buffer.strlen < what.strlen) :
    Returns (strstartswith contains buffer what)
      (.ok (false, Scratch.malloc contains (size.add what.strlen 1))) := by
  refine ⟨0, ?_⟩
  intro fuel _
  rw [strstartswith, if_pos hlong]

theorem not_decidesPrefix_of_too_long
    (contains : ℕ → UInt8) {buffer what : Text size}
    (hlong : buffer.strlen < what.strlen) :
    ¬ DecidesPrefix contains buffer what := by
  rintro ⟨found, checkbuf, hreturns, _, hfrees⟩
  have hleak := strstartswith_of_too_long contains hlong
  have hsame : checkbuf = _ :=
    congrArg Prod.snd (Except.ok.inj (hreturns.unique hleak))
  rw [hsame] at hfrees
  exact Nat.zero_ne_one hfrees

/-- The early return leaves the block allocated. -/
theorem strstartswith_decides_iff_short_enough
    (contains : ℕ → UInt8) (buffer what : Text size) :
    DecidesPrefix contains buffer what ↔ what.strlen ≤ buffer.strlen := by
  constructor
  · intro hdecides
    by_contra hlong
    exact not_decidesPrefix_of_too_long contains (Nat.lt_of_not_le hlong)
      hdecides
  · intro hle
    obtain ⟨found, bytes, hreturns, hfound⟩ :=
      strstartswith_returns contains hle
    exact ⟨found, ⟨bytes, 1⟩, hreturns, hfound, rfl⟩

theorem strstartswith_leaks_block :
    ¬ DecidesPrefix (fun _ => 0) textB textAB :=
  not_decidesPrefix_of_too_long _ (by decide)

end MDK
