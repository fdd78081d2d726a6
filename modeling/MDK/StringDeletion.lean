import MDK.CStringMemory
import MDK.WhileLoop

/-!
# Deletion at the start of a string

`strdelete` moves the rest of a string to the start of its buffer, byte by byte
and upwards.  The ranges overlap, but a byte is read before anything is written
there.
-/

namespace MDK

open CString WhileLoop

variable {size : SizeT}

/-- The buffer and the indices that were read or written so far. -/
structure Deletion where
  buffer : List UInt8
  counter : ℕ
  number : ℕ
  accesses : List ℕ
  deriving DecidableEq, Repr

namespace Deletion

def new (buffer : List UInt8) (number : ℕ) : Deletion := ⟨buffer, 0, number, []⟩

def test (buffersize : ℕ) (deletion : Deletion) : Bool :=
  deletion.counter < buffersize

def body (size : SizeT) (deletion : Deletion) : Except Trap Deletion := do
  let byte ← load deletion.buffer deletion.number
  let buffer ← store deletion.buffer deletion.counter byte
  .ok {
    buffer := buffer
    counter := size.add deletion.counter 1
    number := size.add deletion.number 1
    accesses := deletion.accesses ++ [deletion.number, deletion.counter] }

def terminate (deletion : Deletion) : Except Trap Deletion := do
  let buffer ← store deletion.buffer deletion.counter 0
  .ok { deletion with
    buffer := buffer
    accesses := deletion.accesses ++ [deletion.counter] }

end Deletion

def strdelete (size : SizeT) (buffer : List UInt8) (buffersize number : ℕ)
    (fuel : ℕ) : Option (Except Trap (Bool × Deletion)) :=
  if buffersize < number then some (.ok (false, .new buffer number))
  else
    let buffersize := size.sub buffersize number
    (run (guarded (Deletion.test buffersize) (Deletion.body size)) fuel
      (.new buffer number)).map fun outcome => do
        let deletion ← outcome
        let terminated ← deletion.terminate
        .ok (true, terminated)

/-- What the buffer of a string holds after its first characters are gone. -/
def deleted (text : Text size) (rest : List UInt8) (number : ℕ) : List UInt8 :=
  text.chars.drop number ++
    0 :: (text.memory ++ rest).drop (text.strlen - number + 1)

/-- One call on a string with `rest` behind it in its buffer. -/
def DeletesStart (text : Text size) (rest : List UInt8) (number : ℕ) : Prop :=
  ∃ answer final,
    Returns (strdelete size (text.memory ++ rest) text.strlen number)
      (.ok (answer, final)) ∧
    (answer = true ↔ number ≤ text.strlen) ∧
    (answer = true → final.buffer = deleted text rest number) ∧
    (answer = false → final.buffer = text.memory ++ rest) ∧
    ∀ index ∈ final.accesses, index ≤ text.strlen

/-- Two calls leave the string that one call leaves. -/
def DeletionsCompose (text : Text size) (rest : List UInt8)
    (number more : ℕ) : Prop :=
  ∃ first second both,
    Returns (strdelete size (text.memory ++ rest) text.strlen number)
      (.ok (true, first)) ∧
    Returns (strdelete size first.buffer (text.strlen - number) more)
      (.ok (true, second)) ∧
    Returns (strdelete size (text.memory ++ rest) text.strlen (number + more))
      (.ok (true, both)) ∧
    cString second.buffer = cString both.buffer

/-! ## The copy -/

namespace Deletion

def accessed (number count : ℕ) : List ℕ :=
  (List.range count).flatMap fun index => [number + index, index]

theorem accessed_succ (number count : ℕ) :
    accessed number (count + 1) =
      accessed number count ++ [number + count, count] := by
  rw [accessed, List.range_succ, List.flatMap_append, accessed]
  rfl

theorem le_of_mem_accessed
    {number count bound index : ℕ} (hbound : number + count ≤ bound)
    (hindex : index ∈ accessed number count) : index ≤ bound := by
  obtain ⟨step, hstep, hmem⟩ := List.mem_flatMap.mp hindex
  have hlt := List.mem_range.mp hstep
  rw [List.mem_pair] at hmem
  omega

/-- The deletion after so many bytes. -/
def after (text : Text size) (rest : List UInt8) (number count : ℕ) :
    Deletion where
  buffer := overwrite (text.memory ++ rest) ((text.chars.drop number).take count)
  counter := count
  number := number + count
  accesses := accessed number count

/-- The byte that is read is behind those that were written. -/
theorem after_body
    (text : Text size) (rest : List UInt8) {number count : ℕ}
    (hlt : number + count < text.chars.length) :
    (after text rest number count).body size =
      .ok (after text rest number (count + 1)) := by
  have hfits := text.fits
  have hdrop : count < (text.chars.drop number).length := by
    rw [List.length_drop]
    omega
  have htake : ((text.chars.drop number).take count).length = count :=
    List.length_take_of_le (Nat.le_of_lt hdrop)
  have hload :
      load (overwrite (text.memory ++ rest)
          ((text.chars.drop number).take count)) (number + count) =
        .ok (text.chars.drop number)[count] := by
    apply load_of_getElem?
    rw [getElem?_overwrite _ (by rw [htake]; exact Nat.le_add_left _ _),
      Text.memory, List.append_assoc, List.getElem?_append_left hlt,
      List.getElem?_eq_getElem hlt, List.getElem_drop]
  have hroom : count < (text.memory ++ rest).length := by
    rw [List.length_append, Text.length_memory, Text.strlen]
    omega
  unfold after body
  dsimp only
  rw [hload, ok_bind, store_take hdrop hroom, ok_bind, accessed_succ,
    SizeT.add_of_lt (by omega), SizeT.add_of_lt (by omega), Nat.add_assoc]

/-- The deletion with its terminator. -/
def final (text : Text size) (rest : List UInt8) (number : ℕ) : Deletion where
  buffer := deleted text rest number
  counter := text.strlen - number
  number := text.strlen
  accesses := accessed number (text.strlen - number) ++ [text.strlen - number]

theorem after_terminate
    (text : Text size) (rest : List UInt8) {number : ℕ}
    (hle : number ≤ text.strlen) :
    (after text rest number (text.strlen - number)).terminate =
      .ok (final text rest number) := by
  have hlength : (text.chars.drop number).length = text.strlen - number :=
    List.length_drop
  have hroom : (text.chars.drop number).length <
      (text.memory ++ rest).length := by
    rw [hlength, List.length_append, Text.length_memory]
    omega
  have hstore := store_overwrite hroom 0
  rw [hlength] at hstore
  unfold after terminate
  dsimp only
  rw [List.take_of_length_le (Nat.le_of_eq hlength), hstore, ok_bind, final,
    Nat.add_sub_cancel' hle, overwrite, deleted, List.length_append, hlength,
    List.length_singleton, List.append_assoc, List.singleton_append]

end Deletion

/-! ## What a call returns -/

theorem strdelete_returns
    (text : Text size) (rest : List UInt8) {number : ℕ}
    (hle : number ≤ text.strlen) :
    Returns (strdelete size (text.memory ++ rest) text.strlen number)
      (.ok (true, Deletion.final text rest number)) := by
  have hsub : size.sub text.strlen number = text.strlen - number := by
    have hfits := text.fits
    rw [Text.strlen] at hle ⊢
    exact SizeT.sub_of_le hle (by omega)
  have hloop :
      Returns (fun fuel => run (guarded (Deletion.test (text.strlen - number))
        (Deletion.body size)) fuel (Deletion.after text rest number 0))
        (.ok (Deletion.after text rest number (text.strlen - number))) := by
    apply returns_counted (Deletion.after text rest number)
    · intro count hcount
      refine ⟨decide_eq_true hcount, Deletion.after_body text rest ?_⟩
      rw [Text.strlen] at hcount
      omega
    · exact decide_eq_false (Nat.lt_irrefl _)
  obtain ⟨enough, hloop⟩ := hloop
  refine ⟨enough, ?_⟩
  intro fuel hfuel
  rw [strdelete, if_neg (Nat.not_lt.mpr hle), hsub]
  have hterminate :
      ((Deletion.after text rest number (text.strlen - number)).terminate >>=
        fun terminated => .ok (true, terminated)) =
          (.ok (true, .final text rest number) :
            Except Trap (Bool × Deletion)) := by
    rw [Deletion.after_terminate text rest hle, ok_bind]
  exact (congrArg (Option.map _) (hloop fuel hfuel)).trans
    (congrArg some hterminate)

theorem strdelete_of_too_many
    (text : Text size) (rest : List UInt8) {number : ℕ}
    (hmany : text.strlen < number) :
    Returns (strdelete size (text.memory ++ rest) text.strlen number)
      (.ok (false, .new (text.memory ++ rest) number)) := by
  refine ⟨0, ?_⟩
  intro fuel _
  rw [strdelete, if_pos hmany]

theorem Deletion.le_of_mem_final
    {text : Text size} {rest : List UInt8} {number index : ℕ}
    (hle : number ≤ text.strlen)
    (hindex : index ∈ (Deletion.final text rest number).accesses) :
    index ≤ text.strlen := by
  obtain hcopied | hterminator := List.mem_append.mp hindex
  · exact le_of_mem_accessed (Nat.le_of_eq (Nat.add_sub_cancel' hle)) hcopied
  · rw [List.mem_singleton.mp hterminator]
    exact Nat.sub_le _ _

theorem deletesStart (text : Text size) (rest : List UInt8) (number : ℕ) :
    DeletesStart text rest number := by
  by_cases hle : number ≤ text.strlen
  · refine ⟨true, .final text rest number, strdelete_returns text rest hle,
      iff_of_true rfl hle, fun _ => rfl, fun hfalse => ?_, ?_⟩
    · contradiction
    · intro index hindex
      exact Deletion.le_of_mem_final hle hindex
  · refine ⟨false, .new (text.memory ++ rest) number,
      strdelete_of_too_many text rest (Nat.lt_of_not_le hle),
      iff_of_false Bool.false_ne_true hle, fun htrue => ?_, fun _ => rfl, ?_⟩
    · contradiction
    · intro index hindex
      contradiction

/-! ## Two calls -/

/-- The buffer holds the rest of the string. -/
theorem deleted_eq
    (text : Text size) (rest : List UInt8) (number : ℕ) :
    deleted text rest number =
      (text.drop number).memory ++
        (text.memory ++ rest).drop (text.strlen - number + 1) := by
  have hmemory : (text.drop number).memory = text.chars.drop number ++ [0] :=
    rfl
  rw [deleted, hmemory, List.append_assoc, List.singleton_append]

theorem cString_deleted
    (text : Text size) (rest : List UInt8) (number : ℕ) :
    cString (deleted text rest number) = text.chars.drop number := by
  rw [deleted_eq, Text.cString_memory]
  rfl

theorem deletionsCompose
    (text : Text size) (rest : List UInt8) {number more : ℕ}
    (hle : number + more ≤ text.strlen) :
    DeletionsCompose text rest number more := by
  let left := (text.memory ++ rest).drop (text.strlen - number + 1)
  have hmore : more ≤ (text.drop number).strlen := by
    rw [Text.strlen_drop]
    omega
  have hsecond := strdelete_returns (text.drop number) left hmore
  rw [← deleted_eq, Text.strlen_drop] at hsecond
  refine ⟨_, _, _, strdelete_returns text rest (Nat.le_of_add_right_le hle),
    hsecond, strdelete_returns text rest hle, ?_⟩
  change cString (deleted (text.drop number) left more) =
    cString (deleted text rest (number + more))
  rw [cString_deleted, cString_deleted]
  exact List.drop_drop

/-- Nothing is overwritten before it is read, and two deletions are one. -/
theorem strdelete_drops_and_composes
    (text : Text size) (rest : List UInt8) (number : ℕ) :
    DeletesStart text rest number ∧
      ∀ more, number + more ≤ text.strlen →
        DeletionsCompose text rest number more :=
  ⟨deletesStart text rest number, fun _ => deletionsCompose text rest⟩

end MDK
