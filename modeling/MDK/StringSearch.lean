import MDK.StringDeletion
import MDK.StringRandom

/-!
# Search for a character

`strfind` goes through a string up to the character or to the NUL.  What it finds
is told for every block of memory, and for the strings that `strdelete` and
`strrand` leave.
-/

namespace MDK

open CString WhileLoop

/-- The pointer, as an index into the block, and the answer. -/
structure Search where
  index : ℕ
  found : Bool
  deriving DecidableEq, Repr

/-- The NUL is looked for first. -/
def Search.iterate (memory : List UInt8) (what : UInt8) (search : Search) :
    Except Trap (Iteration Search) := do
  let byte ← load memory search.index
  .ok (if byte = 0 then .ends search
    else if byte = what then .ends { search with found := true }
    else .continues { search with index := search.index + 1 })

def strfind (memory : List UInt8) (what : UInt8) (fuel : ℕ) :
    Option (Except Trap Bool) :=
  (run (Search.iterate memory what) fuel ⟨0, false⟩).map fun outcome => do
    let search ← outcome
    .ok search.found

/-! ## The loop -/

theorem Search.iterate_of_load
    {memory : List UInt8} {byte : UInt8} (what : UInt8) (search : Search)
    (hbyte : memory[search.index]? = some byte) :
    search.iterate memory what =
      .ok (if byte = 0 then .ends search
        else if byte = what then .ends { search with found := true }
        else .continues { search with index := search.index + 1 }) := by
  rw [iterate, load_of_getElem? hbyte, ok_bind]

/-- The induction is on the bytes that are left of the block. -/
theorem Search.returns_from
    (what : UInt8) (before left : List UInt8) :
    ∃ outcome, Returns
        (fun fuel => run (Search.iterate (before ++ left) what) fuel
          ⟨before.length, false⟩) outcome ∧
      (outcome >>= fun search => .ok search.found) =
        if what ∈ cString left then .ok true
        else if 0 ∈ left then .ok false
        else (.error .outOfBounds : Except Trap Bool) := by
  induction left generalizing before with
  | nil =>
      refine ⟨.error .outOfBounds, returns_of_error ?_, rfl⟩
      rw [iterate, load, List.append_nil, List.getElem?_eq_none (Nat.le_refl _)]
      rfl
  | cons byte left ih =>
      have hbyte : (before ++ byte :: left)[before.length]? = some byte := by
        simp
      have hiterate :=
        Search.iterate_of_load what ⟨before.length, false⟩ hbyte
      by_cases hzero : byte = 0
      · rw [if_pos hzero] at hiterate
        refine ⟨_, returns_of_ends hiterate, ?_⟩
        rw [hzero, ok_bind]
        simp [cString]
      · rw [if_neg hzero] at hiterate
        have hcString : cString (byte :: left) = byte :: cString left := by
          simp [cString, hzero]
        by_cases hwhat : byte = what
        · rw [if_pos hwhat] at hiterate
          refine ⟨_, returns_of_ends hiterate, ?_⟩
          rw [hcString, hwhat, ok_bind]
          simp
        · rw [if_neg hwhat] at hiterate
          obtain ⟨outcome, hreturns, hfound⟩ := ih (before ++ [byte])
          rw [List.append_assoc, List.singleton_append, List.length_append,
            List.length_singleton] at hreturns
          refine ⟨outcome, hreturns.of_continues hiterate, ?_⟩
          rw [hfound, hcString]
          simp [Ne.symm hwhat, Ne.symm hzero]

/-- In every block: the character is found exactly if it stands before the first
NUL, and the search leaves the block exactly if neither stands there. -/
theorem strfind_returns (memory : List UInt8) (what : UInt8) :
    Returns (strfind memory what)
      (if what ∈ cString memory then .ok true
        else if 0 ∈ memory then .ok false
        else .error .outOfBounds) := by
  obtain ⟨outcome, hreturns, hfound⟩ := Search.returns_from what [] memory
  exact hreturns.map hfound

/-! ## Strings of the other functions -/

theorem strfind_terminated
    {chars : List UInt8} (hchars : 0 ∉ chars) (garbage : List UInt8)
    (what : UInt8) :
    Returns (strfind (chars ++ 0 :: garbage) what)
      (.ok (decide (what ∈ chars))) := by
  have hreturns := strfind_returns (chars ++ 0 :: garbage) what
  rw [cString_append_zero hchars] at hreturns
  by_cases hmem : what ∈ chars
  · simpa [hmem] using hreturns
  · simpa [hmem] using hreturns

section

variable {size : SizeT}

/-- What is found after a deletion stands behind the characters that are gone. -/
theorem strfind_strdelete
    (text : Text size) (rest : List UInt8) {number : ℕ}
    (hle : number ≤ text.strlen) (what : UInt8) :
    ∃ final, Returns (strdelete size (text.memory ++ rest) text.strlen number)
        (.ok (true, final)) ∧
      Returns (strfind final.buffer what)
        (.ok (decide (what ∈ text.chars.drop number))) :=
  ⟨_, strdelete_returns text rest hle,
    strfind_terminated (text.drop number).nulFree _ what⟩

variable {rand : RandLibrary} {table : Text size} {buffersize : ℕ}

theorem zero_notMem_drawnText
    (stream : rand.Stream) (hlong : 1 < table.strlen) (buffersize : ℕ) :
    0 ∉ drawnText stream table (buffersize - 1) :=
  fun hzero =>
    table.nulFree (mem_table_of_mem_drawnText (Or.inr hlong) hzero)

/-- A character is found in a string of `strrand` for some draws exactly if it
stands in the table before the last position. -/
theorem strfind_strrand_iff
    (hlong : 1 < table.strlen) (hmax : table.strlen ≤ rand.randMax)
    (hlarge : 1 < buffersize) (hsize : buffersize < 2 ^ size.bits)
    {buffer : List UInt8} (hroom : buffersize ≤ buffer.length) (what : UInt8) :
    (∃ (stream : rand.Stream) (written : List UInt8),
        Returns (strrand stream buffer buffersize table) (.ok written) ∧
          Returns (strfind written what) (.ok true)) ↔
      what ∈ table.chars.dropLast := by
  have hpos : 1 ≤ buffersize := Nat.le_of_lt hlarge
  constructor
  · rintro ⟨stream, written, hwritten, hfound⟩
    have hdrawn := strrand_returns stream (Or.inr hlong) hpos hsize hroom
    cases Except.ok.inj (hwritten.unique hdrawn)
    have hsearch := strfind_terminated
      (zero_notMem_drawnText stream hlong buffersize) (buffer.drop buffersize)
      what
    have hmem := of_decide_eq_true
      (Except.ok.inj (hfound.unique hsearch)).symm
    have hchoices : table.chars.dropLast ≠ [] := by
      rw [← List.length_pos_iff, length_choices]
      omega
    exact mem_choices_of_mem_drawn hchoices hmem
  · intro hwhat
    have hall : ∀ char ∈ List.replicate (buffersize - 1) what,
        char ∈ table.chars.dropLast := by
      intro char hchar
      rw [List.eq_of_mem_replicate hchar]
      exact hwhat
    obtain ⟨stream, hreturns⟩ := attainable_of_choices (Or.inr hlong) hmax hpos
      hsize hroom List.length_replicate hall
    have hzero : (0 : UInt8) ∉ List.replicate (buffersize - 1) what := by
      intro hmem
      exact table.nulFree (List.mem_of_mem_dropLast (hall 0 hmem))
    have hmem : what ∈ List.replicate (buffersize - 1) what :=
      List.mem_replicate.mpr ⟨by omega, rfl⟩
    have hsearch := strfind_terminated hzero (buffer.drop buffersize) what
    rw [decide_eq_true hmem] at hsearch
    exact ⟨stream, _, hreturns, hsearch⟩

end

/-- The table "ab" and a buffer of two bytes. -/
theorem strfind_strrand_iff_ab :
    (∃ (stream : smallRand.Stream) (written : List UInt8),
        Returns (strrand stream [0, 0] 2
            (⟨[97, 98], by decide, by decide⟩ : Text ⟨64, by decide⟩))
          (.ok written) ∧
          Returns (strfind written 98) (.ok true)) ↔
      (98 : UInt8) ∈ [(97 : UInt8)] :=
  strfind_strrand_iff (by decide) (by decide) (by decide) (by decide)
    (by decide) 98

end MDK
