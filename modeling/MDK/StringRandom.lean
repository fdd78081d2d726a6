import MDK.CStringMemory
import MDK.WhileLoop
import Mathlib.Data.List.GetD

/-!
# Random strings

`strrand` takes every character from its table at the remainder of `rand()` by
one less than the length of the table.  The last character is never drawn, and
with a table of one character the divisor is zero.
-/

namespace MDK

open CString WhileLoop

variable {size : SizeT}

/-- `RAND_MAX`, an `int`. -/
structure RandLibrary where
  randMax : ℕ
  fits : randMax < 2 ^ 31

/-- What the calls of `rand()` return. -/
abbrev RandLibrary.Stream (rand : RandLibrary) : Type :=
  ℕ → Fin (rand.randMax + 1)

structure Generation where
  buffer : List UInt8
  i : ℕ
  calls : ℕ
  deriving DecidableEq, Repr

namespace Generation

def test (size : SizeT) (buffersize : ℕ) (generation : Generation) : Bool :=
  generation.i < size.sub buffersize 1

def body {rand : RandLibrary} (stream : rand.Stream) (table : Text size)
    (generation : Generation) : Except Trap Generation := do
  let drawn : ℤ := (stream generation.calls).val
  let remainder ← remainder (size.ofInt drawn) (size.sub table.strlen 1)
  let randnum := toInt remainder
  let byte ← loadInt table.memory randnum
  let buffer ← store generation.buffer generation.i byte
  .ok {
    buffer := buffer
    i := size.add generation.i 1
    calls := generation.calls + 1 }

end Generation

/-- The buffer that `strrand` leaves. -/
def strrand {rand : RandLibrary} (stream : rand.Stream) (buffer : List UInt8)
    (buffersize : ℕ) (table : Text size) (fuel : ℕ) :
    Option (Except Trap (List UInt8)) :=
  (run (guarded (Generation.test size buffersize)
    (Generation.body stream table)) fuel ⟨buffer, 0, 0⟩).map fun outcome => do
      let generation ← outcome
      store generation.buffer generation.i 0

/-- Whatever is drawn, the buffer starts with a string over the table, and every
such string is drawn. -/
structure GeneratesExactly (rand : RandLibrary) (table : Text size)
    (buffersize : ℕ) : Prop where
  safe : ∀ (stream : rand.Stream) (buffer : List UInt8),
    buffersize ≤ buffer.length → ∃ text,
      Returns (strrand stream buffer buffersize table)
        (.ok (text ++ 0 :: buffer.drop buffersize)) ∧
      text.length = buffersize - 1 ∧ ∀ char ∈ text, char ∈ table.chars
  attainable : ∀ text buffer : List UInt8, buffersize ≤ buffer.length →
    text.length = buffersize - 1 → (∀ char ∈ text, char ∈ table.chars) →
    ∃ stream : rand.Stream, Returns (strrand stream buffer buffersize table)
      (.ok (text ++ 0 :: buffer.drop buffersize))
  everywhere : ∀ char ∈ table.chars, ∀ position < buffersize - 1,
    ∀ buffer : List UInt8, buffersize ≤ buffer.length →
      ∃ (stream : rand.Stream) (text : List UInt8),
        Returns (strrand stream buffer buffersize table)
          (.ok (text ++ 0 :: buffer.drop buffersize)) ∧
        text.length = buffersize - 1 ∧ text[position]? = some char

/-! ## Texts over a list of choices -/

def drawn (choices : List UInt8) (stream : ℕ → ℕ) (count : ℕ) : List UInt8 :=
  (List.range count).map fun call =>
    choices.getD (stream call % choices.length) 0

@[simp] theorem length_drawn
    (choices : List UInt8) (stream : ℕ → ℕ) (count : ℕ) :
    (drawn choices stream count).length = count := by
  rw [drawn, List.length_map, List.length_range]

theorem mem_choices_of_mem_drawn
    {choices : List UInt8} (hchoices : choices ≠ []) {stream : ℕ → ℕ}
    {count : ℕ} {char : UInt8} (hchar : char ∈ drawn choices stream count) :
    char ∈ choices := by
  obtain ⟨call, _, rfl⟩ := List.mem_map.mp hchar
  have hlt : stream call % choices.length < choices.length :=
    Nat.mod_lt _ (List.length_pos_iff.mpr hchoices)
  rw [List.getD_eq_getElem _ _ hlt]
  exact List.getElem_mem hlt

/-- Every text over the choices is drawn by a stream of its positions. -/
theorem exists_drawn
    {choices text : List UInt8} {bound : ℕ} (hbound : choices.length ≤ bound + 1)
    (htext : ∀ char ∈ text, char ∈ choices) :
    ∃ stream : ℕ → Fin (bound + 1),
      drawn choices (fun call => (stream call).val) text.length = text := by
  refine ⟨fun call =>
    if hcall : call < text.length then
      ⟨choices.idxOf text[call], Nat.lt_of_lt_of_le
        (List.idxOf_lt_length_of_mem (htext _ (List.getElem_mem hcall)))
        hbound⟩
    else 0, ?_⟩
  apply List.ext_getElem
  · exact length_drawn _ _ _
  · intro call _ hcall
    have hlt : choices.idxOf text[call] < choices.length :=
      List.idxOf_lt_length_of_mem (htext _ (List.getElem_mem hcall))
    simp only [drawn, List.getElem_map, List.getElem_range, dif_pos hcall,
      Nat.mod_eq_of_lt hlt]
    rw [List.getD_eq_getElem _ _ hlt, List.getElem_idxOf]

/-! ## The generation -/

section

variable {rand : RandLibrary} (stream : rand.Stream) {table : Text size}

/-- The text that a stream draws: never the last character of the table. -/
def drawnText (table : Text size) (count : ℕ) : List UInt8 :=
  drawn table.chars.dropLast (fun call => (stream call).val) count

@[simp] theorem length_drawnText (count : ℕ) :
    (drawnText stream table count).length = count :=
  length_drawn _ _ _

theorem length_choices (table : Text size) :
    table.chars.dropLast.length = table.strlen - 1 :=
  List.length_dropLast

/-- The generation after so many characters of the text. -/
def Generation.after (buffer text : List UInt8) (count : ℕ) : Generation :=
  ⟨overwrite buffer (text.take count), count, count⟩

theorem loadInt_drawn
    (hlong : 1 < table.strlen) {count call : ℕ}
    (hcall : call < (drawnText stream table count).length) :
    loadInt table.memory (toInt ((stream call).val % (table.strlen - 1))) =
      .ok (drawnText stream table count)[call] := by
  have hfits := rand.fits
  have hdrawn := (stream call).isLt
  have hlt : (stream call).val % (table.strlen - 1) < table.strlen - 1 :=
    Nat.mod_lt _ (Nat.sub_pos_of_lt hlong)
  have hint : (stream call).val % (table.strlen - 1) < 2 ^ 31 := by
    have hle := Nat.mod_le (stream call).val (table.strlen - 1)
    omega
  have hchoice : (stream call).val % (table.strlen - 1) <
      table.chars.dropLast.length := by
    rw [length_choices]
    exact hlt
  have hchar : (stream call).val % (table.strlen - 1) < table.chars.length :=
    Nat.lt_of_lt_of_le hlt (Nat.sub_le _ _)
  have hmemory : table.memory[(stream call).val % (table.strlen - 1)]? =
      some (drawnText stream table count)[call] := by
    simp only [drawnText, drawn, List.getElem_map, List.getElem_range,
      length_choices]
    rw [List.getD_eq_getElem _ _ hchoice, List.getElem_dropLast, Text.memory,
      List.getElem?_append_left hchar, List.getElem?_eq_getElem]
  rw [toInt_of_lt hint, loadInt_natCast, load_of_getElem? hmemory]

theorem Generation.after_body
    (hlong : 1 < table.strlen) {buffer : List UInt8} {buffersize count : ℕ}
    (hsize : buffersize < 2 ^ size.bits) (hroom : buffersize ≤ buffer.length)
    (hcount : count < buffersize - 1) :
    (Generation.after buffer (drawnText stream table (buffersize - 1))
        count).body stream table =
      .ok (Generation.after buffer (drawnText stream table (buffersize - 1))
        (count + 1)) := by
  have hrand := rand.fits
  have hdrawn := (stream count).isLt
  have htable := table.fits
  have hwide : (2 : ℕ) ^ 32 ≤ 2 ^ size.bits :=
    Nat.pow_le_pow_right (by omega) size.wide
  have hlength : count < (drawnText stream table (buffersize - 1)).length := by
    rw [length_drawnText]
    exact hcount
  have hsub : size.sub table.strlen 1 = table.strlen - 1 := by
    rw [Text.strlen] at hlong ⊢
    exact SizeT.sub_of_le (Nat.le_of_lt hlong) (by omega)
  unfold Generation.after Generation.body
  dsimp only
  rw [SizeT.ofInt_natCast (by omega), hsub,
    remainder_of_pos (Nat.sub_pos_of_lt hlong), ok_bind,
    loadInt_drawn stream hlong hlength, ok_bind,
    store_take hlength (by omega), ok_bind, SizeT.add_of_lt (by omega)]

/-- With at least two characters in the table, or none to draw. -/
theorem strrand_returns
    {buffer : List UInt8} {buffersize : ℕ}
    (henough : buffersize = 1 ∨ 1 < table.strlen) (hpos : 1 ≤ buffersize)
    (hsize : buffersize < 2 ^ size.bits) (hroom : buffersize ≤ buffer.length) :
    Returns (strrand stream buffer buffersize table)
      (.ok (drawnText stream table (buffersize - 1) ++
        0 :: buffer.drop buffersize)) := by
  have hsub : size.sub buffersize 1 = buffersize - 1 :=
    SizeT.sub_of_le hpos hsize
  have hloop :
      Returns (fun fuel => run (guarded (Generation.test size buffersize)
        (Generation.body stream table)) fuel
          (.after buffer (drawnText stream table (buffersize - 1)) 0))
        (.ok (.after buffer (drawnText stream table (buffersize - 1))
          (buffersize - 1))) := by
    apply returns_counted
    · intro count hcount
      have hlong : 1 < table.strlen := by omega
      refine ⟨?_, Generation.after_body stream hlong hsize hroom hcount⟩
      rw [Generation.test, hsub]
      exact decide_eq_true hcount
    · rw [Generation.test, hsub]
      exact decide_eq_false (Nat.lt_irrefl _)
  refine hloop.map ?_
  have hwritten : (drawnText stream table (buffersize - 1)).length <
      buffer.length := by
    rw [length_drawnText]
    omega
  have hstore := store_overwrite hwritten 0
  rw [length_drawnText] at hstore
  rw [ok_bind, Generation.after]
  dsimp only
  rw [List.take_of_length_le (by rw [length_drawnText]), hstore, overwrite,
    List.length_append, length_drawnText, List.length_singleton,
    Nat.sub_add_cancel hpos, List.append_assoc, List.singleton_append]

theorem strrand_divides_by_zero
    (hsingle : table.strlen = 1) {buffer : List UInt8} {buffersize : ℕ}
    (hlarge : 1 < buffersize) (hsize : buffersize < 2 ^ size.bits) :
    Returns (strrand stream buffer buffersize table)
      (.error .divisionByZero) := by
  have htable := table.fits
  have hzero : size.sub table.strlen 1 = 0 := by
    rw [hsingle, SizeT.sub_of_le (Nat.le_refl 1) (by omega)]
  have htest : Generation.test size buffersize ⟨buffer, 0, 0⟩ = true := by
    rw [Generation.test, SizeT.sub_of_le (Nat.le_of_lt hlarge) hsize]
    exact decide_eq_true (Nat.sub_pos_of_lt hlarge)
  have hbody : Generation.body stream table ⟨buffer, 0, 0⟩ =
      .error .divisionByZero := by
    rw [Generation.body, hzero, remainder, if_pos rfl, error_bind]
  exact (returns_of_error (guarded_of_error htest hbody)).map rfl

end

/-! ## Which strings are drawn -/

section

variable {rand : RandLibrary} {table : Text size} {buffersize : ℕ}

theorem mem_choices_of_mem_table
    {htable : table.chars ≠ []}
    (hrepeated : table.chars.getLast htable ∈ table.chars.dropLast)
    {char : UInt8} (hchar : char ∈ table.chars) :
    char ∈ table.chars.dropLast := by
  rw [← List.dropLast_append_getLast htable, List.mem_append] at hchar
  obtain hchoice | hlast := hchar
  · exact hchoice
  · rw [List.mem_singleton.mp hlast]
    exact hrepeated

theorem lt_strlen_of_mem_choices
    {char : UInt8} (hchar : char ∈ table.chars.dropLast) :
    1 < table.strlen := by
  have hpos := List.length_pos_of_mem hchar
  rw [length_choices] at hpos
  omega

theorem mem_table_of_mem_drawnText
    {stream : rand.Stream} (henough : buffersize = 1 ∨ 1 < table.strlen)
    {char : UInt8} (hchar : char ∈ drawnText stream table (buffersize - 1)) :
    char ∈ table.chars := by
  have hpos := List.length_pos_of_mem hchar
  rw [length_drawnText] at hpos
  have hchoices : table.chars.dropLast ≠ [] := by
    rw [← List.length_pos_iff, length_choices]
    omega
  exact List.mem_of_mem_dropLast (mem_choices_of_mem_drawn hchoices hchar)

/-- A text without the last character of the table, or a text of none. -/
theorem attainable_of_choices
    (henough : buffersize = 1 ∨ 1 < table.strlen)
    (hmax : table.strlen ≤ rand.randMax) (hpos : 1 ≤ buffersize)
    (hsize : buffersize < 2 ^ size.bits) {text buffer : List UInt8}
    (hroom : buffersize ≤ buffer.length)
    (hlength : text.length = buffersize - 1)
    (htext : ∀ char ∈ text, char ∈ table.chars.dropLast) :
    ∃ stream : rand.Stream, Returns (strrand stream buffer buffersize table)
      (.ok (text ++ 0 :: buffer.drop buffersize)) := by
  have hbound : table.chars.dropLast.length ≤ rand.randMax + 1 := by
    rw [length_choices]
    omega
  obtain ⟨stream, hstream⟩ := exists_drawn hbound htext
  refine ⟨stream, ?_⟩
  have hdrawn : drawnText stream table (buffersize - 1) = text := by
    rw [← hlength]
    exact hstream
  have hreturns := strrand_returns stream henough hpos hsize hroom
  rwa [hdrawn] at hreturns

/-- The table's characters are all choices, or nothing is drawn. -/
theorem generatesExactly_of_choices
    (hchoices : buffersize = 1 ∨
      1 < table.strlen ∧ ∀ char ∈ table.chars, char ∈ table.chars.dropLast)
    (hmax : table.strlen ≤ rand.randMax) (hpos : 1 ≤ buffersize)
    (hsize : buffersize < 2 ^ size.bits) :
    GeneratesExactly rand table buffersize := by
  have henough : buffersize = 1 ∨ 1 < table.strlen :=
    hchoices.imp_right And.left
  have hattainable : ∀ text buffer : List UInt8, buffersize ≤ buffer.length →
      text.length = buffersize - 1 → (∀ char ∈ text, char ∈ table.chars) →
      ∃ stream : rand.Stream, Returns (strrand stream buffer buffersize table)
        (.ok (text ++ 0 :: buffer.drop buffersize)) := by
    intro text buffer hroom hlength htext
    apply attainable_of_choices henough hmax hpos hsize hroom hlength
    intro char hchar
    obtain hone | ⟨_, hall⟩ := hchoices
    · have hlt := List.length_pos_of_mem hchar
      omega
    · exact hall char (htext char hchar)
  refine ⟨?_, hattainable, ?_⟩
  · intro stream buffer hroom
    exact ⟨_, strrand_returns stream henough hpos hsize hroom,
      length_drawnText stream _, fun _ => mem_table_of_mem_drawnText henough⟩
  · intro char hchar position hposition buffer hroom
    have hall : ∀ other ∈ List.replicate (buffersize - 1) char,
        other ∈ table.chars := by
      intro other hother
      rw [List.eq_of_mem_replicate hother]
      exact hchar
    obtain ⟨stream, hreturns⟩ :=
      hattainable _ buffer hroom List.length_replicate hall
    refine ⟨stream, _, hreturns, List.length_replicate, ?_⟩
    rw [List.getElem?_replicate, if_pos hposition]

theorem not_generatesExactly_of_single
    (hsingle : table.strlen = 1) (hlarge : 1 < buffersize)
    (hsize : buffersize < 2 ^ size.bits) :
    ¬ GeneratesExactly rand table buffersize := by
  intro hgenerates
  obtain ⟨text, hreturns, _⟩ := hgenerates.safe (fun _ => 0)
    (List.replicate buffersize 0) (Nat.le_of_eq List.length_replicate.symm)
  have htrap := hreturns.unique
    (strrand_divides_by_zero _ hsingle hlarge hsize)
  contradiction

/-- The last character of the table is never drawn. -/
theorem not_generatesExactly_of_last
    {htable : table.chars ≠ []} (hlong : 1 < table.strlen)
    (hlast : table.chars.getLast htable ∉ table.chars.dropLast)
    (hlarge : 1 < buffersize) (hsize : buffersize < 2 ^ size.bits) :
    ¬ GeneratesExactly rand table buffersize := by
  intro hgenerates
  have hroom : buffersize ≤ (List.replicate buffersize (0 : UInt8)).length :=
    Nat.le_of_eq List.length_replicate.symm
  obtain ⟨stream, text, hreturns, _, hfirst⟩ := hgenerates.everywhere
    (table.chars.getLast htable) (List.getLast_mem htable) 0
    (Nat.sub_pos_of_lt hlarge) _ hroom
  have hdrawn := strrand_returns stream (Or.inr hlong) (Nat.le_of_lt hlarge)
    hsize hroom
  have htext : text = drawnText stream table (buffersize - 1) :=
    List.append_cancel_right (Except.ok.inj (hreturns.unique hdrawn))
  have hchoices : table.chars.dropLast ≠ [] := by
    rw [← List.length_pos_iff, length_choices]
    omega
  rw [htext] at hfirst
  exact hlast (mem_choices_of_mem_drawn hchoices (List.mem_of_getElem? hfirst))

/-- The divisor is one less than the length of the table. -/
theorem strrand_generates_iff_last_repeated
    (htable : table.chars ≠ []) (hmax : table.strlen ≤ rand.randMax)
    (hpos : 1 ≤ buffersize) (hsize : buffersize < 2 ^ size.bits) :
    GeneratesExactly rand table buffersize ↔
      buffersize = 1 ∨
        table.chars.getLast htable ∈ table.chars.dropLast := by
  constructor
  · intro hgenerates
    by_contra hneither
    rw [not_or] at hneither
    obtain ⟨hone, hlast⟩ := hneither
    have hlarge : 1 < buffersize := Nat.lt_of_le_of_ne hpos (Ne.symm hone)
    have hchars : 0 < table.strlen := List.length_pos_iff.mpr htable
    by_cases hsingle : table.strlen = 1
    · exact not_generatesExactly_of_single hsingle hlarge hsize hgenerates
    · have hlong : 1 < table.strlen := by omega
      exact not_generatesExactly_of_last hlong hlast hlarge hsize hgenerates
  · intro hcondition
    refine generatesExactly_of_choices (hcondition.imp_right ?_) hmax hpos hsize
    intro hrepeated
    refine ⟨lt_strlen_of_mem_choices hrepeated, ?_⟩
    intro char hchar
    exact mem_choices_of_mem_table hrepeated hchar

end

def smallRand : RandLibrary := ⟨32767, by decide⟩

theorem strrand_generates_iff_last_repeated_aba :
    GeneratesExactly smallRand
      (⟨[97, 98, 97], by decide, by decide⟩ : Text ⟨64, by decide⟩) 3 :=
  (strrand_generates_iff_last_repeated (by decide) (by decide) (by decide)
    (by decide)).mpr (Or.inr (by decide))

/-- The tables "a" and "ab". -/
theorem strrand_misses_last_character :
    ¬ GeneratesExactly smallRand
        (⟨[97], by decide, by decide⟩ : Text ⟨64, by decide⟩) 2 ∧
      ¬ GeneratesExactly smallRand
        (⟨[97, 98], by decide, by decide⟩ : Text ⟨64, by decide⟩) 2 := by
  constructor
  · exact not_generatesExactly_of_single rfl (by decide) (by decide)
  · have hlast : [(97 : UInt8), 98].getLast (by decide) ∉
        [(97 : UInt8), 98].dropLast := by decide
    exact not_generatesExactly_of_last (by decide) hlast (by decide) (by decide)

end MDK
