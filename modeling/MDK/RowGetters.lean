import MDK.DecimalText
import MDK.ResultSet

/-!
# The typed getters of a row

The four getters share the bound check of `getFromRow` and differ in what they
make of the text of a cell and in the value that `return 0` builds.  The width
of `long` is a parameter, and so is `atof` with its type of results.
-/

namespace MDK

open CString (cString)

def atoi (bits : ℕ) (text : List UInt8) : ℤ :=
  (BitVec.ofInt 32 (DecimalText.strtol bits text)).toInt

def atoui (bits : ℕ) (text : List UInt8) : ℕ :=
  CString.toUnsigned 32 (DecimalText.strtol bits text)

namespace CResultSet

variable {Value : Type*}

def getConvertedFromRow (rs : CResultSet) (convert : Cell → Value)
    (fallback : Except CppException Value) (index : ℕ) :
    Except CppException Value :=
  match rs.getFromRow index with
  | .error exception => .error exception
  | .ok none => fallback
  | .ok (some cell) => .ok (convert cell)

def getIntFromRow (bits : ℕ) (rs : CResultSet) (index : ℕ) :
    Except CppException ℤ :=
  rs.getConvertedFromRow (fun cell => atoi bits (cString cell)) (.ok 0) index

def getUIntFromRow (bits : ℕ) (rs : CResultSet) (index : ℕ) :
    Except CppException ℕ :=
  rs.getConvertedFromRow (fun cell => atoui bits (cString cell)) (.ok 0) index

def getDoubleFromRow [Zero Value] (atof : List UInt8 → Value)
    (rs : CResultSet) (index : ℕ) : Except CppException Value :=
  rs.getConvertedFromRow (fun cell => atof (cString cell)) (.ok 0) index

theorem getStringFromRow_eq (rs : CResultSet) (index : ℕ) :
    rs.getStringFromRow index =
      rs.getConvertedFromRow id (.error .logicError) index := by
  unfold getStringFromRow getConvertedFromRow
  cases rs.getFromRow index with
  | error exception => rfl
  | ok cell? =>
      cases cell? with
      | none => rfl
      | some cell => rfl

/-- What the bound check makes of an index: the index one past the last cell
passes it. -/
theorem getConvertedFromRow_eq
    {rs : CResultSet} {row : List Cell}
    (hrow : rs.vvRows[rs.uiPos.toNat]? = some row) (convert : Cell → Value)
    (fallback : Except CppException Value) (index : ℕ) :
    rs.getConvertedFromRow convert fallback index =
      if row.length < index then fallback
      else
        match row[index]? with
        | some cell => .ok (convert cell)
        | none => .error .outOfRange := by
  simp only [getConvertedFromRow, getFromRow, currentRow, hrow]
  split_ifs with hlt
  · rfl
  · cases row[index]? with
    | none => rfl
    | some cell => rfl

theorem getConvertedFromRow_of_getElem
    {rs : CResultSet} {row : List Cell} {cell : Cell} {index : ℕ}
    (hrow : rs.vvRows[rs.uiPos.toNat]? = some row)
    (hcell : row[index]? = some cell) (convert : Cell → Value)
    (fallback : Except CppException Value) :
    rs.getConvertedFromRow convert fallback index = .ok (convert cell) := by
  have hindex : ¬ row.length < index := by
    have hlt := (List.getElem?_eq_some_iff.mp hcell).1
    omega
  rw [getConvertedFromRow_eq hrow, if_neg hindex, hcell]

/-! ## Numbers read back -/

/-- If the cell is the decimal text of a number of 32 bits, the getter for
numbers with or without a sign returns that number. -/
structure RoundTrips (bits : ℕ) (rs : CResultSet) (index : ℕ) (cell : Cell) :
    Prop where
  unsigned : ∀ n < 2 ^ 32, cell = DecimalText.ofNat n →
    rs.getUIntFromRow bits index = .ok n
  signed : ∀ z : ℤ, -2 ^ 31 ≤ z → z < 2 ^ 31 → cell = DecimalText.ofInt z →
    rs.getIntFromRow bits index = .ok z

theorem cString_of_zero_notMem {text : List UInt8} (hzero : 0 ∉ text) :
    cString text = text := by
  refine List.takeWhile_eq_self_iff.mpr fun byte hmem => ?_
  have hne : byte ≠ 0 := fun heq => hzero (heq ▸ hmem)
  simpa using hne

theorem two_pow_31_le {bits : ℕ} (hbits : 32 ≤ bits) :
    (2 : ℕ) ^ 31 ≤ 2 ^ (bits - 1) :=
  Nat.pow_le_pow_right (by omega) (by omega)

theorem atoi_ofInt
    {bits : ℕ} (hbits : 32 ≤ bits) {z : ℤ} (hlow : -2 ^ 31 ≤ z)
    (hhigh : z < 2 ^ 31) : atoi bits (cString (DecimalText.ofInt z)) = z := by
  have hpow : (2 : ℤ) ^ 31 ≤ 2 ^ (bits - 1) := by
    exact_mod_cast two_pow_31_le hbits
  have hexact : DecimalText.saturate bits z = z :=
    DecimalText.saturate_eq_self (by omega) (by omega)
  rw [atoi, cString_of_zero_notMem (DecimalText.zero_notMem_ofInt z),
    DecimalText.strtol_ofInt, hexact, BitVec.toInt_ofInt, Int.bmod_def]
  split_ifs <;> omega

theorem atoui_ofNat_iff
    {bits : ℕ} (hbits : 32 ≤ bits) {n : ℕ} (hn : n < 2 ^ 32) :
    atoui bits (cString (DecimalText.ofNat n)) = n ↔ n < 2 ^ (bits - 1) := by
  have hcast : ((2 ^ (bits - 1) : ℕ) : ℤ) = 2 ^ (bits - 1) := by simp
  have hpow := two_pow_31_le hbits
  rw [atoui, cString_of_zero_notMem (DecimalText.notMem_ofNat (by decide) n),
    DecimalText.strtol_ofNat, CString.toUnsigned]
  constructor
  · intro hback
    by_contra hlarge
    rw [DecimalText.saturate_of_le (by omega)] at hback
    omega
  · intro hsmall
    rw [DecimalText.saturate_eq_self (by omega) (by omega)]
    omega

/-- Numbers survive the way through their text exactly when `long` holds them:
a `long` of 32 bits loses the upper half of the unsigned numbers. -/
theorem roundTrips_iff
    {bits : ℕ} (hbits : 32 ≤ bits) {rs : CResultSet} {row : List Cell}
    (hrow : rs.vvRows[rs.uiPos.toNat]? = some row) {index : ℕ} {cell : Cell}
    (hcell : row[index]? = some cell) :
    RoundTrips bits rs index cell ↔
      ∀ n < 2 ^ 32, cell = DecimalText.ofNat n → n < 2 ^ (bits - 1) := by
  have hunsigned : rs.getUIntFromRow bits index =
      .ok (atoui bits (cString cell)) :=
    getConvertedFromRow_of_getElem hrow hcell _ _
  have hsigned : rs.getIntFromRow bits index = .ok (atoi bits (cString cell)) :=
    getConvertedFromRow_of_getElem hrow hcell _ _
  constructor
  · intro htrips n hn htext
    have hvalue := htrips.unsigned n hn htext
    rw [hunsigned, htext, Except.ok.injEq] at hvalue
    exact (atoui_ofNat_iff hbits hn).mp hvalue
  · intro hfits
    constructor
    · intro n hn htext
      rw [hunsigned, htext, (atoui_ofNat_iff hbits hn).mpr (hfits n hn htext)]
    · intro z hlow hhigh htext
      rw [hsigned, htext, atoi_ofInt hbits hlow hhigh]

/-- One row with the cells `3000000000` and `-7`. -/
def numbersResultSet : CResultSet :=
  ⟨[[DecimalText.ofNat 3000000000, DecimalText.ofInt (-7)]], 0⟩

theorem roundTrips_lp64 :
    RoundTrips 64 numbersResultSet 0 (DecimalText.ofNat 3000000000) ↔
      ∀ n < 2 ^ 32, DecimalText.ofNat 3000000000 = DecimalText.ofNat n →
        n < 2 ^ (64 - 1) :=
  roundTrips_iff (Nat.le_add_right 32 32) rfl rfl

/-- A `long` of 32 bits reads `3000000000` as `2147483647`. -/
theorem getUIntFromRow_saturates :
    ¬ ∀ bits, bits = 32 ∨ bits = 64 →
      ∀ (rs : CResultSet) (row : List Cell) (index : ℕ) (cell : Cell),
      rs.vvRows[rs.uiPos.toNat]? = some row → row[index]? = some cell →
      RoundTrips bits rs index cell := by
  intro hall
  have htrips := hall 32 (Or.inl rfl) numbersResultSet _ 0 _ rfl rfl
  have hvalue := htrips.unsigned 3000000000 (by decide) rfl
  revert hvalue
  decide

/-! ## Indices out of range -/

inductive Getter where
  | getInt
  | getUInt
  | getDouble
  | getString
  deriving DecidableEq, Repr

/-- The getter reads the cell of the index, or returns the zero value of its
type where the row has no such cell. -/
def Getter.Harmless [Zero Value] (bits : ℕ) (atof : List UInt8 → Value)
    (rs : CResultSet) (row : List Cell) (index : ℕ) : Getter → Prop
  | .getInt =>
      rs.getIntFromRow bits index =
        .ok ((row[index]?).elim 0 fun cell => atoi bits (cString cell))
  | .getUInt =>
      rs.getUIntFromRow bits index =
        .ok ((row[index]?).elim 0 fun cell => atoui bits (cString cell))
  | .getDouble =>
      rs.getDoubleFromRow atof index =
        .ok ((row[index]?).elim 0 fun cell => atof (cString cell))
  | .getString => rs.getStringFromRow index = .ok ((row[index]?).elim [] id)

/-- The index one past the last cell throws whatever the fallback is. -/
theorem getConvertedFromRow_eq_elim_iff
    {rs : CResultSet} {row : List Cell}
    (hrow : rs.vvRows[rs.uiPos.toNat]? = some row) (convert : Cell → Value)
    (fallback : Except CppException Value) (zero : Value) (index : ℕ) :
    rs.getConvertedFromRow convert fallback index =
        .ok ((row[index]?).elim zero convert) ↔
      index < row.length ∨ (row.length < index ∧ fallback = .ok zero) := by
  rw [getConvertedFromRow_eq hrow]
  rcases lt_trichotomy index row.length with hlt | heq | hgt
  · have hge : ¬ row.length < index := by omega
    simp [hlt, hge]
  · simp [heq]
  · have hge : ¬ index < row.length := by omega
    simp [hgt, hge]

/-- With the cursor on a row, a getter is harmless exactly for the indices of
its cells and, where it returns a number, for those past the one that follows
the last cell. -/
theorem getter_harmless_iff
    [Zero Value] (bits : ℕ) (atof : List UInt8 → Value) {rs : CResultSet}
    {row : List Cell} (hrow : rs.vvRows[rs.uiPos.toNat]? = some row)
    (index : ℕ) (getter : Getter) :
    getter.Harmless bits atof rs row index ↔
      index < row.length ∨ (row.length < index ∧ getter ≠ .getString) := by
  cases getter with
  | getInt =>
      rw [Getter.Harmless, getIntFromRow, getConvertedFromRow_eq_elim_iff hrow]
      simp
  | getUInt =>
      rw [Getter.Harmless, getUIntFromRow, getConvertedFromRow_eq_elim_iff hrow]
      simp
  | getDouble =>
      rw [Getter.Harmless, getDoubleFromRow, getConvertedFromRow_eq_elim_iff hrow]
      simp
  | getString =>
      rw [Getter.Harmless, getStringFromRow_eq,
        getConvertedFromRow_eq_elim_iff hrow]
      simp

theorem getter_harmless_second_cell :
    Getter.getInt.Harmless 64 (fun _ => (0 : ℕ)) numbersResultSet
        (numbersResultSet.vvRows.head (by decide)) 1 ↔
      1 < 2 ∨ (2 < 1 ∧ Getter.getInt ≠ .getString) :=
  getter_harmless_iff 64 (fun _ => (0 : ℕ)) rfl 1 .getInt

/-- On an empty row `GetIntFromRow(0)` throws. -/
theorem getIntFromRow_empty_row_throws :
    ¬ ∀ (bits : ℕ) (atof : List UInt8 → ℕ) (rs : CResultSet) (row : List Cell),
      rs.vvRows[rs.uiPos.toNat]? = some row →
      ∀ (index : ℕ) (getter : Getter),
        getter.Harmless bits atof rs row index := by
  intro hall
  have hharmless := hall 64 (fun _ => 0) ⟨[[]], 0⟩ [] rfl 0 .getInt
  rw [Getter.Harmless] at hharmless
  revert hharmless
  decide

end CResultSet

end MDK
