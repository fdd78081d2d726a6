import Mathlib.Data.Nat.Digits.Defs
import Mathlib.Data.List.TakeWhile
import Mathlib.Tactic.Positivity

/-!
# Decimal texts and their C conversion

The decimal text of a number, most significant digit first and without leading
zeros, and `strtol` in base ten for a `long` of a given width: it skips blanks,
reads a sign and digits, and saturates to the range of `long`.  Reading the
text of a number back yields the number clamped to that range.
-/

namespace DecimalText

def digit (value : ℕ) : UInt8 :=
  UInt8.ofNat (48 + value)

def ofNat (value : ℕ) : List UInt8 :=
  if value = 0 then [digit 0] else (Nat.digits 10 value).reverse.map digit

def minus : UInt8 := 45

def plus : UInt8 := 43

def ofInt : ℤ → List UInt8
  | .ofNat value => ofNat value
  | .negSucc value => minus :: ofNat (value + 1)

/-! ## Reading -/

def isBlank (byte : UInt8) : Bool :=
  byte = 32 || (9 ≤ byte && byte ≤ 13)

def isDigit (byte : UInt8) : Bool :=
  48 ≤ byte && byte ≤ 57

def digitsValue (text : List UInt8) : ℕ :=
  text.foldl (fun value byte => 10 * value + (byte.toNat - 48)) 0

def magnitude (text : List UInt8) : ℕ :=
  digitsValue (text.takeWhile isDigit)

def signedValue (text : List UInt8) : ℤ :=
  if text.head? = some minus then -magnitude text.tail
  else if text.head? = some plus then magnitude text.tail
  else magnitude text

def saturate (bits : ℕ) (value : ℤ) : ℤ :=
  max (-2 ^ (bits - 1)) (min value (2 ^ (bits - 1) - 1))

def strtol (bits : ℕ) (text : List UInt8) : ℤ :=
  saturate bits (signedValue (text.dropWhile isBlank))

/-! ## The bytes of a decimal text -/

theorem digit_toNat {value : ℕ} (hvalue : value < 10) :
    (digit value).toNat = 48 + value := by
  unfold digit
  rw [UInt8.toNat_ofNat']
  exact Nat.mod_eq_of_lt (by omega)

theorem isDigit_digit {value : ℕ} (hvalue : value < 10) :
    isDigit (digit value) = true := by
  have htoNat := digit_toNat hvalue
  simp only [isDigit, Bool.and_eq_true, decide_eq_true_eq, UInt8.le_iff_toNat_le,
    htoNat]
  constructor
  · exact Nat.le_add_right 48 value
  · show 48 + value ≤ 57
    omega

theorem isDigit_of_mem_ofNat
    {value : ℕ} {byte : UInt8} (hbyte : byte ∈ ofNat value) :
    isDigit byte = true := by
  unfold ofNat at hbyte
  split_ifs at hbyte with hzero
  · rw [List.mem_singleton.mp hbyte]
    exact isDigit_digit (by omega)
  · obtain ⟨figure, hmem, rfl⟩ := List.mem_map.mp hbyte
    rw [List.mem_reverse] at hmem
    exact isDigit_digit (Nat.digits_lt_base (by omega) hmem)

theorem ofNat_ne_nil (value : ℕ) : ofNat value ≠ [] := by
  unfold ofNat
  split_ifs with hzero
  · simp
  · simpa [Nat.digits_eq_nil_iff_eq_zero] using hzero

theorem exists_ofNat_eq_cons (value : ℕ) :
    ∃ byte rest, ofNat value = byte :: rest ∧ isDigit byte = true := by
  obtain ⟨byte, rest, hcons⟩ := List.exists_cons_of_ne_nil (ofNat_ne_nil value)
  exact ⟨byte, rest, hcons, isDigit_of_mem_ofNat (hcons ▸ List.mem_cons_self)⟩

theorem notMem_ofNat
    {byte : UInt8} (hbyte : isDigit byte = false) (value : ℕ) :
    byte ∉ ofNat value := by
  intro hmem
  rw [isDigit_of_mem_ofNat hmem] at hbyte
  contradiction

theorem zero_notMem_ofInt (value : ℤ) : 0 ∉ ofInt value := by
  have hzero : isDigit 0 = false := by decide
  cases value with
  | ofNat value => exact notMem_ofNat hzero value
  | negSucc value =>
      rw [ofInt, List.mem_cons, not_or]
      exact ⟨by decide, notMem_ofNat hzero (value + 1)⟩

/-! ## Reading a decimal text back -/

theorem digitsValue_map_digit
    {figures : List ℕ} (hfigures : ∀ figure ∈ figures, figure < 10) :
    digitsValue (figures.reverse.map digit) = Nat.ofDigits 10 figures := by
  rw [digitsValue, List.foldl_map, List.foldl_reverse]
  induction figures with
  | nil => rfl
  | cons figure rest ih =>
      rw [List.foldr_cons, ih fun other hmem => hfigures other (by simp [hmem]),
        digit_toNat (hfigures figure (by simp)), Nat.ofDigits_cons]
      omega

theorem digitsValue_ofNat (value : ℕ) : digitsValue (ofNat value) = value := by
  unfold ofNat
  split_ifs with hzero
  · rw [hzero]
    decide
  · rw [digitsValue_map_digit fun _ hmem => Nat.digits_lt_base (by omega) hmem]
    exact Nat.ofDigits_digits 10 value

theorem magnitude_ofNat (value : ℕ) : magnitude (ofNat value) = value := by
  have hall : (ofNat value).takeWhile isDigit = ofNat value :=
    List.takeWhile_eq_self_iff.mpr fun _ hmem => isDigit_of_mem_ofNat hmem
  rw [magnitude, hall, digitsValue_ofNat]

theorem isBlank_of_isDigit {byte : UInt8} (hdigit : isDigit byte = true) :
    isBlank byte = false := by
  have hlow : 48 ≤ byte.toNat := by
    simp only [isDigit, Bool.and_eq_true, decide_eq_true_eq] at hdigit
    exact UInt8.le_iff_toNat_le.mp hdigit.1
  have hblank : byte ≠ 32 := by
    rintro rfl
    exact absurd hlow (by decide)
  have hhigh : ¬ byte ≤ 13 := by
    rw [UInt8.le_iff_toNat_le, not_le]
    exact lt_of_lt_of_le (by decide) hlow
  simp [isBlank, hblank, hhigh]

theorem dropWhile_isBlank_ofInt (value : ℤ) :
    (ofInt value).dropWhile isBlank = ofInt value := by
  cases value with
  | ofNat value =>
      obtain ⟨byte, rest, hcons, hdigit⟩ := exists_ofNat_eq_cons value
      rw [ofInt, hcons, List.dropWhile_cons_of_neg]
      simp [isBlank_of_isDigit hdigit]
  | negSucc value =>
      rw [ofInt, List.dropWhile_cons_of_neg]
      decide

theorem signedValue_ofInt (value : ℤ) : signedValue (ofInt value) = value := by
  cases value with
  | ofNat value =>
      obtain ⟨byte, rest, hcons, hdigit⟩ := exists_ofNat_eq_cons value
      have hminus : byte ≠ minus := by
        rintro rfl
        exact absurd hdigit (by decide)
      have hplus : byte ≠ plus := by
        rintro rfl
        exact absurd hdigit (by decide)
      have hvalue := magnitude_ofNat value
      rw [hcons] at hvalue
      simp [ofInt, hcons, signedValue, hminus, hplus, hvalue]
  | negSucc value =>
      simp only [ofInt, signedValue, List.head?_cons, List.tail_cons, if_true,
        magnitude_ofNat]
      omega

/-- Reading the text of a number yields the number clamped to `long`. -/
theorem strtol_ofInt (bits : ℕ) (value : ℤ) :
    strtol bits (ofInt value) = saturate bits value := by
  rw [strtol, dropWhile_isBlank_ofInt, signedValue_ofInt]

theorem strtol_ofNat (bits value : ℕ) :
    strtol bits (ofNat value) = saturate bits value :=
  strtol_ofInt bits value

theorem saturate_eq_self
    {bits : ℕ} {value : ℤ} (hlow : -2 ^ (bits - 1) ≤ value)
    (hhigh : value < 2 ^ (bits - 1)) : saturate bits value = value := by
  unfold saturate
  omega

theorem saturate_of_le
    {bits : ℕ} {value : ℤ} (hhigh : 2 ^ (bits - 1) ≤ value) :
    saturate bits value = 2 ^ (bits - 1) - 1 := by
  have hpos : (0 : ℤ) < 2 ^ (bits - 1) := by positivity
  unfold saturate
  omega

/-! ## Dotted quads -/

def dot : UInt8 := 46

def octet? (text : List UInt8) : Option ℕ :=
  if digitsValue text < 256 ∧ text = ofNat (digitsValue text) then
    some (digitsValue text)
  else none

/-- The address with the first octet in its lowest byte. -/
def quadAddress (octets : List ℕ) : UInt32 :=
  UInt32.ofNat (Nat.ofDigits 256 octets)

def dottedQuad? (text : List UInt8) : Option UInt32 :=
  match (text.splitOn dot).mapM octet? with
  | none => none
  | some octets =>
      if octets.length = 4 then some (quadAddress octets) else none

theorem octet?_eq_some_iff {text : List UInt8} {value : ℕ} :
    octet? text = some value ↔ value < 256 ∧ text = ofNat value := by
  unfold octet?
  constructor
  · intro hsome
    split_ifs at hsome with hoctet
    cases hsome
    exact hoctet
  · rintro ⟨hvalue, rfl⟩
    rw [digitsValue_ofNat, if_pos ⟨hvalue, rfl⟩]

theorem mapM_octet?_eq_some_iff {texts : List (List UInt8)} {octets : List ℕ} :
    texts.mapM octet? = some octets ↔
      (∀ octet ∈ octets, octet < 256) ∧ texts = octets.map ofNat := by
  induction texts generalizing octets with
  | nil =>
      rw [List.mapM_nil]
      constructor
      · rintro heq
        cases heq
        simp
      · rintro ⟨_, hnil⟩
        rw [List.map_eq_nil_iff.mp hnil.symm]
        rfl
  | cons text rest ih =>
      rw [List.mapM_cons]
      constructor
      · intro hsome
        obtain ⟨value, hvalue, hrest⟩ := Option.bind_eq_some_iff.mp hsome
        obtain ⟨values, hvalues, hcons⟩ := Option.bind_eq_some_iff.mp hrest
        cases hcons
        obtain ⟨hsmall, rfl⟩ := octet?_eq_some_iff.mp hvalue
        obtain ⟨hall, rfl⟩ := ih.mp hvalues
        simpa using ⟨hsmall, hall⟩
      · rintro ⟨hall, htexts⟩
        cases octets with
        | nil => contradiction
        | cons value values =>
            obtain ⟨rfl, rfl⟩ := List.cons_eq_cons.mp htexts
            have hvalue : octet? (ofNat value) = some value :=
              octet?_eq_some_iff.mpr ⟨hall value (by simp), rfl⟩
            have hvalues : (values.map ofNat).mapM octet? = some values :=
              ih.mpr ⟨fun other hmem => hall other (by simp [hmem]), rfl⟩
            simp [hvalue, hvalues]

/-- A dotted quad is four numbers below 256 in decimal, joined by dots. -/
theorem dottedQuad?_eq_some_iff {text : List UInt8} {address : UInt32} :
    dottedQuad? text = some address ↔
      ∃ octets : List ℕ, octets.length = 4 ∧ (∀ octet ∈ octets, octet < 256) ∧
        text = [dot].intercalate (octets.map ofNat) ∧
        address = quadAddress octets := by
  unfold dottedQuad?
  constructor
  · intro hsome
    cases hoctets : (text.splitOn dot).mapM octet? with
    | none => simp [hoctets] at hsome
    | some octets =>
        simp only [hoctets] at hsome
        split_ifs at hsome with hlength
        cases hsome
        obtain ⟨hall, hsplit⟩ := mapM_octet?_eq_some_iff.mp hoctets
        refine ⟨octets, hlength, hall, ?_, rfl⟩
        rw [← hsplit, List.intercalate_splitOn]
  · rintro ⟨octets, hlength, hall, rfl, rfl⟩
    have hsplit : ([dot].intercalate (octets.map ofNat)).splitOn dot =
        octets.map ofNat := by
      apply List.splitOn_intercalate
      · intro part hpart
        obtain ⟨octet, _, rfl⟩ := List.mem_map.mp hpart
        exact notMem_ofNat (by decide) octet
      · intro hnil
        rw [List.map_eq_nil_iff.mp hnil] at hlength
        contradiction
    have hoctets : (octets.map ofNat).mapM octet? = some octets :=
      mapM_octet?_eq_some_iff.mpr ⟨hall, rfl⟩
    simp only [hsplit, hoctets, if_pos hlength]

end DecimalText
