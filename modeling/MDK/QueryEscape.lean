import MDK.CString
import MDK.Database
import MDK.LiteralLexing
import Mathlib.Tactic.NormNum

/-!
# Escaping a query string

`mdk_escape_query_string` escapes in the MariaDB branch only; for a SQLite
database it reports success on the unchanged text.  The client library, the
allocator and the lexers of both engines are parameters.
-/

namespace MDK

open CString LiteralLexing

/-! ## The escape function -/

/-- The width of `unsigned long`: 32 bits on Windows, 64 on LP64 systems. -/
inductive LongWidth where
  | bits32
  | bits64
  deriving DecidableEq, Repr

def LongWidth.bits : LongWidth → ℕ
  | .bits32 => 32
  | .bits64 => 64

inductive EscapeFault where
  | nullHandle
  | readPastInput
  | writePastBlock
  deriving DecidableEq, Repr

/-- What the function uses of the C runtime and of the MariaDB client. -/
structure EscapeRuntime where
  malloc : ℕ → Option (List UInt8)
  realEscapeString : ℕ → List UInt8 → List UInt8
  longWidth : LongWidth

/-- `(int)inputString.length()`, converted to the `unsigned long` parameter. -/
def LongWidth.passedLength (width : LongWidth) (length : ℕ) : ℕ :=
  toUnsigned width.bits (toInt length)

/-- The call of `mysql_real_escape_string` on a block and an input buffer: it
writes the escaped bytes and a NUL at the start of the block. -/
def EscapeRuntime.mysqlRealEscapeString
    (runtime : EscapeRuntime) (db : DatabasePointer)
    (block source : List UInt8) (length : ℕ) :
    Except EscapeFault (List UInt8) :=
  match db with
  | none => .error .nullHandle
  | some handle =>
      if source.length < length then .error .readPastInput
      else
        let written := runtime.realEscapeString handle (source.take length) ++ [0]
        if block.length < written.length then .error .writePastBlock
        else .ok (written ++ block.drop written.length)

def mdkEscapeQueryString
    (runtime : EscapeRuntime) (db : CDatabase) (inputString : List UInt8) :
    Except EscapeFault (Bool × List UInt8) :=
  match db.databaseType with
  | .mariadb =>
      match runtime.malloc ((inputString.length * 2 + 5) % 2 ^ 64) with
      | none => .ok (false, inputString)
      | some temporanyString =>
          match runtime.mysqlRealEscapeString db.pointedDb temporanyString
              (inputString ++ [0])
              (runtime.longWidth.passedLength inputString.length) with
          | .error fault => .error fault
          | .ok filled => .ok (true, cString filled)
  | .sqlite => .ok (true, inputString)

/-! ## What the third parties promise -/

/-- The byte after the backslash, for the bytes that the client escapes. -/
def mysqlEscapeCode (byte : UInt8) : Option UInt8 :=
  if byte = 0 then some 48
  else if byte = 10 then some 110
  else if byte = 13 then some 114
  else if byte = 26 then some 90
  else if byte = 34 ∨ byte = 39 ∨ byte = 92 then some byte
  else none

def mysqlEscape (text : List UInt8) : List UInt8 :=
  text.flatMap (escapeWith 92 mysqlEscapeCode)

/-- The bytes that a MariaDB literal does not read as themselves. -/
def MysqlReserved (byte : UInt8) : Prop :=
  byte = 39 ∨ byte = 92 ∨ byte = 0

structure EscapeRuntime.Documented (runtime : EscapeRuntime) : Prop where
  malloc_length : ∀ size block,
    runtime.malloc size = some block → block.length = size
  realEscapeString_eq : ∀ handle text,
    runtime.realEscapeString handle text = mysqlEscape text

/-- The literals of the two engines: MariaDB undoes the backslash escapes, and
SQLite, whose query text ends at the first NUL, knows doubled quotes only. -/
structure LiteralsDocumented
    (readOf : EDatabaseType → Reader UInt8) (decode : UInt8 → UInt8) : Prop where
  mariadb : EscapeReading (readOf .mariadb) 39 92 MysqlReserved decode
  mariadb_decode : ∀ byte code,
    mysqlEscapeCode byte = some code → decode code = byte
  sqlite : QuoteDoubling (readOf .sqlite) 39 0

theorem not_mysqlReserved_of_mysqlEscapeCode_eq_none
    {byte : UInt8} (hcode : mysqlEscapeCode byte = none) :
    ¬ MysqlReserved byte := by
  intro hreserved
  rcases hreserved with hbyte | hbyte | hbyte
  all_goals
    subst hbyte
    simp [mysqlEscapeCode] at hcode

theorem mysqlEscapeCode_ne_zero
    {byte code : UInt8} (hcode : mysqlEscapeCode byte = some code) :
    code ≠ 0 := by
  intro hzero
  subst hzero
  by_cases hbyte : byte = 0
  · simp [mysqlEscapeCode, hbyte] at hcode
  · simp only [mysqlEscapeCode, hbyte, if_false] at hcode
    split_ifs at hcode with hnewline hreturn hsubstitute hother
    · contradiction
    · contradiction
    · contradiction
    · exact hbyte (Option.some.inj hcode)

theorem zero_notMem_mysqlEscape (text : List UInt8) :
    0 ∉ mysqlEscape text := by
  intro hmem
  rcases List.mem_flatMap.mp hmem with ⟨byte, _, hbyte⟩
  unfold escapeWith at hbyte
  cases hcode : mysqlEscapeCode byte with
  | some code =>
      have hne := mysqlEscapeCode_ne_zero hcode
      simp [hcode, Ne.symm hne] at hbyte
  | none =>
      have hplain := not_mysqlReserved_of_mysqlEscapeCode_eq_none hcode
      simp only [hcode, List.mem_singleton] at hbyte
      exact hplain (Or.inr (Or.inr hbyte.symm))

theorem mysqlEscape_length_le (text : List UInt8) :
    (mysqlEscape text).length ≤ 2 * text.length :=
  length_flatMap_escapeWith_le 92 mysqlEscapeCode text

/-! ## The length that reaches the client -/

/-- The first length that does not survive the conversions. -/
def LongWidth.firstLost : LongWidth → ℕ
  | .bits32 => 2 ^ 32
  | .bits64 => 2 ^ 31

theorem LongWidth.passedLength_eq (width : LongWidth) (length : ℕ) :
    width.passedLength length =
      if length % 2 ^ 32 < 2 ^ 31 then length % 2 ^ 32
      else 2 ^ width.bits - 2 ^ 32 + length % 2 ^ 32 := by
  apply toUnsigned_toInt
  cases width with
  | bits32 => simp [LongWidth.bits]
  | bits64 => simp [LongWidth.bits]

theorem LongWidth.passedLength_of_lt
    {width : LongWidth} {length : ℕ} (hlength : length < width.firstLost) :
    width.passedLength length = length := by
  rw [LongWidth.passedLength_eq]
  unfold LongWidth.firstLost at hlength
  unfold LongWidth.bits
  cases width with
  | bits32 =>
      dsimp only at hlength ⊢
      split_ifs
      · omega
      · omega
  | bits64 =>
      dsimp only at hlength ⊢
      split_ifs
      · omega
      · omega

/-- A longer text is cut short, or the client is told to read past its end. -/
theorem LongWidth.passedLength_of_le
    {width : LongWidth} {length : ℕ} (hlength : width.firstLost ≤ length)
    (hmax : length < 2 ^ 63) :
    width.passedLength length < length ∨
      length + 1 < width.passedLength length := by
  rw [LongWidth.passedLength_eq]
  unfold LongWidth.firstLost at hlength
  unfold LongWidth.bits
  cases width with
  | bits32 =>
      dsimp only at hlength ⊢
      split_ifs
      · omega
      · omega
  | bits64 =>
      dsimp only at hlength ⊢
      split_ifs
      · omega
      · omega

/-! ## The two branches -/

theorem mdkEscapeQueryString_sqlite
    (runtime : EscapeRuntime) {db : CDatabase}
    (htype : db.databaseType = .sqlite) (inputString : List UInt8) :
    mdkEscapeQueryString runtime db inputString = .ok (true, inputString) := by
  simp [mdkEscapeQueryString, htype]

/-- Where the block holds the escaped text, the call leaves the escape of the
bytes that it was told to read. -/
theorem mdkEscapeQueryString_mariadb
    {runtime : EscapeRuntime} (hruntime : runtime.Documented) {db : CDatabase}
    (htype : db.databaseType = .mariadb) {handle : ℕ}
    (hhandle : db.pointedDb = some handle) {inputString block : List UInt8}
    (hmalloc :
      runtime.malloc ((inputString.length * 2 + 5) % 2 ^ 64) = some block)
    {length : ℕ}
    (hpassed : runtime.longWidth.passedLength inputString.length = length)
    (hread : length ≤ inputString.length)
    (hwrite : (mysqlEscape (inputString.take length)).length < block.length) :
    mdkEscapeQueryString runtime db inputString =
      .ok (true, mysqlEscape (inputString.take length)) := by
  have htake : (inputString ++ [0]).take length = inputString.take length :=
    List.take_append_of_le_length hread
  have hinput : ¬ (inputString ++ [0]).length < length := by
    rw [List.length_append, List.length_singleton]
    omega
  have hblock :
      ¬ block.length < (mysqlEscape (inputString.take length) ++ [0]).length := by
    rw [List.length_append, List.length_singleton]
    omega
  simp only [mdkEscapeQueryString, htype, hmalloc, hhandle, hpassed,
    EscapeRuntime.mysqlRealEscapeString, hinput, if_false, htake,
    hruntime.realEscapeString_eq, hblock]
  rw [List.append_assoc, List.singleton_append,
    cString_append_zero (zero_notMem_mysqlEscape _)]

theorem mdkEscapeQueryString_readsPast
    {runtime : EscapeRuntime} {db : CDatabase}
    (htype : db.databaseType = .mariadb) {handle : ℕ}
    (hhandle : db.pointedDb = some handle) {inputString block : List UInt8}
    (hmalloc :
      runtime.malloc ((inputString.length * 2 + 5) % 2 ^ 64) = some block)
    (hlong : inputString.length + 1 <
      runtime.longWidth.passedLength inputString.length) :
    mdkEscapeQueryString runtime db inputString = .error .readPastInput := by
  have hinput : (inputString ++ [0]).length <
      runtime.longWidth.passedLength inputString.length := by
    rw [List.length_append, List.length_singleton]
    exact hlong
  simp only [mdkEscapeQueryString, htype, hmalloc, hhandle,
    EscapeRuntime.mysqlRealEscapeString, hinput, if_true]

theorem mdkEscapeQueryString_writesPast
    {runtime : EscapeRuntime} (hruntime : runtime.Documented) {db : CDatabase}
    (htype : db.databaseType = .mariadb) {handle : ℕ}
    (hhandle : db.pointedDb = some handle) {inputString block : List UInt8}
    (hmalloc :
      runtime.malloc ((inputString.length * 2 + 5) % 2 ^ 64) = some block)
    {length : ℕ}
    (hpassed : runtime.longWidth.passedLength inputString.length = length)
    (hread : length ≤ inputString.length)
    (hwrite : block.length ≤ (mysqlEscape (inputString.take length)).length) :
    mdkEscapeQueryString runtime db inputString = .error .writePastBlock := by
  have hinput : ¬ (inputString ++ [0]).length < length := by
    rw [List.length_append, List.length_singleton]
    omega
  have hblock : block.length <
      (mysqlEscape (inputString.take length) ++ [0]).length := by
    rw [List.length_append, List.length_singleton]
    omega
  simp only [mdkEscapeQueryString, htype, hmalloc, hhandle, hpassed,
    EscapeRuntime.mysqlRealEscapeString, hinput, if_false,
    List.take_append_of_le_length hread, hruntime.realEscapeString_eq, hblock,
    if_true]

/-! ## Injection safety -/

/-- The call stays inside its buffers, and a text that it returns with success
is, between quotes and anywhere in a query, one literal whose value is the input
and after which the query goes on.  The query must not go on with a quote, which
would double the closing one. -/
structure InjectionSafe
    (read : Reader UInt8) (inputString : List UInt8)
    (outcome : Except EscapeFault (Bool × List UInt8)) : Prop where
  reads_inside : outcome ≠ .error .readPastInput
  writes_inside : outcome ≠ .error .writePastBlock
  literal : ∀ escaped, outcome = .ok (true, escaped) →
    ∀ before rest : List UInt8, rest.head? ≠ some 39 →
      literalAt read 39 (before ++ 39 :: (escaped ++ 39 :: rest)) before.length =
        some (inputString, rest)

theorem injectionSafe_ok_true_iff
    {read : Reader UInt8} {inputString escaped : List UInt8} :
    InjectionSafe read inputString (.ok (true, escaped)) ↔
      ∀ rest : List UInt8, rest.head? ≠ some 39 →
        read (escaped ++ 39 :: rest) = some (inputString, rest) := by
  constructor
  · intro hsafe rest hrest
    have hliteral := hsafe.literal escaped rfl [] rest hrest
    rw [literalAt_append] at hliteral
    exact hliteral
  · intro hread
    refine ⟨by simp, by simp, ?_⟩
    intro other hother before rest hrest
    simp only [Except.ok.injEq, Prod.mk.injEq, true_and] at hother
    subst other
    rw [literalAt_append]
    exact hread rest hrest

theorem injectionSafe_nullHandle
    (read : Reader UInt8) (inputString : List UInt8) :
    InjectionSafe read inputString (.error .nullHandle) := by
  constructor
  · simp
  · simp
  · simp

theorem injectionSafe_ok_false
    (read : Reader UInt8) (inputString escaped : List UInt8) :
    InjectionSafe read inputString (.ok (false, escaped)) := by
  constructor
  · simp
  · simp
  · simp

/-- A MariaDB text shorter than the first lost length, or a SQLite text without
a quote and without NUL; the MariaDB branch also does no harm where it has no
handle or no memory to work with. -/
def EscapesCleanly (runtime : EscapeRuntime) (db : CDatabase)
    (inputString : List UInt8) : Prop :=
  match db.databaseType with
  | .mariadb =>
      runtime.malloc ((inputString.length * 2 + 5) % 2 ^ 64) = none ∨
        db.pointedDb = none ∨ inputString.length < runtime.longWidth.firstLost
  | .sqlite => 39 ∉ inputString ∧ 0 ∉ inputString

theorem injectionSafe_mysqlEscape_iff
    {readOf : EDatabaseType → Reader UInt8} {decode : UInt8 → UInt8}
    (hliterals : LiteralsDocumented readOf decode)
    (text inputString : List UInt8) :
    InjectionSafe (readOf .mariadb) inputString (.ok (true, mysqlEscape text)) ↔
      text = inputString := by
  have hread : ∀ rest : List UInt8, rest.head? ≠ some 39 →
      readOf .mariadb (mysqlEscape text ++ 39 :: rest) = some (text, rest) := by
    intro rest hrest
    apply hliterals.mariadb.read_escaped hliterals.mariadb_decode _ text hrest
    intro byte hcode
    exact not_mysqlReserved_of_mysqlEscapeCode_eq_none hcode
  rw [injectionSafe_ok_true_iff]
  constructor
  · intro hall
    have hinput := hall [] (by simp)
    rw [hread [] (by simp)] at hinput
    simpa using hinput
  · intro htext rest hrest
    rw [hread rest hrest, htext]

/-- A length that does not survive the conversions leaves a shorter literal or
overruns a buffer. -/
theorem not_injectionSafe_of_firstLost_le
    {runtime : EscapeRuntime} (hruntime : runtime.Documented)
    {readOf : EDatabaseType → Reader UInt8} {decode : UInt8 → UInt8}
    (hliterals : LiteralsDocumented readOf decode) {db : CDatabase}
    (htype : db.databaseType = .mariadb) {handle : ℕ}
    (hhandle : db.pointedDb = some handle) {inputString block : List UInt8}
    (hmalloc :
      runtime.malloc ((inputString.length * 2 + 5) % 2 ^ 64) = some block)
    (hlost : runtime.longWidth.firstLost ≤ inputString.length)
    (hmax : inputString.length < 2 ^ 63) :
    ¬ InjectionSafe (readOf .mariadb) inputString
      (mdkEscapeQueryString runtime db inputString) := by
  intro hsafe
  rcases LongWidth.passedLength_of_le hlost hmax with hshort | hlong
  · by_cases hwrite :
        (mysqlEscape (inputString.take
          (runtime.longWidth.passedLength inputString.length))).length <
            block.length
    · rw [mdkEscapeQueryString_mariadb hruntime htype hhandle hmalloc rfl
        (Nat.le_of_lt hshort) hwrite,
        injectionSafe_mysqlEscape_iff hliterals] at hsafe
      have htake := congrArg List.length hsafe
      rw [List.length_take] at htake
      omega
    · apply hsafe.writes_inside
      exact mdkEscapeQueryString_writesPast hruntime htype hhandle hmalloc rfl
        (Nat.le_of_lt hshort) (Nat.le_of_not_lt hwrite)
  · apply hsafe.reads_inside
    exact mdkEscapeQueryString_readsPast htype hhandle hmalloc hlong

theorem injectionSafe_of_lt_firstLost
    {runtime : EscapeRuntime} (hruntime : runtime.Documented)
    {readOf : EDatabaseType → Reader UInt8} {decode : UInt8 → UInt8}
    (hliterals : LiteralsDocumented readOf decode) {db : CDatabase}
    (htype : db.databaseType = .mariadb) {handle : ℕ}
    (hhandle : db.pointedDb = some handle) {inputString block : List UInt8}
    (hmalloc :
      runtime.malloc ((inputString.length * 2 + 5) % 2 ^ 64) = some block)
    (hkept : inputString.length < runtime.longWidth.firstLost) :
    InjectionSafe (readOf .mariadb) inputString
      (mdkEscapeQueryString runtime db inputString) := by
  have hfirst : runtime.longWidth.firstLost ≤ 2 ^ 32 := by
    cases runtime.longWidth with
    | bits32 => simp [LongWidth.firstLost]
    | bits64 => simp [LongWidth.firstLost]
  have hsize : block.length = inputString.length * 2 + 5 := by
    rw [hruntime.malloc_length _ block hmalloc]
    omega
  have hwrite :
      (mysqlEscape (inputString.take inputString.length)).length <
        block.length := by
    have hescape := mysqlEscape_length_le (inputString.take inputString.length)
    rw [List.length_take] at hescape
    omega
  rw [mdkEscapeQueryString_mariadb hruntime htype hhandle hmalloc
    (LongWidth.passedLength_of_lt hkept) (Nat.le_refl _) hwrite,
    injectionSafe_mysqlEscape_iff hliterals]
  exact List.take_length

theorem mdkEscapeQueryString_injectionSafe_iff
    {runtime : EscapeRuntime} (hruntime : runtime.Documented)
    {readOf : EDatabaseType → Reader UInt8} {decode : UInt8 → UInt8}
    (hliterals : LiteralsDocumented readOf decode)
    (db : CDatabase) {inputString : List UInt8}
    (hmax : inputString.length < 2 ^ 63) :
    InjectionSafe (readOf db.databaseType) inputString
        (mdkEscapeQueryString runtime db inputString) ↔
      EscapesCleanly runtime db inputString := by
  cases htype : db.databaseType with
  | sqlite =>
      rw [mdkEscapeQueryString_sqlite runtime htype, injectionSafe_ok_true_iff]
      simp only [EscapesCleanly, htype]
      constructor
      · intro hread
        exact (hliterals.sqlite.read_verbatim_iff (by decide) (by simp)).mp
          (hread [] (by simp))
      · intro habsent rest hrest
        exact (hliterals.sqlite.read_verbatim_iff (by decide) hrest).mpr habsent
  | mariadb =>
      simp only [EscapesCleanly, htype]
      cases hmalloc : runtime.malloc ((inputString.length * 2 + 5) % 2 ^ 64) with
      | none =>
          have hcall : mdkEscapeQueryString runtime db inputString =
              .ok (false, inputString) := by
            simp only [mdkEscapeQueryString, htype, hmalloc]
          rw [hcall]
          simp [injectionSafe_ok_false]
      | some block =>
          cases hhandle : db.pointedDb with
          | none =>
              have hcall : mdkEscapeQueryString runtime db inputString =
                  .error .nullHandle := by
                simp only [mdkEscapeQueryString, htype, hmalloc, hhandle,
                  EscapeRuntime.mysqlRealEscapeString]
              rw [hcall]
              simp [injectionSafe_nullHandle]
          | some handle =>
              simp only [reduceCtorEq, false_or]
              constructor
              · intro hsafe
                by_contra hlost
                exact not_injectionSafe_of_firstLost_le hruntime hliterals htype
                  hhandle hmalloc (Nat.le_of_not_lt hlost) hmax hsafe
              · intro hkept
                exact injectionSafe_of_lt_firstLost hruntime hliterals htype
                  hhandle hmalloc hkept

/-! ## Concrete third parties -/

def mysqlDecode (code : UInt8) : UInt8 :=
  if code = 48 then 0
  else if code = 110 then 10
  else if code = 114 then 13
  else if code = 90 then 26
  else code

def literalReader : EDatabaseType → Reader UInt8
  | .mariadb => readWith 39 0 (some 92) mysqlDecode
  | .sqlite => readWith 39 0 none mysqlDecode

theorem literalReader_documented :
    LiteralsDocumented literalReader mysqlDecode where
  mariadb := readWith_escapeReading (by decide) (by decide) (by decide) mysqlDecode
  mariadb_decode byte code hcode := by
    unfold mysqlEscapeCode at hcode
    split_ifs at hcode with hnul hnewline hreturn hsubstitute hquote
    · rw [← Option.some.inj hcode, hnul]
      decide
    · rw [← Option.some.inj hcode, hnewline]
      decide
    · rw [← Option.some.inj hcode, hreturn]
      decide
    · rw [← Option.some.inj hcode, hsubstitute]
      decide
    · rw [← Option.some.inj hcode]
      rcases hquote with hbyte | hbyte | hbyte
      all_goals
        rw [hbyte]
        decide
  sqlite := readWith_quoteDoubling (by decide) mysqlDecode

def zeroingRuntime : EscapeRuntime where
  malloc size := some (List.replicate size 0)
  realEscapeString _ text := mysqlEscape text
  longWidth := .bits64

theorem zeroingRuntime_documented : zeroingRuntime.Documented where
  malloc_length size block hmalloc := by
    simp only [zeroingRuntime, Option.some.injEq] at hmalloc
    rw [← hmalloc, List.length_replicate]
  realEscapeString_eq _ _ := rfl

/-- A quote, a backslash and a NUL, escaped for MariaDB. -/
theorem mdkEscapeQueryString_injectionSafe_quote :
    InjectionSafe (literalReader .mariadb) [39, 92, 0]
      (mdkEscapeQueryString zeroingRuntime ⟨some 1, .mariadb, 0⟩ [39, 92, 0]) :=
  (mdkEscapeQueryString_injectionSafe_iff zeroingRuntime_documented
    literalReader_documented ⟨some 1, .mariadb, 0⟩ (by simp)).mpr
    (Or.inr (Or.inr (by simp [zeroingRuntime, LongWidth.firstLost])))

/-- In SQLite the one-byte input of a quote ends its own literal. -/
theorem mdkEscapeQueryString_sqlite_quote_unsafe :
    ¬ InjectionSafe (literalReader .sqlite) [39]
      (mdkEscapeQueryString zeroingRuntime ⟨some 1, .sqlite, 0⟩ [39]) := by
  intro hsafe
  have hliteral := hsafe.literal [39] rfl [] [59] (by decide)
  revert hliteral
  decide

end MDK
