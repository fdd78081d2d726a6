import MDK.DatabaseConnection
import MDK.HistoryReadout
import MDK.QueryEscape
import MDK.QuerySuccess

/-!
# Texts through the database and back

A program writes texts with `mdk_escape_query_string` and `mdk_only_run_query`
and reads them with `ExecuteQuery` and the documented loop.  The engine is a
parameter: it stores the value of the literal that it reads, and hands a text
out with a NUL behind it.  In MariaDB a NUL inside of a text survives the way
in, and the way out ends at it.
-/

namespace MDK

open CString LiteralLexing

/-! ## The program -/

/-- The statements of the program: one text goes between `before` and `rest`. -/
structure TextStatements where
  before : List UInt8
  rest : List UInt8
  select : List UInt8
  zero_notMem_before : 0 ∉ before
  zero_notMem_rest : 0 ∉ rest
  rest_head : rest.head? ≠ some 39

def TextStatements.insert (statements : TextStatements)
    (escaped : List UInt8) : List UInt8 :=
  statements.before ++ 39 :: (escaped ++ 39 :: statements.rest)

/-- What `mysql_query` or `sqlite3_exec` answers to a text in a state of the
engine, what a select finds, and the texts stored there. -/
structure SqlServer (State : Type) where
  exec : State → List UInt8 → ℤ × State
  select : State → List UInt8 → ClientAnswers
  texts : State → List (List UInt8)

section Program

variable {State : Type} (runtime : EscapeRuntime) (build : Build)
  (server : SqlServer State) (statements : TextStatements)

/-- `none` where the library has returned false. -/
def writeTexts : DatabaseSession → State → List (List UInt8) →
    Except EscapeFault (Option (DatabaseSession × State))
  | session, state, [] => .ok (some (session, state))
  | session, state, text :: texts =>
      match mdkEscapeQueryString runtime session.db text with
      | .error fault => .error fault
      | .ok (false, _) => .ok none
      | .ok (true, escaped) =>
          let sql := statements.insert escaped
          let answered := server.exec state (cString sql)
          match session.mdkOnlyRunQuery build sql ⟨answered.1, answered.1⟩ with
          | (false, _) => .ok none
          | (true, session) => writeTexts session answered.2 texts

/-- `ExecuteQuery` on a fresh object. -/
def readTexts (session : DatabaseSession) (state : State) : Execution :=
  (session.executeQuery build .new statements.select
    (server.select state statements.select)).1

end Program

/-! ## What the engine promises -/

/-- A row with one text, handed out with a NUL behind it. -/
def textRow (text : List UInt8) : FetchedRow 1 := fun _ => some (text ++ [0])

def textAnswers (texts : List (List UInt8)) : ClientAnswers where
  mariadb :=
    { query := 0
      stored := some
        { rowCount := texts.length
          fields := 1
          fetched := texts.map textRow
          fetched_le := Nat.le_of_eq (List.length_map _)
          fetched_nil := fun hzero => absurd hzero Nat.one_ne_zero } }
  sqlite :=
    { prepare := sqliteOk
      stmt := some
        { fields := 1
          rows := texts.map textRow
          last := sqliteDone
          last_ne_row := sqliteDone_ne_sqliteRow
          rows_nil := fun hzero => absurd hzero Nat.one_ne_zero } }

structure SqlServer.StoresTexts {State : Type} (server : SqlServer State)
    (read : Reader UInt8) (statements : TextStatements) : Prop where
  inserts : ∀ state body text, read body = some (text, statements.rest) →
    (server.exec state (statements.before ++ 39 :: body)).1 = 0 ∧
      server.texts (server.exec state (statements.before ++ 39 :: body)).2 =
        server.texts state ++ [text]
  selects : ∀ state,
    server.select state statements.select = textAnswers (server.texts state)

/-! ## The way in -/

/-- What the program relies on for a text.  In MariaDB its length survives the
conversions and there is memory for its escape; in SQLite, where nothing is
escaped, it holds neither a quote nor a NUL. -/
def Writable (runtime : EscapeRuntime) (type : EDatabaseType)
    (text : List UInt8) : Prop :=
  match type with
  | .mariadb =>
      text.length < runtime.longWidth.firstLost ∧
        (runtime.malloc ((text.length * 2 + 5) % 2 ^ 64)).isSome
  | .sqlite => 39 ∉ text ∧ 0 ∉ text

theorem mdkEscapeQueryString_of_lt_firstLost
    {runtime : EscapeRuntime} (hruntime : runtime.Documented) {db : CDatabase}
    (htype : db.databaseType = .mariadb) {handle : ℕ}
    (hhandle : db.pointedDb = some handle) {text block : List UInt8}
    (hmalloc : runtime.malloc ((text.length * 2 + 5) % 2 ^ 64) = some block)
    (hkept : text.length < runtime.longWidth.firstLost) :
    mdkEscapeQueryString runtime db text = .ok (true, mysqlEscape text) := by
  have hfirst : runtime.longWidth.firstLost ≤ 2 ^ 32 := by
    cases runtime.longWidth with
    | bits32 => simp [LongWidth.firstLost]
    | bits64 => simp [LongWidth.firstLost]
  have hsize : block.length = text.length * 2 + 5 := by
    rw [hruntime.malloc_length _ block hmalloc]
    omega
  have hwrite : (mysqlEscape (text.take text.length)).length < block.length := by
    have hescape := mysqlEscape_length_le (text.take text.length)
    rw [List.length_take] at hescape
    omega
  rw [mdkEscapeQueryString_mariadb hruntime htype hhandle hmalloc
    (LongWidth.passedLength_of_lt hkept) le_rfl hwrite, List.take_length]

/-- The library escapes such a text to one without NUL that the engine reads
back. -/
theorem Writable.escapes
    {runtime : EscapeRuntime} (hruntime : runtime.Documented)
    {readOf : EDatabaseType → Reader UInt8} {decode : UInt8 → UInt8}
    (hliterals : LiteralsDocumented readOf decode) {db : CDatabase}
    {handle : ℕ} (hhandle : db.pointedDb = some handle) {text : List UInt8}
    (htext : Writable runtime db.databaseType text) :
    ∃ escaped, mdkEscapeQueryString runtime db text = .ok (true, escaped) ∧
      0 ∉ escaped ∧ ∀ rest : List UInt8, rest.head? ≠ some 39 →
        readOf db.databaseType (escaped ++ 39 :: rest) = some (text, rest) := by
  cases htype : db.databaseType with
  | mariadb =>
      rw [htype] at htext
      obtain ⟨block, hmalloc⟩ := Option.isSome_iff_exists.mp htext.2
      refine ⟨mysqlEscape text, ?_, zero_notMem_mysqlEscape text, ?_⟩
      · exact mdkEscapeQueryString_of_lt_firstLost hruntime htype hhandle
          hmalloc htext.1
      · exact injectionSafe_ok_true_iff.mp
          ((injectionSafe_mysqlEscape_iff hliterals text text).mpr rfl)
  | sqlite =>
      rw [htype] at htext
      refine ⟨text, mdkEscapeQueryString_sqlite runtime htype text, htext.2, ?_⟩
      intro rest hrest
      exact hliterals.sqlite.read_verbatim htext.1 htext.2 hrest

theorem mdkOnlyRunQuery_of_success
    {session : DatabaseSession} {build : Build}
    (hengine : session.db.engine build = some session.db.databaseType)
    {handle : ℕ} (hhandle : session.db.pointedDb = some handle)
    (sql : List UInt8) :
    ∃ later, session.mdkOnlyRunQuery build sql ⟨0, 0⟩ = (true, later) ∧
      later.db = session.db := by
  cases htype : session.db.databaseType with
  | mariadb =>
      rw [htype] at hengine
      refine ⟨session.log
        [.query (.mysqlQuery session.db.pointedDb (cString sql) 0)], ?_, rfl⟩
      simp [DatabaseSession.mdkOnlyRunQuery, hhandle, hengine]
  | sqlite =>
      rw [htype] at hengine
      refine ⟨session.log
        [.sqliteExec session.db.pointedDb (cString sql) 0], ?_, rfl⟩
      simp [DatabaseSession.mdkOnlyRunQuery, hhandle, hengine, sqliteOk]

/-- The whole statement reaches the engine. -/
theorem TextStatements.cString_insert
    (statements : TextStatements) {escaped : List UInt8}
    (hescaped : 0 ∉ escaped) :
    cString (statements.insert escaped) = statements.insert escaped := by
  rw [cString_eq_self_iff]
  simp [TextStatements.insert, statements.zero_notMem_before,
    statements.zero_notMem_rest, hescaped]

section WayIn

variable {State : Type} {runtime : EscapeRuntime}
  (hruntime : runtime.Documented)
  {readOf : EDatabaseType → Reader UInt8} {decode : UInt8 → UInt8}
  (hliterals : LiteralsDocumented readOf decode)
  {server : SqlServer State} {statements : TextStatements}

include hruntime hliterals

/-- The induction is on the texts still to be written; the object keeps its
handle and its type. -/
theorem writeTexts_stores
    {db : CDatabase} {build : Build}
    (hserver : server.StoresTexts (readOf db.databaseType) statements)
    (hengine : db.engine build = some db.databaseType)
    {handle : ℕ} (hhandle : db.pointedDb = some handle)
    (texts : List (List UInt8))
    (htexts : ∀ text ∈ texts, Writable runtime db.databaseType text)
    (session : DatabaseSession) (hdb : session.db = db) (state : State) :
    ∃ later final,
      writeTexts runtime build server statements session state texts =
        .ok (some (later, final)) ∧
      later.db = db ∧ server.texts final = server.texts state ++ texts := by
  induction texts generalizing session state with
  | nil => exact ⟨session, state, rfl, hdb, (List.append_nil _).symm⟩
  | cons text texts ih =>
      obtain ⟨escaped, hescape, hzero, hread⟩ :=
        Writable.escapes hruntime hliterals hhandle (htexts text (by simp))
      obtain ⟨hexec, hstored⟩ := hserver.inserts state _ text
        (hread statements.rest statements.rest_head)
      subst hdb
      obtain ⟨next, hrun, hnext⟩ := mdkOnlyRunQuery_of_success hengine hhandle
        (statements.insert escaped)
      obtain ⟨later, final, hwrite, hlater, hfinal⟩ :=
        ih (fun other hmem => htexts other (by simp [hmem])) next hnext
          (server.exec state (statements.insert escaped)).2
      have hanswer : (server.exec state (statements.insert escaped)).1 = 0 :=
        hexec
      refine ⟨later, final, ?_, hlater, ?_⟩
      · simp only [writeTexts, hescape, statements.cString_insert hzero,
          hanswer, hrun]
        exact hwrite
      · have hinserted : server.texts
            (server.exec state (statements.insert escaped)).2 =
              server.texts state ++ [text] := hstored
        rw [hfinal, hinserted, List.append_assoc, List.singleton_append]

end WayIn

/-! ## The way out -/

theorem cString_append_singleton_zero (text : List UInt8) :
    cString (text ++ [0]) = cString text := by
  unfold cString
  rw [List.takeWhile_append]
  split_ifs with hlength
  · have hself := (List.takeWhile_prefix
      (fun byte : UInt8 => byte != 0)).eq_of_length hlength
    rw [hself]
    simp
  · rfl

theorem nullFree_textRow (text : List UInt8) : NullFree (textRow text) :=
  fun _ => rfl

theorem rowTexts_textRow (text : List UInt8) :
    rowTexts (textRow text) = [cString text] := by
  simp [rowTexts, textRow, cellText, cString_append_singleton_zero,
    List.finRange_succ]

/-- The loop of either engine on these rows. -/
theorem finish_textRow
    (fetch : Bool → ClientCall) (texts : List (List UInt8))
    (before : List ClientCall) (release : ClientCall) :
    let execution :=
      (fetchLoop fetch .new (texts.map textRow)).finish before release
    execution.returned = .ok true ∧
      execution.resultSet.vvRows = texts.map fun text => [cString text] := by
  have hnull : ∀ row ∈ texts.map textRow, NullFree row := by
    intro row hmem
    obtain ⟨text, _, rfl⟩ := List.mem_map.mp hmem
    exact nullFree_textRow text
  have hrows : (texts.map textRow).map rowTexts =
      texts.map fun text => [cString text] := by
    rw [List.map_map]
    exact List.map_congr_left fun text _ => rowTexts_textRow text
  rw [finish_of_nullFree hnull]
  exact ⟨rfl, hrows⟩

/-- Only SQLite reports a select without rows as a failure. -/
theorem executeQuery_textAnswers
    {db : CDatabase} {build : Build}
    (hengine : db.engine build = some db.databaseType)
    (sql : List UInt8) (texts : List (List UInt8)) :
    let execution :=
      CResultSet.new.executeQuery build db sql (textAnswers texts)
    (execution.returned = .ok true ↔
        db.databaseType = .mariadb ∨ texts ≠ []) ∧
      execution.resultSet.vvRows = texts.map fun text => [cString text] := by
  have hfetched : texts ≠ [] → texts.map textRow ≠ [] := by simp
  cases htype : db.databaseType with
  | mariadb =>
      rw [htype] at hengine
      simp only [CResultSet.executeQuery, hengine, true_or, iff_true]
      by_cases hempty : texts = []
      · rw [hempty, executeMariaDB_of_noCells .new db.pointedDb sql rfl rfl
          (Or.inl rfl)]
        exact ⟨rfl, rfl⟩
      · rw [executeMariaDB_of_rows .new db.pointedDb sql rfl rfl
          Nat.one_ne_zero (hfetched hempty)]
        exact finish_textRow _ texts _ _
  | sqlite =>
      rw [htype] at hengine
      simp only [CResultSet.executeQuery, hengine, reduceCtorEq, false_or]
      by_cases hempty : texts = []
      · rw [hempty, executeSqlite_of_noRows .new db.pointedDb sql rfl rfl
          Nat.one_ne_zero rfl]
        simp [CResultSet.new]
      · rw [executeSqlite_of_rows .new db.pointedDb sql rfl rfl
          Nat.one_ne_zero (hfetched hempty)]
        have hfinish := finish_textRow
          (SqliteStmt.stepCall ⟨1, texts.map textRow, sqliteDone,
            sqliteDone_ne_sqliteRow, fun hzero => absurd hzero Nat.one_ne_zero⟩)
          texts [.sqlitePrepare db.pointedDb sql (toInt sql.length) sqliteOk true,
            .sqliteStep sqliteRow] (.sqliteFinalize true)
        exact ⟨iff_of_true hfinish.1 hempty, hfinish.2⟩

theorem takeColumns_one (rows : List Cell) :
    takeColumns 1 (rows.map fun cell => [cell]) =
      .ok (rows.map fun cell => [cell]) := by
  unfold takeColumns
  rw [if_pos (by simp)]
  simp

/-- Texts written one after another come back in their order, each up to its
first NUL: all of them unchanged exactly where none holds a NUL.  Where nothing
was written, the read returns true in MariaDB and false in SQLite. -/
theorem readTexts_of_writeTexts
    {State : Type} {runtime : EscapeRuntime} (hruntime : runtime.Documented)
    {readOf : EDatabaseType → Reader UInt8} {decode : UInt8 → UInt8}
    (hliterals : LiteralsDocumented readOf decode)
    {server : SqlServer State} {statements : TextStatements} (build : Build)
    (session : DatabaseSession)
    (hserver :
      server.StoresTexts (readOf session.db.databaseType) statements)
    (hengine : session.db.engine build = some session.db.databaseType)
    {handle : ℕ} (hhandle : session.db.pointedDb = some handle)
    (texts : List (List UInt8))
    (htexts : ∀ text ∈ texts, Writable runtime session.db.databaseType text)
    (hfits : texts.length ≤ vectorMaxSize)
    (state : State) (hstate : server.texts state = []) :
    ∃ later final,
      writeTexts runtime build server statements session state texts =
        .ok (some (later, final)) ∧
      ((readTexts build server statements later final).returned = .ok true ↔
        session.db.databaseType = .mariadb ∨ texts ≠ []) ∧
      ∀ fuel, texts.length ≤ fuel →
        let read := readOut 1 fuel
          (readTexts build server statements later final).resultSet
        read = some (.ok (texts.map fun text => [cString text])) ∧
          (read = some (.ok (texts.map fun text => [text])) ↔
            ∀ text ∈ texts, 0 ∉ text) := by
  obtain ⟨later, final, hwrite, hlater, hfinal⟩ :=
    writeTexts_stores hruntime hliterals hserver hengine hhandle texts htexts
      session rfl state
  rw [hstate, List.nil_append] at hfinal
  have hread : readTexts build server statements later final =
      CResultSet.new.executeQuery build session.db statements.select
        (textAnswers texts) := by
    simp only [readTexts, DatabaseSession.executeQuery, hlater,
      hserver.selects, hfinal]
  obtain ⟨hreturned, hrows⟩ :=
    executeQuery_textAnswers hengine statements.select texts
  refine ⟨later, final, hwrite, ?_, ?_⟩
  · rw [hread]
    exact hreturned
  · intro fuel hfuel
    have hlength : (CResultSet.new.executeQuery build session.db
        statements.select (textAnswers texts)).resultSet.vvRows.length =
          texts.length := by
      rw [hrows, List.length_map]
    have htake := takeColumns_one (texts.map cString)
    rw [List.map_map] at htake
    have hout : readOut 1 fuel
        (readTexts build server statements later final).resultSet =
          some (.ok (texts.map fun text => [cString text])) := by
      rw [hread, readOut_takes (by omega) 1 (by omega), hrows]
      exact congrArg some htake
    refine ⟨hout, ?_⟩
    rw [hout, Option.some_inj, Except.ok.injEq, List.map_inj_left]
    simp only [List.cons.injEq, and_true, cString_eq_self_iff]

/-! ## An engine that keeps a list -/

def textStatements : TextStatements where
  before := [73]
  rest := [59]
  select := [83]
  zero_notMem_before := by decide
  zero_notMem_rest := by decide
  rest_head := by decide

/-- It reads the literal behind the first two bytes. -/
def listServer (type : EDatabaseType) : SqlServer (List (List UInt8)) where
  exec texts sql :=
    match literalReader type (sql.drop 2) with
    | some (text, _) => (0, texts ++ [text])
    | none => (1, texts)
  select texts _ := textAnswers texts
  texts texts := texts

theorem listServer_storesTexts (type : EDatabaseType) :
    (listServer type).StoresTexts (literalReader type) textStatements where
  inserts texts body text hread := by
    have hdrop : (textStatements.before ++ 39 :: body).drop 2 = body := rfl
    simp [listServer, hdrop, hread]
  selects _ := rfl

/-- The object of a successful `Connect`. -/
def connectedSession : DatabaseSession :=
  (DatabaseSession.new.connect .mariadb .mariadb ⟨none, 0, none, none, none⟩
    .success).2

/-- A text of a quote, and one with a NUL inside. -/
theorem readTexts_of_writeTexts_listServer :
    ∃ later final,
      writeTexts zeroingRuntime .mariadb (listServer .mariadb) textStatements
          connectedSession [] [[39], [65, 0, 66]] = .ok (some (later, final)) ∧
      readOut 1 2
          (readTexts .mariadb (listServer .mariadb) textStatements later
            final).resultSet =
        some (.ok [[[39]], [[65]]]) := by
  have hwritable : ∀ text ∈ [[39], [65, 0, 66]],
      Writable zeroingRuntime .mariadb text := by
    simp [Writable, zeroingRuntime, LongWidth.firstLost]
  obtain ⟨later, final, hwrite, _, hread⟩ :=
    readTexts_of_writeTexts zeroingRuntime_documented literalReader_documented
      .mariadb connectedSession (listServer_storesTexts .mariadb) rfl rfl
      [[39], [65, 0, 66]] hwritable (by decide) [] rfl
  exact ⟨later, final, hwrite, (hread 2 (by decide)).1⟩

end MDK
