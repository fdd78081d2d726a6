import MDK.QueryExecution
import MDK.StepSystem

/-!
# Call histories of a result set

The public calls on one `CResultSet`, as the events of a step system whose
state also remembers what the most recent move returned.  An execution leaves
an object like a fresh one exactly when the object it started from had no rows
and its cursor at zero: `ExecuteQuery` clears neither.
-/

namespace MDK

open StepSystem

inductive CResultSet.Call where
  | executeQuery (build : Build) (db : CDatabase) (sql : List UInt8)
      (client : ClientAnswers)
  | gotoFirstRow
  | gotoNextRow
  | gotoRow (row : UInt64)

structure CursorState where
  resultSet : CResultSet
  lastMove : Option Bool

def CursorState.initial (rs : CResultSet) : CursorState := ⟨rs, none⟩

def CursorState.moved (move : Bool × CResultSet) : CursorState :=
  ⟨move.2, some move.1⟩

/-- No public call on a result set is refused. -/
def CursorState.step (state : CursorState) :
    CResultSet.Call → Except Empty CursorState
  | .executeQuery build db sql client =>
      .ok { state with
        resultSet := (state.resultSet.executeQuery build db sql client).resultSet }
  | .gotoFirstRow => .ok (CursorState.moved state.resultSet.gotoFirstRow)
  | .gotoNextRow => .ok (CursorState.moved state.resultSet.gotoNextRow)
  | .gotoRow row => .ok (CursorState.moved (state.resultSet.gotoRow row))

theorem CursorState.exists_run
    (state : CursorState) (calls : List CResultSet.Call) :
    ∃ final, run CursorState.step state calls = .ok final := by
  cases hrun : run CursorState.step state calls with
  | ok final => exact ⟨final, rfl⟩
  | error stop => exact stop.elim

/-! ## What the public methods show -/

inductive CResultSet.Probe where
  | getTotalRows
  | gotoFirstRow
  | gotoNextRow
  | gotoRow (row : UInt64)
  | getFromRow (index : ℕ)

inductive CResultSet.Reply where
  | total (rows : ℕ)
  | moved (success : Bool)
  | read (cell : Except CppException (Option Cell))

/-- Every getter is a function of the reply to `getFromRow`. -/
def CResultSet.reply (rs : CResultSet) : Probe → Reply × CResultSet
  | .getTotalRows => (.total rs.getTotalRows, rs)
  | .gotoFirstRow => (.moved rs.gotoFirstRow.1, rs.gotoFirstRow.2)
  | .gotoNextRow => (.moved rs.gotoNextRow.1, rs.gotoNextRow.2)
  | .gotoRow row => (.moved (rs.gotoRow row).1, (rs.gotoRow row).2)
  | .getFromRow index => (.read (rs.getFromRow index), rs)

def CResultSet.replies : CResultSet → List Probe → List Reply
  | _, [] => []
  | rs, probe :: rest =>
      (rs.reply probe).1 :: replies (rs.reply probe).2 rest

def CResultSet.Indistinguishable (left right : CResultSet) : Prop :=
  ∀ probes, left.replies probes = right.replies probes

/-! ## Rows left by a history -/

/-- The rows that a call appends, on whatever object it is made. -/
def CResultSet.Call.appended : CResultSet.Call → List (List Cell)
  | .executeQuery build db sql client =>
      (CResultSet.new.executeQuery build db sql client).resultSet.vvRows
  | .gotoFirstRow => []
  | .gotoNextRow => []
  | .gotoRow _ => []

theorem CursorState.step_vvRows
    {state next : CursorState} {call : CResultSet.Call}
    (hstep : state.step call = .ok next) :
    next.resultSet.vvRows = state.resultSet.vvRows ++ call.appended := by
  cases call with
  | executeQuery build db sql client =>
      simp only [CursorState.step, Except.ok.injEq] at hstep
      subst next
      exact state.resultSet.executeQuery_vvRows build db sql client
  | gotoFirstRow =>
      simp only [CursorState.step, Except.ok.injEq] at hstep
      subst next
      simp [CursorState.moved, CResultSet.Call.appended]
  | gotoNextRow =>
      simp only [CursorState.step, Except.ok.injEq] at hstep
      subst next
      simp [CursorState.moved, CResultSet.Call.appended]
  | gotoRow row =>
      simp only [CursorState.step, Except.ok.injEq] at hstep
      subst next
      simp [CursorState.moved, CResultSet.Call.appended]

theorem CursorState.run_vvRows
    {state final : CursorState} {calls : List CResultSet.Call}
    (hrun : run CursorState.step state calls = .ok final) :
    final.resultSet.vvRows =
      state.resultSet.vvRows ++ calls.flatMap CResultSet.Call.appended := by
  have hpres : Preserves CursorState.step (fun _ => True) (fun _ => True) :=
    fun _ _ _ _ _ _ => trivial
  exact hpres.run_observation
    (fun reached => reached.resultSet.vvRows) CResultSet.Call.appended
    (fun _ _ _ _ _ hstep => CursorState.step_vvRows hstep)
    trivial (fun _ _ => trivial) hrun

/-! ## Executing on a used object -/

/-- The execution leaves the object as a fresh object is left by the same
execution, with the cursor on the first row. -/
structure CResultSet.ExecutesLikeFresh
    (rs : CResultSet) (build : Build) (db : CDatabase) (sql : List UInt8)
    (client : ClientAnswers) : Prop where
  fresh_returned :
    (CResultSet.new.executeQuery build db sql client).returned = .ok true
  rows :
    (rs.executeQuery build db sql client).resultSet.vvRows =
      (CResultSet.new.executeQuery build db sql client).resultSet.vvRows
  cursor : (rs.executeQuery build db sql client).resultSet.uiPos = 0
  indistinguishable :
    (rs.executeQuery build db sql client).resultSet.Indistinguishable
      (CResultSet.new.executeQuery build db sql client).resultSet

theorem CResultSet.executesLikeFresh_iff
    {rs : CResultSet} {build : Build} {db : CDatabase} {sql : List UInt8}
    {client : ClientAnswers}
    (htrue : (rs.executeQuery build db sql client).returned = .ok true) :
    rs.ExecutesLikeFresh build db sql client ↔
      rs.vvRows = [] ∧ rs.uiPos = 0 := by
  constructor
  · intro hfresh
    constructor
    · have happend := hfresh.rows
      rw [rs.executeQuery_vvRows build db sql client] at happend
      simpa using happend
    · simpa using hfresh.cursor
  · rintro ⟨hempty, hzero⟩
    have hnew : rs = CResultSet.new := by
      rw [CResultSet.mk.injEq]
      exact ⟨hempty, hzero⟩
    subst rs
    exact ⟨htrue, rfl, by simp [CResultSet.new], fun _ => rfl⟩

/-- After any history of calls on one object, a successful execution leaves it
like a fresh one exactly when no earlier execution of the history appended a
row and the cursor is at zero. -/
theorem executeQuery_likeFresh_iff
    (history : List CResultSet.Call) (state : CursorState)
    (hhistory : run CursorState.step (.initial .new) history = .ok state)
    (build : Build) (db : CDatabase) (sql : List UInt8) (client : ClientAnswers)
    (htrue :
      (state.resultSet.executeQuery build db sql client).returned = .ok true) :
    state.resultSet.ExecutesLikeFresh build db sql client ↔
      (∀ call ∈ history, call.appended = []) ∧ state.resultSet.uiPos = 0 := by
  have hrows := CursorState.run_vvRows hhistory
  rw [CResultSet.executesLikeFresh_iff htrue, hrows]
  simp [CursorState.initial, CResultSet.new, List.flatMap_eq_nil_iff]

/-- A query answered with one row of one column, `1`. -/
def oneRowAnswers : ClientAnswers :=
  oneCellAnswers (some [49, 0]) sqliteDone sqliteDone_ne_sqliteRow

theorem executeQuery_likeFresh_first :
    CResultSet.new.ExecutesLikeFresh .mariadb .new [] oneRowAnswers ↔
      (∀ call ∈ ([] : List CResultSet.Call), call.appended = []) ∧
        CResultSet.new.uiPos = 0 :=
  executeQuery_likeFresh_iff [] (.initial .new) rfl .mariadb .new [] oneRowAnswers
    (by decide)

/-- The second of two executions shows the row of the first one before its
own. -/
theorem executeQuery_again_not_likeFresh :
    ¬ ∀ (history : List CResultSet.Call) (state : CursorState),
      run CursorState.step (.initial .new) history = .ok state →
      ∀ (build : Build) (db : CDatabase) (sql : List UInt8)
        (client : ClientAnswers),
      (state.resultSet.executeQuery build db sql client).returned = .ok true →
      state.resultSet.ExecutesLikeFresh build db sql client := by
  intro hall
  have hagain := hall [.executeQuery .mariadb .new [] oneRowAnswers]
    ⟨⟨[[[49]]], 0⟩, none⟩ rfl .mariadb .new [] oneRowAnswers (by decide)
  have hrows := hagain.rows
  revert hrows
  decide

end MDK
