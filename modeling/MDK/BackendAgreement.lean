import MDK.QueryOutcome

/-!
# Agreement of the two engines

One outcome of a query, presented by either engine, need not come out of
`ExecuteQuery` the same.  The branches agree on errors and on tables with rows.
On a table without rows they return different values, and a statement without
columns is executed by MariaDB but never stepped on SQLite.
-/

namespace MDK

open CString

/-- The call executed the statement: MariaDB took the query, or a step of
SQLite came to a row or to the end. -/
def ClientCall.executes : ClientCall → Bool
  | .mysqlQuery _ _ result => result == 0
  | .sqliteStep result => result == sqliteRow || result == sqliteDone
  | _ => false

def Execution.executed (execution : Execution) : Bool :=
  execution.calls.any ClientCall.executes

section Outcomes

variable {client : ClientAnswers} (rs : CResultSet) (db : DatabasePointer)
  (sql : List UInt8)

end Outcomes

end MDK
