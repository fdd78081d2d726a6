import MDK.QueryRoundTrip
import MDK.StatementLexing

/-!
# Statements with texts

A program composes a statement of code and of texts, each text passed through
`mdk_escape_query_string`, and runs it with `mdk_only_run_query`.  The engine
gets the statement up to its first NUL.  What it should read there are the pieces
that the program meant.
-/

namespace MDK

open CString LiteralLexing

/-- The statement that a call hands to the engine. -/
def DatabaseCall.statement? : DatabaseCall → Option (List UInt8)
  | .query (.mysqlQuery _ sql _) => some sql
  | .sqliteExec _ sql _ => some sql
  | _ => none

def DatabaseSession.statements (session : DatabaseSession) :
    List (List UInt8) :=
  session.calls.filterMap DatabaseCall.statement?

/-- What becomes of a text before it is sent. -/
def EDatabaseType.escape : EDatabaseType → List UInt8 → List UInt8
  | .mariadb => mysqlEscape
  | .sqlite => id

end MDK
