import Mathlib.Data.Nat.Notation

/-!
# The database object

The state of a `CDatabase` and the two ways the library can be compiled.  Every
build defines `__MARIADB__`: `Query.cpp` declares a `MYSQL_RES` outside any
conditional, so a build without the MariaDB headers does not compile.
-/

namespace MDK

/-- The engines compiled in: `__MARIADB__` alone, or with `__SQLITE__`. -/
inductive Build where
  | mariadb
  | mariadbSqlite
  deriving DecidableEq, Repr

def Build.hasSqlite : Build → Bool
  | .mariadb => false
  | .mariadbSqlite => true

inductive EDatabaseType where
  | mariadb
  | sqlite
  deriving DecidableEq, Repr

/-- `mdk_database`: the address of a client library handle, `none` for NULL. -/
abbrev DatabasePointer := Option ℕ

structure CDatabase where
  pointedDb : DatabasePointer
  databaseType : EDatabaseType
  protocol : ℕ
  deriving DecidableEq, Repr

/-- The constructor: `__MARIADB__` is defined in every build. -/
def CDatabase.new : CDatabase where
  pointedDb := none
  databaseType := .mariadb
  protocol := 0

/-- The engine branch that the conditionals of `Query.cpp` select. -/
def CDatabase.engine (build : Build) (db : CDatabase) : Option EDatabaseType :=
  match db.databaseType with
  | .mariadb => some .mariadb
  | .sqlite => if build.hasSqlite then some .sqlite else none

end MDK
