import RustDns.Text

/-!
# The columns that the migrations give the clients

`db/migrations`: the statements that create the table `clients` or change the type
of one of its columns, in order.  `sqlx` checks the type of a column when it decodes
a row: an `i32` is only read from an `INTEGER`, a `bool` only from a `BOOLEAN`.  The
handler reads `filter_enabled` as an `i32`, but after the migrations it is a
`BOOLEAN` (`columnType_filter_enabled`).
-/

namespace RustDns.Schema

/-- The PostgreSQL column types that occur. -/
inductive ColumnType where
  | integer
  | text
  | boolean
deriving DecidableEq

/-- The statements that change the columns of a table. -/
inductive Ddl where
  /-- `CREATE TABLE IF NOT EXISTS`. -/
  | createTable (table : String) (columns : List (String × ColumnType))
  /-- `ALTER TABLE … ALTER COLUMN … TYPE`, if the column still has the type `source`. -/
  | alterTypeFrom (table column : String) (source type : ColumnType)

/-- The tables with the types of their columns. -/
abbrev Tables := List (Str × List (Str × ColumnType))

/-- The effect of a statement. -/
def Ddl.execute (tables : Tables) : Ddl → Tables
  | createTable table columns =>
    if tables.any (·.1 == str table) then tables
    else tables ++ [(str table, columns.map fun entry => (str entry.1, entry.2))]
  | alterTypeFrom table column source type =>
    tables.map fun entry =>
      if entry.1 = str table then
        (entry.1, entry.2.map fun old =>
          if old.1 = str column ∧ old.2 = source then (old.1, type) else old)
      else entry

open Ddl ColumnType

/-- The statements about the clients, file by file. -/
def migrations : List Ddl :=
  [ -- 001_initial
    createTable "clients" [("id", text), ("name", text), ("identifiers", text),
      ("upstreams", text), ("filter_enabled", integer), ("tags", text), ("created_at", text),
      ("updated_at", text)],
    -- 028_fix_boolean_columns
    alterTypeFrom "clients" "filter_enabled" integer boolean ]

/-- The tables after all migrations. -/
def migrated : Tables := migrations.foldl Ddl.execute []

/-- The type of a column. -/
def columnType (tables : Tables) (table column : String) : Option ColumnType :=
  (tables.lookup (str table)).bind (List.lookup (str column))

theorem columnType_filter_enabled :
    columnType migrated "clients" "filter_enabled" = some .boolean := by
  decide +kernel

end RustDns.Schema
