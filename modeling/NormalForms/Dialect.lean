import NormalForms.Text.Blank
import NormalForms.Text.Search

/-!
# SQL dialects

The dialects a script may be written in. `ofText?` accepts the canonical names
and some common aliases.
-/

namespace NormalForms

inductive Dialect where
  | generic
  | mySql
  | postgreSql
  | sqlite
  | msSql
  | ansi
  | snowflake
  | duckDb
  deriving DecidableEq, Repr

namespace Dialect

/-- Every dialect, in the order in which they are listed to users. -/
def all : List Dialect := [generic, mySql, postgreSql, sqlite, msSql, ansi, snowflake, duckDb]

def name : Dialect → String
  | generic => "generic"
  | mySql => "mysql"
  | postgreSql => "postgresql"
  | sqlite => "sqlite"
  | msSql => "mssql"
  | ansi => "ansi"
  | snowflake => "snowflake"
  | duckDb => "duckdb"

def ofText? (text : String) : Option Dialect :=
  match Text.lower (Text.trimmed text) with
  | "generic" => some generic
  | "mysql" | "mariadb" => some mySql
  | "postgresql" | "postgres" | "pg" => some postgreSql
  | "sqlite" => some sqlite
  | "mssql" | "sqlserver" | "tsql" => some msSql
  | "ansi" => some ansi
  | "snowflake" => some snowflake
  | "duckdb" => some duckDb
  | _ => none

/-- What is said of a text that names no dialect. -/
def unknownMessage (text : String) : String :=
  "unknown SQL dialect '" ++ Text.lower (Text.trimmed text) ++ "' (expected one of: " ++
    String.intercalate ", " (all.map name) ++ ")"

end Dialect

end NormalForms
