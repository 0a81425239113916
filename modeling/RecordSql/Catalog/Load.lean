import RecordSql.Catalog.Basic
import RecordSql.Catalog.Query
import RecordSql.Text.Blank
import RecordSql.Text.Number

namespace RecordSql

inductive CatalogError where
  | connection (error : ConnectionError)
  | invalidValue (query field value : String)
  | invalidVersion (value : String)
  | noRows (query : String)
  deriving DecidableEq, Repr

def CatalogError.message : CatalogError → String
  | connection error => s!"catalogue introspection failed: {error.message}"
  | invalidValue query field value => s!"unexpected value '{value}' for {field} in {query} query"
  | invalidVersion value => s!"invalid server_version_num '{value}'"
  | noRows query => s!"query '{query}' returned no rows"

instance : MonadLift (Except ConnectionError) (Except CatalogError) where
  monadLift result := result.mapError .connection

def Row.smallInt (row : Row) (index : Nat) (query field : String) : Except CatalogError Int := do
  let value ← row.int index
  if -32768 ≤ value ∧ value < 32768 then return value
  else throw (.invalidValue query field (toString value))

def decodeChar {α : Type} (read : Char → Option α) (query field : String) (c : Char) :
    Except CatalogError α :=
  match read c with
  | some a => .ok a
  | none => .error (.invalidValue query field (String.singleton c))

def CatalogType.ofRow (row : Row) : Except CatalogError CatalogType := do
  let kind ← row.char 4
  let category ← row.char 5
  let oid ← row.oid 0
  let name ← row.text 1
  let formattedName ← row.text 2
  let length ← row.smallInt 3 "types" "typlen"
  let kind ← decodeChar TypeClass.ofChar? "types" "typtype" kind
  let category ← decodeChar TypeCategory.ofChar? "types" "typcategory" category
  let element ← row.oid 6
  let preferred ← row.bool 7
  return { oid, name, formattedName, length, kind, category, element, preferred }

def CatalogOperator.ofRow (row : Row) : Except CatalogError CatalogOperator := do
  let name ← row.text 0
  let left ← row.oid 1
  let right ← row.oid 2
  let result ← row.oid 3
  return { name, left, right, result }

def CatalogCast.ofRow (row : Row) : Except CatalogError CatalogCast := do
  let context ← row.char 2
  let target ← row.oid 0
  let source ← row.oid 1
  let context ← decodeChar CastContext.ofChar? "casts" "castcontext" context
  return { target, source, context }

def CatalogProcedure.ofRow (row : Row) : Except CatalogError (String × CatalogProcedure) := do
  let name ← row.text 0
  let arg ← row.oid 1
  let result ← row.oid 2
  let aggregate ← row.bool 3
  return (name, { arg, result, aggregate })

namespace Catalog

def ask (server : Server) (query : Query) : Task CatalogError (List Row) :=
  (Task.ask server query).mapError .connection

def askEach {α : Type} (server : Server) (query : Query) (decode : Row → Except CatalogError α) :
    Task CatalogError (List α) := do
  let rows ← ask server query
  Task.ofExcept (rows.mapM decode)

def askFirst {α : Type} (server : Server) (query : Query) (label : String)
    (decode : Row → Except CatalogError α) : Task CatalogError α := do
  match ← ask server query with
  | row :: _ => Task.ofExcept (decode row)
  | [] => throw (.noRows label)

def currentDatabase (server : Server) : Task CatalogError String :=
  askFirst server currentDatabaseQuery "current_database" fun row => do return ← row.text 0

def readVersion (row : Row) : Except CatalogError Int := do
  let value ← row.text 0
  match Text.readI64? (Text.trimmed value) with
  | some version => return version
  | none => throw (.invalidVersion value)

def serverVersion (server : Server) : Task CatalogError Int :=
  askFirst server versionQuery "server_version_num" readVersion

def literalType (server : Server) (literal : String) : Task CatalogError Oid :=
  askFirst server (literalTypeQuery literal) "pg_typeof" fun row => do return ← row.oid 0

def load (server : Server) : Task CatalogError Catalog := do
  let version ← serverVersion server
  let types ← askEach server typesQuery CatalogType.ofRow
  let operators ← askEach server operatorsQuery CatalogOperator.ofRow
  let casts ← askEach server castsQuery CatalogCast.ofRow
  let procedureRows ← askEach server (proceduresQueryFor version) CatalogProcedure.ofRow
  return { types, operators, casts, procedureRows }

end Catalog

end RecordSql
