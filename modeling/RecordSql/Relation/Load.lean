import RecordSql.Check.Error
import RecordSql.Relation.Basic

namespace RecordSql

namespace Relation

def relationSql : String :=
  "SELECT c.oid, c.relkind::text FROM pg_catalog.pg_class c " ++
    "JOIN pg_catalog.pg_namespace n ON n.oid = c.relnamespace " ++
    "WHERE c.relname = $1 AND n.nspname = $2"

def columnsSql : String :=
  "SELECT a.attnum, a.attname::text, a.atttypmod, a.attndims, " ++
    "a.attnotnull, a.atthasdef, " ++
    "COALESCE((SELECT true FROM pg_catalog.pg_index i WHERE i.indrelid = a.attrelid " ++
    "AND i.indisprimary AND a.attnum = ANY(i.indkey) LIMIT 1), false), " ++
    "a.atttypid " ++
    "FROM pg_catalog.pg_attribute a " ++
    "WHERE a.attrelid = $1 AND a.attnum > 0 AND NOT a.attisdropped " ++
    "ORDER BY a.attnum"

def constraintsSql : String :=
  "SELECT c.oid, c.conname::text, c.contype::text, " ++
    "c.condeferrable, c.condeferred, c.conkey, c.confkey " ++
    "FROM pg_catalog.pg_constraint c WHERE c.conrelid = $1 ORDER BY c.oid"

def indexesSql : String :=
  "SELECT c.relname::text, i.indnatts, i.indisunique, " ++
    "i.indisprimary, i.indisexclusion, i.indimmediate, i.indisready, i.indkey::int2[], " ++
    "pg_catalog.pg_get_indexdef(i.indexrelid) " ++
    "FROM pg_catalog.pg_index i JOIN pg_catalog.pg_class c ON c.oid = i.indexrelid " ++
    "WHERE i.indrelid = $1 ORDER BY i.indexrelid"

def relationQuery (name space : String) : Query := ⟨relationSql, [.text name, .text space]⟩

def columnsQuery (oid : Oid) : Query := ⟨columnsSql, [.oid oid]⟩

def constraintsQuery (oid : Oid) : Query := ⟨constraintsSql, [.oid oid]⟩

def indexesQuery (oid : Oid) : Query := ⟨indexesSql, [.oid oid]⟩

end Relation

def Row.columnInt (row : Row) (index : Nat) : Except CatalogError Int := do
  let value ← row.int index
  if -2147483648 ≤ value ∧ value < 2147483648 then return value
  else throw (.invalidValue "columns" "int4" (toString value))

def ordinalOf (field : String) (value : Int) : Except CatalogError Int :=
  if -32768 ≤ value ∧ value < 32768 then .ok value
  else .error (.invalidValue "relation" field (toString value))

def Row.ordinals (row : Row) (index : Nat) (field : String) : Except CatalogError (List Int) := do
  (← row.intArray index).mapM (ordinalOf field)

def Column.headOfRow (row : Row) : Except CatalogError (String × Oid) := do
  let name ← row.text 1
  let oid ← row.oid 7
  return (name, oid)

def Column.ofTypedRow (name : String) (type : CatalogType) (row : Row) :
    Except CatalogError Column := do
  let ordinal ← row.smallInt 0 "columns" "attnum"
  let dims ← row.columnInt 3
  let typmod ← row.columnInt 2
  let notNull ← row.bool 4
  let hasDefault ← row.bool 5
  let isPrimary ← row.bool 6
  return { ordinal, name, dims, typmod, notNull, hasDefault, isPrimary, type }

def Column.ofRow (catalog : Catalog) (relation : String) (row : Row) : Except CheckError Column := do
  let (name, oid) ← Column.headOfRow row
  match catalog.typeByOid? oid with
  | some type => Column.ofTypedRow name type row
  | none => throw (.unknownType (relation ++ "." ++ name) oid)

def Constraint.ofRow (row : Row) : Except CatalogError Constraint := do
  let kind ← row.char 2
  let oid ← row.oid 0
  let name ← row.text 1
  let kind ← decodeChar ConstraintKind.ofChar? "constraints" "contype" kind
  let deferrable ← row.bool 3
  let deferred ← row.bool 4
  let key ← row.ordinals 5 "conkey"
  let foreignKey ← row.ordinals 6 "confkey"
  return { oid, name, kind, deferrable, deferred, key, foreignKey }

def Index.ofRow (row : Row) : Except CatalogError Index := do
  let name ← row.text 0
  let attributeCount ← row.smallInt 1 "indexes" "indnatts"
  let unique ← row.bool 2
  let primary ← row.bool 3
  let exclusion ← row.bool 4
  let immediate ← row.bool 5
  let ready ← row.bool 6
  let key ← row.ordinals 7 "indkey"
  let definition ← row.text 8
  return { name, attributeCount, unique, primary, exclusion, immediate, ready, key, definition }

namespace Relation

def ask (server : Server) (query : Query) : Task CheckError (List Row) :=
  (Catalog.ask server query).mapError .catalog

def askEach {α : Type} (server : Server) (query : Query) (decode : Row → Except CheckError α) :
    Task CheckError (List α) := do
  let rows ← ask server query
  Task.ofExcept (rows.mapM decode)

def headOfRow (row : Row) : Except CatalogError (Oid × RelationKind) := do
  let oid ← row.oid 0
  let code ← row.char 1
  return (oid, RelationKind.ofChar code)

def load (server : Server) (catalog : Catalog) (ref : RelationRef) (space : String) :
    Task CheckError Relation := do
  match ← ask server (relationQuery ref.name space) with
  | [] => throw (.relationNotFound (space ++ "." ++ ref.name))
  | row :: _ =>
    let (oid, kind) ← Task.ofExcept (liftM (headOfRow row))
    let columns ← askEach server (columnsQuery oid) (Column.ofRow catalog ref.name)
    let constraints ← askEach server (constraintsQuery oid) fun row => liftM (Constraint.ofRow row)
    let indexes ← askEach server (indexesQuery oid) fun row => liftM (Index.ofRow row)
    return { oid, name := ref.name, space, key := ref.key, kind, columns, constraints, indexes }

end Relation

def publicSpace : String := "public"

structure Database where
  server : Server
  catalog : Catalog
  space : String := publicSpace

namespace RelationSet

/-- The set with a relation loaded. One whose key is taken is not loaded again. -/
def load (database : Database) (set : RelationSet) (ref : RelationRef) :
    Task CheckError (Relation × RelationSet) :=
  match set.registered? ref.key with
  | some relation => return (relation, set)
  | none => do
    let relation ← Relation.load database.server database.catalog ref
      (ref.qualifier.getD database.space)
    Task.tell (.relationLoaded relation.name relation.columns.length)
    return (relation, set.push relation)

end RelationSet

structure RelationLoader where
  catalog : Catalog
  space : String := publicSpace
  relations : RelationSet := {}

namespace RelationLoader

/-- The result of a load, and the loader and the transcript after it. What fails registers nothing. -/
def load (loader : RelationLoader) (server : Server) (ref : RelationRef) (before : Transcript) :
    Except CheckError Relation × RelationLoader × Transcript :=
  match (loader.relations.load ⟨server, loader.catalog, loader.space⟩ ref).outcome before with
  | (.ok (relation, relations), after) => (.ok relation, { loader with relations }, after)
  | (.error failure, after) => (.error failure, loader, after)

def run (loader : RelationLoader) (before : Transcript) : List (Server × RelationRef) →
    List (Except CheckError Relation) × RelationLoader × Transcript
  | [] => ([], loader, before)
  | (server, ref) :: calls =>
    let (result, next, between) := loader.load server ref before
    let (results, last, after) := next.run between calls
    (result :: results, last, after)

end RelationLoader

end RecordSql
