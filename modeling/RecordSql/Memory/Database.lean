import RecordSql.Memory.Standard
import RecordSql.Memory.Table
import RecordSql.Relation.Load
import RecordSql.Text.Ascii

namespace RecordSql

namespace Text

def isUnsignedDecimal (cs : List Char) : Bool :=
  let whole := cs.takeWhile Char.isDigit
  let (fraction, rest) := match cs.dropWhile Char.isDigit with
    | '.' :: rest => (rest.takeWhile Char.isDigit, rest.dropWhile Char.isDigit)
    | rest => ([], rest)
  let exponent := match rest with
    | [] => true
    | c :: rest =>
      let digits := match rest with
        | '+' :: digits => digits
        | '-' :: digits => digits
        | digits => digits
      (c == 'e' || c == 'E') && !digits.isEmpty && digits.all Char.isDigit
  !(whole.isEmpty && fraction.isEmpty) && exponent

def isDecimal (cs : List Char) : Bool :=
  let number := match cs with
    | '+' :: rest => rest
    | '-' :: rest => rest
    | _ => cs
  isUnsignedDecimal number ||
    ["inf", "infinity", "nan"].contains (String.ofList (lowerChars number))

def afterLastCast? : List Char → Option (List Char)
  | [] => none
  | c :: cs => match afterLastCast? cs with
    | some found => some found
    | none => match c, cs with
      | ':', ':' :: rest => some rest
      | _, _ => none

end Text

structure MemoryDatabase where
  name : String := "app"
  version : Int := 160002
  types : List CatalogType := Standard.types
  operators : List CatalogOperator := Standard.operators
  casts : List CatalogCast := Standard.casts
  procedures : List (String × CatalogProcedure) := Standard.procedures
  tables : List MemoryTable := []
  literals : List (String × Oid) := []
  /-- Queries whose text starts like this fail. -/
  failing : Option String := none

namespace MemoryDatabase

def typeRow (type : CatalogType) : Row :=
  ⟨[.oid type.oid, .text type.name, .text type.formattedName, .int type.length,
    .text (String.singleton type.kind.toChar), .text (String.singleton type.category.toChar),
    .oid type.element, .bool type.preferred]⟩

def operatorRow (op : CatalogOperator) : Row :=
  ⟨[.text op.name, .oid op.left, .oid op.right, .oid op.result]⟩

def castRow (cast : CatalogCast) : Row :=
  ⟨[.oid cast.target, .oid cast.source, .text (String.singleton cast.context.toChar)]⟩

def procedureRow (procedure : String × CatalogProcedure) : Row :=
  ⟨[.text procedure.1, .oid procedure.2.arg, .oid procedure.2.result,
    .bool procedure.2.aggregate]⟩

def castType (database : MemoryDatabase) (text : List Char) : Except ConnectionError Oid :=
  let name := String.ofList (Text.trim text)
  match database.types.find? fun type => type.name == name || type.formattedName == name with
  | some type => .ok type.oid
  | none => .error (.query ("type \"" ++ String.ofList text ++ "\" does not exist"))

def plainLiteralType (literal : String) : Except ConnectionError Oid :=
  match Text.lower literal with
  | "true" | "false" => .ok Oid.bool
  | "null" => .ok Oid.unknown
  | "now()" | "current_timestamp" => .ok Oid.timestamptz
  | "current_date" => .ok Oid.date
  | "current_time" => .ok Oid.timetz
  | "localtime" => .ok Oid.time
  | "localtimestamp" => .ok Oid.timestamp
  | _ =>
    if literal.toList.head? == some '\'' then .ok Oid.unknown
    else if (Text.readI32? literal).isSome then .ok Oid.int4
    else if (Text.readI64? literal).isSome then .ok Oid.int8
    else if Text.isDecimal literal.toList then .ok Oid.numeric
    else .error (.query ("syntax error at or near \"" ++ literal ++ "\""))

def literalType (database : MemoryDatabase) (literal : String) : Except ConnectionError Oid :=
  match database.literals.lookup literal with
  | some oid => .ok oid
  | none => match Text.afterLastCast? literal.toList with
    | some text => database.castType text
    | none => plainLiteralType literal

def probedLiteral? (sql : String) : Option String :=
  let start := Catalog.literalTypeStart.toList
  let finish := Catalog.literalTypeEnd.toList
  let cs := sql.toList
  if start.isPrefixOf cs && finish.isSuffixOf (cs.drop start.length) then
    some (Text.trimmed (String.ofList ((cs.drop start.length).take
      (cs.length - start.length - finish.length))))
  else none

def tableByOid? (database : MemoryDatabase) (params : List QueryParam) : Option MemoryTable :=
  match params with
  | [.oid oid] => database.tables.find? fun table => table.oid == oid
  | _ => none

def relationRows (database : MemoryDatabase) (params : List QueryParam) :
    Except ConnectionError (List Row) :=
  match params with
  | [.text name, .text space] => .ok
      ((database.tables.filter fun table => table.name == name && table.space == space).map
        MemoryTable.relationRow)
  | _ => .error (.query "relation lookup expects name and namespace")

def tableRows (database : MemoryDatabase) (params : List QueryParam)
    (rows : MemoryTable → List Row) : List Row :=
  ((database.tableByOid? params).map rows).getD []

def answerQuery (database : MemoryDatabase) (query : Query) : Except ConnectionError (List Row) :=
  let sql := query.sql
  if sql = Catalog.currentDatabaseQuery.sql then .ok [⟨[.text database.name]⟩]
  else if sql = Catalog.versionQuery.sql then .ok [⟨[.text (toString database.version)]⟩]
  else if sql = Catalog.typesQuery.sql then .ok (database.types.map typeRow)
  else if sql = Catalog.operatorsQuery.sql then .ok (database.operators.map operatorRow)
  else if sql = Catalog.castsQuery.sql then .ok (database.casts.map castRow)
  else if sql = Catalog.proceduresQuery.sql ∨ sql = Catalog.olderProceduresQuery.sql then
    .ok (database.procedures.map procedureRow)
  else if sql = Relation.relationSql then database.relationRows query.params
  else if sql = Relation.columnsSql then .ok (database.tableRows query.params MemoryTable.columnRows)
  else if sql = Relation.constraintsSql then
    .ok (database.tableRows query.params MemoryTable.constraintRows)
  else if sql = Relation.indexesSql then .ok (database.tableRows query.params MemoryTable.indexRows)
  else match probedLiteral? sql with
    | some literal => (database.literalType literal).map fun oid => [⟨[.oid oid]⟩]
    | none => .error (.query ("unexpected query: " ++ sql))

def answer (database : MemoryDatabase) (query : Query) : Except ConnectionError (List Row) :=
  if database.failing.any fun start => start.toList.isPrefixOf query.sql.toList then
    .error (.query "scripted failure")
  else database.answerQuery query

/-- The database as a server, whose answers do not depend on earlier queries. -/
def server (database : MemoryDatabase) : Server := ⟨fun _ query => database.answer query⟩

end MemoryDatabase

end RecordSql
