import RecordSql.Relation.Load
import RecordSql.Typing.Comparison

namespace RecordSql

/-- The catalogue, the target of the command, and all relations loaded so far. -/
structure Scope where
  catalog : Catalog
  target : Relation
  relations : RelationSet

namespace Relation

def column (relation : Relation) (name : String) : Except CheckError Column :=
  match relation.column? name with
  | some column => .ok column
  | none => .error (.columnNotFound relation.name name)

/-- The column of a reference that may name no relation but this one. -/
def ownColumn (relation : Relation) (ref : ColumnRef) : Except CheckError Column :=
  match ref.qualifier with
  | some qualifier =>
    if qualifier = relation.key then relation.column ref.name
    else .error (.relationNotFound qualifier)
  | none => relation.column ref.name

end Relation

namespace Scope

def relation (scope : Scope) (key : String) : Except CheckError Relation :=
  match scope.relations.get? key with
  | some relation => .ok relation
  | none => .error (.relationNotFound key)

def findColumn? (name : String) (relations : List Relation) : Option (Relation × Column) :=
  relations.findSome? fun relation => (relation.column? name).map fun column => (relation, column)

/-- A reference without a qualifier means a column of the target, or with `everywhere` of the
first loaded relation that has one of that name. -/
def column (scope : Scope) (everywhere : Bool) (ref : ColumnRef) :
    Except CheckError (Relation × Column) :=
  match ref.qualifier with
  | some qualifier => do
    let relation ← scope.relation qualifier
    let column ← relation.column ref.name
    return (relation, column)
  | none =>
    match findColumn? ref.name (if everywhere then scope.relations.relations else [scope.target]) with
    | some found => .ok found
    | none => .error (.columnNotFound scope.target.name ref.name)

def targetColumn (scope : Scope) (ref : ColumnRef) : Except CheckError Column :=
  scope.target.ownColumn ref

def typeOf (scope : Scope) (subject : String) (oid : Oid) : Except CheckError CatalogType :=
  match scope.catalog.typeByOid? oid with
  | some type => .ok type
  | none => .error (.unknownType subject oid)

end Scope

namespace Catalog

def accepts (catalog : Catalog) (procedure : CatalogProcedure) (arg : Oid) : Bool :=
  !procedure.aggregate && (procedure.arg == arg || catalog.castsImplicitly procedure.arg arg)

def procedureResult? (catalog : Catalog) (func : String) (arg : Oid) : Option Oid :=
  ((catalog.procedures func).find? fun procedure => catalog.accepts procedure arg).map
    CatalogProcedure.result

end Catalog

namespace Scope

def funcResult (scope : Scope) (func : String) (arg : CatalogType) : Except CheckError Oid :=
  match scope.catalog.procedureResult? func arg.oid with
  | some oid => .ok oid
  | none => .error (.noProcedure func arg.name)

def exprType (scope : Scope) (expr : ColumnExpr) (column : Column) :
    Except CheckError CatalogType :=
  match expr.func with
  | some func => do
    let oid ← scope.funcResult func column.type
    scope.typeOf expr.text oid
  | none => .ok column.type

/-- The result type of a function of a field, taking the first candidate for which there is one. -/
def fieldFuncResult (scope : Scope) (func : String) (field : FieldRef) (type : HostType)
    (candidates : List Oid) : Except CheckError Oid :=
  match candidates.findSome? (scope.catalog.procedureResult? func) with
  | some oid => .ok oid
  | none => .error (.noProcedure func s!"{field.key} ({type.signature})")

end Scope

end RecordSql
