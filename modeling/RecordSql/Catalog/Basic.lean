import RecordSql.Catalog.Type
import RecordSql.Server.Trace

namespace RecordSql

structure CatalogOperator where
  name : String
  left : Oid
  right : Oid
  result : Oid
  deriving DecidableEq, Repr

structure CatalogCast where
  target : Oid
  source : Oid
  context : CastContext
  deriving DecidableEq, Repr

structure CatalogProcedure where
  arg : Oid
  result : Oid
  aggregate : Bool
  deriving DecidableEq, Repr

def lastWhere? {α : Type} (p : α → Bool) : List α → Option α
  | [] => none
  | a :: rest => match lastWhere? p rest with
    | some found => some found
    | none => if p a then some a else none

/-- Rows as the server lists them. Of operators and casts with the same key, and of types with the
same number, the last row counts. -/
structure Catalog where
  types : List CatalogType := []
  operators : List CatalogOperator := []
  casts : List CatalogCast := []
  procedureRows : List (String × CatalogProcedure) := []
  deriving DecidableEq, Repr

namespace Catalog

def typeByOid? (catalog : Catalog) (oid : Oid) : Option CatalogType :=
  lastWhere? (fun type => type.oid == oid) catalog.types

def typeByName? (catalog : Catalog) (name : String) : Option CatalogType :=
  catalog.types.find? fun type => type.name == name

def operatorResult? (catalog : Catalog) (name : String) (left right : Oid) : Option Oid :=
  (lastWhere? (fun op => op.name == name && op.left == left && op.right == right)
    catalog.operators).map CatalogOperator.result

def castContext? (catalog : Catalog) (target source : Oid) : Option CastContext :=
  (lastWhere? (fun cast => cast.target == target && cast.source == source)
    catalog.casts).map CatalogCast.context

def operatorExists (catalog : Catalog) (name : String) (left right : Oid) : Bool :=
  (catalog.operatorResult? name left right).isSome

def castsImplicitly (catalog : Catalog) (target source : Oid) : Bool :=
  catalog.castContext? target source == some .implicit

/-- Values of the source type may be assigned to the target type. -/
def castsOnAssignment (catalog : Catalog) (target source : Oid) : Bool :=
  catalog.castsImplicitly target source || catalog.castContext? target source == some .assignment

def procedures (catalog : Catalog) (name : String) : List CatalogProcedure :=
  (catalog.procedureRows.filter fun row => row.1 == name).map Prod.snd

def implicitTargets (catalog : Catalog) (source : Oid) : List Oid :=
  let targets := (catalog.casts.filter fun cast => cast.source == source).map CatalogCast.target
  (targets.eraseDups.filter fun target => catalog.castsImplicitly target source).mergeSort
    fun a b => decide (a ≤ b)

def polymorphicTypes (catalog : Catalog) (operand : Oid) : List Oid :=
  match catalog.typeByOid? operand with
  | some type =>
    (if type.isArray then [Oid.anyarray] else []) ++
      (match type.kind with
        | .enum => [Oid.anyenum]
        | .range => [Oid.anyrange]
        | _ => []) ++ [Oid.anyelement]
  | none => [Oid.anyelement]

/-- The types an operand may be taken as: its own, those it casts to, then polymorphic ones. -/
def operandTypes (catalog : Catalog) (operand : Oid) : List Oid :=
  operand :: catalog.implicitTargets operand ++ catalog.polymorphicTypes operand

/-- The result type of the first operator that fits, trying the alternatives of the left operand
in order and for each those of the right one. Polymorphic operands need equal types. -/
def resolveOperator? (catalog : Catalog) (name : String) (left right : Oid) : Option Oid :=
  (catalog.operandTypes left).findSome? fun l =>
    (catalog.operandTypes right).findSome? fun r =>
      if (Oid.isPolymorphic l || Oid.isPolymorphic r) && left != right then none
      else catalog.operatorResult? name l r

def counts (catalog : Catalog) : CatalogCounts where
  types := catalog.types.length
  operators := (catalog.operators.map fun op => (op.name, op.left, op.right)).eraseDups.length
  casts := (catalog.casts.map fun cast => (cast.target, cast.source)).eraseDups.length
  procedures := catalog.procedureRows.length

end Catalog

end RecordSql
