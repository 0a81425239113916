import RecordSql.Catalog.Type
import RecordSql.Command.Ident

namespace RecordSql

inductive RelationKind where
  | table | view | materializedView | foreignTable | partitionedTable | other
  deriving DecidableEq, Repr

def RelationKind.ofChar : Char → RelationKind
  | 'r' => table
  | 'v' => view
  | 'm' => materializedView
  | 'f' => foreignTable
  | 'p' => partitionedTable
  | _ => other

inductive ConstraintKind where
  | check | foreignKey | primaryKey | unique | trigger | exclusion | notNull
  deriving DecidableEq, Repr

def ConstraintKind.ofChar? : Char → Option ConstraintKind
  | 'c' => some check
  | 'f' => some foreignKey
  | 'p' => some primaryKey
  | 'u' => some unique
  | 't' => some trigger
  | 'x' => some exclusion
  | 'n' => some notNull
  | _ => none

def ConstraintKind.isKey (kind : ConstraintKind) : Bool := kind == primaryKey || kind == unique

structure Column where
  ordinal : Int
  name : String
  dims : Int
  /-- The modifier of the type, or minus one. -/
  typmod : Int
  notNull : Bool
  hasDefault : Bool
  isPrimary : Bool
  type : CatalogType
  deriving DecidableEq, Repr

structure Constraint where
  oid : Oid
  name : String
  kind : ConstraintKind
  deferrable : Bool
  deferred : Bool
  key : List Int
  foreignKey : List Int
  deriving DecidableEq, Repr

structure Index where
  name : String
  attributeCount : Int
  unique : Bool
  primary : Bool
  exclusion : Bool
  immediate : Bool
  ready : Bool
  /-- Column ordinals; zero stands for an expression. -/
  key : List Int
  definition : String
  deriving DecidableEq, Repr

namespace Index

def isUnique (index : Index) : Bool := index.unique || index.primary

def hasExpression (index : Index) : Bool := index.key.contains 0

end Index

structure Relation where
  oid : Oid
  name : String
  space : String
  key : String
  kind : RelationKind
  columns : List Column
  constraints : List Constraint
  indexes : List Index
  deriving DecidableEq, Repr

def insertName (name : String) : List String → List String
  | [] => [name]
  | other :: rest => if name ≤ other then name :: other :: rest else other :: insertName name rest

def orderedNames (names : List String) : List String := (names.foldr insertName []).eraseReps

namespace Relation

def column? (relation : Relation) (name : String) : Option Column :=
  relation.columns.find? fun column => column.name == name

def columnAt? (relation : Relation) (ordinal : Int) : Option Column :=
  relation.columns.find? fun column => column.ordinal == ordinal

def index? (relation : Relation) (name : String) : Option Index :=
  relation.indexes.find? fun index => index.name == name

def constraint? (relation : Relation) (name : String) : Option Constraint :=
  relation.constraints.find? fun constraint => constraint.name == name

def keyColumns (relation : Relation) (key : List Int) : List String :=
  (key.filterMap relation.columnAt?).map Column.name

def uniqueIndexFor? (relation : Relation) (columns : List String) : Option Index :=
  let wanted := orderedNames columns
  relation.indexes.find? fun index =>
    index.isUnique && !index.hasExpression && orderedNames (relation.keyColumns index.key) == wanted

end Relation

structure RelationSet where
  relations : List Relation := []
  deriving DecidableEq, Repr

namespace RelationSet

def target? (set : RelationSet) : Option Relation := set.relations.head?

def get? (set : RelationSet) (key : String) : Option Relation :=
  set.relations.find? fun relation => relation.key == key

/-- What is registered under a key. The target has the empty key beside its own. -/
def registered? (set : RelationSet) (key : String) : Option Relation :=
  if key.isEmpty then set.target? else set.get? key

def size (set : RelationSet) : Nat := set.relations.length

def push (set : RelationSet) (relation : Relation) : RelationSet := ⟨set.relations ++ [relation]⟩

end RelationSet

end RecordSql
