import RecordSql.Host.Type

namespace RecordSql

inductive Directive where
  | all | and | column | constraint | crossJoin | default | force | fullJoin | ignore | index
  | join | leftJoin | limit | offset | or | orderBy | returning | rightJoin | textSearch | update
  deriving DecidableEq, Repr

namespace Directive

def space : String := "tagsql"

def values : List Directive :=
  [all, and, column, constraint, crossJoin, default, force, fullJoin, ignore, index, join,
   leftJoin, limit, offset, or, orderBy, returning, rightJoin, textSearch, update]

def name : Directive → String
  | all => "All"
  | and => "And"
  | column => "Column"
  | constraint => "Constraint"
  | crossJoin => "CrossJoin"
  | default => "Default"
  | force => "Force"
  | fullJoin => "FullJoin"
  | ignore => "Ignore"
  | index => "Index"
  | join => "Join"
  | leftJoin => "LeftJoin"
  | limit => "Limit"
  | offset => "Offset"
  | or => "Or"
  | orderBy => "OrderBy"
  | returning => "Return"
  | rightJoin => "RightJoin"
  | textSearch => "TextSearch"
  | update => "Update"

def ofName? (name : String) : Option Directive := values.find? fun directive => directive.name == name

def ofType? (type : HostType) : Option Directive :=
  match type.name with
  | some typeName => if typeName.space == space then ofName? typeName.name else none
  | none => none

def hostType (directive : Directive) : HostType := { shape := .hidden, name := some ⟨space, directive.name⟩ }

end Directive

def HostField.directive? (field : HostField) : Option Directive := Directive.ofType? field.type

end RecordSql
