import RecordSql.Command.Walk

namespace RecordSql

inductive CommandKind where
  | insert | update | select | delete | filter
  deriving DecidableEq, Repr

namespace CommandKind

def all : List CommandKind := [insert, update, select, delete, filter]

def word : CommandKind → String
  | insert => "Insert"
  | update => "Update"
  | select => "Select"
  | delete => "Delete"
  | filter => "Filter"

def name : CommandKind → String
  | insert => "insert"
  | update => "update"
  | select => "select"
  | delete => "delete"
  | filter => "filter"

def writesRecord : CommandKind → Bool
  | insert | update => true
  | _ => false

def readsRecord : CommandKind → Bool
  | select => true
  | _ => false

def ofWord? (text : String) : Option CommandKind :=
  all.find? fun kind => Text.equalIgnoringCase text kind.word

def ofCommandName? (name : String) : Option CommandKind :=
  all.find? fun kind => (Text.afterHead? kind.word name).isSome

end CommandKind

inductive IteratorKind where
  | method (name : String)
  | func
  deriving DecidableEq, Repr

structure RecordShape where
  sequence : Bool := false
  iterator : Option IteratorKind := none
  optional : Bool := false
  deriving DecidableEq, Repr

def RecordShape.isMulti (shape : RecordShape) : Bool := shape.sequence || shape.iterator.isSome

/-- A record field that is bound to a column. -/
structure BoundField where
  /-- Field names from the record down to the field. -/
  path : List String
  column : ColumnRef
  type : HostType
  options : FieldOptions

namespace BoundField

def name (field : BoundField) : String := field.path.getLast?.getD ""

def key (field : BoundField) : String := ".".intercalate field.path

end BoundField

structure RecordBinding where
  field : String
  typeName : Option TypeName
  shape : RecordShape
  relation : RelationRef
  fields : List BoundField

/-- The record that receives the rows a write returns. -/
structure ResultBinding where
  field : String
  typeName : Option TypeName
  shape : RecordShape
  fields : List BoundField

structure WhereBlock where
  field : String
  entries : List Entry

inductive JoinKind where
  | inner | left | right | full | cross
  deriving DecidableEq, Repr

def JoinKind.sql : JoinKind → String
  | inner => "JOIN"
  | left => "LEFT JOIN"
  | right => "RIGHT JOIN"
  | full => "FULL JOIN"
  | cross => "CROSS JOIN"

structure JoinCondition where
  connector : Connector
  test : ColumnTest

structure JoinItem where
  kind : JoinKind
  relation : RelationRef
  conditions : List JoinCondition

structure JoinBlock where
  field : String
  items : List JoinItem

inductive ColumnList where
  | all
  | columns (columns : List ColumnRef)
  deriving DecidableEq, Repr

def ColumnList.isAll : ColumnList → Bool
  | .all => true
  | .columns _ => false

def ColumnList.listed : ColumnList → List ColumnRef
  | .all => []
  | .columns items => items

inductive ConflictTarget where
  | columns (columns : List ColumnRef)
  | index (name : String)
  | constraint (name : String)
  deriving DecidableEq, Repr

inductive ConflictAction where
  | ignore
  | update (columns : ColumnList)
  deriving DecidableEq, Repr

structure OnConflictBlock where
  target : Option ConflictTarget
  action : ConflictAction
  deriving DecidableEq, Repr

inductive NullsOrder where
  | first | last
  deriving DecidableEq, Repr

structure OrderItem where
  column : ColumnRef
  descending : Bool
  nulls : Option NullsOrder
  deriving DecidableEq, Repr

inductive RowLimit where
  | literal (value : Nat)
  | field (field : FieldRef)

structure Command where
  name : String
  kind : CommandKind
  record : RecordBinding
  join : Option JoinBlock := none
  whereBlock : Option WhereBlock := none
  onConflict : Option OnConflictBlock := none
  orderBy : Option (List OrderItem) := none
  limit : Option RowLimit := none
  offset : Option RowLimit := none
  defaults : Option ColumnList := none
  force : Option ColumnList := none
  returning : Option ColumnList := none
  textSearch : Option ColumnRef := none
  result : Option ResultBinding := none
  rowsAffected : Option FieldRef := none
  errorHandler : Option FieldRef := none
  all : Bool := false

namespace Command

def joinItems (command : Command) : List JoinItem := (command.join.map JoinBlock.items).getD []

def whereEntries (command : Command) : List Entry :=
  (command.whereBlock.map WhereBlock.entries).getD []

end Command

end RecordSql
