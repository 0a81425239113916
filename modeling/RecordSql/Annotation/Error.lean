import RecordSql.Command.Basic

namespace RecordSql

inductive AnnotationError where
  | blockNotAllowed (block : String) (kind : CommandKind)
  | conflictingBlocks (first second : String)
  | danglingConnector (field : String)
  | duplicateBlock (block : String)
  | emptyGroup (group : String)
  | invalidBlockType (block field : String)
  | invalidColumn (text : String)
  | misplacedDirective (directive block : String)
  | invalidIterator (field : String)
  | invalidRowLimit (text : String)
  | invalidOperator (field op : String)
  | invalidPredicate (field text : String)
  | invalidRecordType (field : String)
  | invalidRelation (text : String)
  | invalidTag (field : String) (fault : TagFault)
  | missingConflictAction
  | missingConflictTarget
  | missingJoinCondition (relation : RelationRef)
  | missingPredicateTag (field : String)
  | missingRecord (command : String)
  | missingWhereOrAll (command : String)
  | multipleRecords (first second : String)
  | unknownKind (name : String)
  deriving DecidableEq, Repr

def AnnotationError.message : AnnotationError → String
  | blockNotAllowed block kind => s!"block '{block}' is not allowed in {kind.word} commands"
  | conflictingBlocks first second => s!"blocks '{first}' and '{second}' cannot be combined"
  | danglingConnector field => s!"connector '{field}' must sit between two predicates"
  | duplicateBlock block => s!"duplicate block '{block}'"
  | emptyGroup group => s!"predicate group '{group}' is empty"
  | invalidBlockType block field => s!"field '{field}' has an invalid type for block '{block}'"
  | invalidColumn text => s!"invalid column identifier '{text}'"
  | misplacedDirective directive block => s!"directive '{directive}' is not valid inside '{block}'"
  | invalidIterator field =>
    s!"iterator field '{field}' must take exactly one record parameter and return exactly one error"
  | invalidRowLimit text => s!"invalid limit/offset value '{text}'"
  | invalidOperator field op => s!"invalid operator '{op}' on field '{field}'"
  | invalidPredicate field text => s!"invalid predicate '{text}' on field '{field}'"
  | invalidRecordType field =>
    s!"relation field '{field}' must be a record, an optional record, a sequence of records " ++
      "or an iterator"
  | invalidRelation text => s!"invalid relation identifier '{text}'"
  | invalidTag field fault => s!"invalid tag on field '{field}': {fault.message}"
  | missingConflictAction => "on-conflict block requires an action (Ignore or Update)"
  | missingConflictTarget => "on-conflict update requires a conflict target"
  | missingJoinCondition relation => s!"join with '{relation.text}' requires at least one condition"
  | missingPredicateTag field => s!"predicate field '{field}' has no sql tag"
  | missingRecord command => s!"command '{command}' has no field with a relation annotation"
  | missingWhereOrAll command =>
    s!"command '{command}' must declare a Where block or the All directive"
  | multipleRecords first second =>
    s!"fields '{first}' and '{second}' both carry a relation annotation"
  | unknownKind name =>
    s!"cannot infer command kind from '{name}'; expected an Insert, Update, Select, Delete " ++
      "or Filter prefix"

end RecordSql
