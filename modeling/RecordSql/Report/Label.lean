import RecordSql.Annotation.Error
import RecordSql.Check.Error
import RecordSql.Relation.Basic
import RecordSql.Statement.Lower
import RecordSql.Typing.Assignment

namespace RecordSql

def CompareOp.label : CompareOp → String
  | .eq => "Eq"
  | .ne => "Ne"
  | .lt => "Lt"
  | .lte => "Lte"
  | .gt => "Gt"
  | .gte => "Gte"
  | .like => "Like"
  | .notLike => "NotLike"
  | .iLike => "ILike"
  | .notILike => "NotILike"
  | .similar => "Similar"
  | .notSimilar => "NotSimilar"
  | .regex => "Regex"
  | .regexI => "RegexI"
  | .notRegex => "NotRegex"
  | .notRegexI => "NotRegexI"
  | .isDistinct => "IsDistinct"
  | .notDistinct => "NotDistinct"
  | .isIn => "IsIn"
  | .notIn => "NotIn"

def TestOp.label : TestOp → String
  | .isNull => "IsNull"
  | .notNull => "NotNull"
  | .isTrue => "IsTrue"
  | .notTrue => "NotTrue"
  | .isFalse => "IsFalse"
  | .notFalse => "NotFalse"
  | .isUnknown => "IsUnknown"
  | .notUnknown => "NotUnknown"

def RangeOp.label : RangeOp → String
  | .between => "Between"
  | .notBetween => "NotBetween"
  | .betweenSymmetric => "BetweenSymmetric"
  | .notBetweenSymmetric => "NotBetweenSymmetric"

def Quantifier.label : Quantifier → String
  | .any => "Any"
  | .some => "Some"
  | .all => "All"

def JoinKind.label : JoinKind → String
  | .inner => "Inner"
  | .left => "Left"
  | .right => "Right"
  | .full => "Full"
  | .cross => "Cross"

def NullsOrder.label : NullsOrder → String
  | .first => "first"
  | .last => "last"

def FieldOptions.labels (options : FieldOptions) : List String :=
  (if options.json then ["json"] else []) ++ (if options.xml then ["xml"] else []) ++
    (if options.cast then ["cast"] else []) ++ (if options.readOnly then ["ro"] else []) ++
    (if options.writeOnly then ["wo"] else [])

def TypeClass.label : TypeClass → String
  | .base => "Base"
  | .composite => "Composite"
  | .domain => "Domain"
  | .enum => "Enum"
  | .multirange => "Multirange"
  | .pseudo => "Pseudo"
  | .range => "Range"

def TypeCategory.label : TypeCategory → String
  | .array => "Array"
  | .bitString => "BitString"
  | .boolean => "Boolean"
  | .composite => "Composite"
  | .dateTime => "DateTime"
  | .enum => "Enum"
  | .geometric => "Geometric"
  | .internal => "Internal"
  | .network => "Network"
  | .numeric => "Numeric"
  | .pseudo => "Pseudo"
  | .range => "Range"
  | .string => "String"
  | .timespan => "Timespan"
  | .unknown => "Unknown"
  | .user => "User"

def CastContext.label : CastContext → String
  | .explicit => "Explicit"
  | .implicit => "Implicit"
  | .assignment => "Assignment"

def RelationKind.label : RelationKind → String
  | .table => "Table"
  | .view => "View"
  | .materializedView => "MaterializedView"
  | .foreignTable => "ForeignTable"
  | .partitionedTable => "PartitionedTable"
  | .other => "Other"

def ConstraintKind.label : ConstraintKind → String
  | .check => "Check"
  | .foreignKey => "ForeignKey"
  | .primaryKey => "PrimaryKey"
  | .unique => "Unique"
  | .trigger => "Trigger"
  | .exclusion => "Exclusion"
  | .notNull => "NotNull"

def Modifier.label : Modifier → String
  | .any => "Any"
  | .lengthOne => "Len1"
  | .noScale => "NoScale"

def RuleDirection.label : RuleDirection → String
  | .read => "Read"
  | .write => "Write"
  | .both => "Both"

def AssignRule.label (rule : AssignRule) : String :=
  rule.modifier.label ++ "/" ++ rule.direction.label

def CheckStep.label : CheckStep → String
  | .loadTarget => "LoadTarget"
  | .loadJoins => "LoadJoins"
  | .checkOnConflict => "CheckOnConflict"
  | .checkWhere => "CheckWhere"
  | .checkOrderBy => "CheckOrderBy"
  | .checkDefaults => "CheckDefaults"
  | .checkForce => "CheckForce"
  | .checkReturning => "CheckReturning"
  | .checkTextSearch => "CheckTextSearch"
  | .checkBindings => "CheckBindings"

def CheckErrorClass.label : CheckErrorClass → String
  | .catalog => "Catalog"
  | .schemaMismatch => "SchemaMismatch"
  | .typeCompatibility => "TypeCompatibility"

def AnnotationError.label : AnnotationError → String
  | .blockNotAllowed .. => "BlockNotAllowed"
  | .conflictingBlocks .. => "ConflictingBlocks"
  | .danglingConnector .. => "DanglingConnector"
  | .duplicateBlock .. => "DuplicateBlock"
  | .emptyGroup .. => "EmptyPredicateGroup"
  | .invalidBlockType .. => "InvalidBlockType"
  | .invalidColumn .. => "InvalidColumnIdentifier"
  | .misplacedDirective .. => "InvalidDirectivePlacement"
  | .invalidIterator .. => "InvalidIteratorType"
  | .invalidRowLimit .. => "InvalidLimitValue"
  | .invalidOperator .. => "InvalidOperator"
  | .invalidPredicate .. => "InvalidPredicate"
  | .invalidRecordType .. => "InvalidRecordFieldType"
  | .invalidRelation .. => "InvalidRelationIdentifier"
  | .invalidTag .. => "InvalidTag"
  | .missingConflictAction => "MissingConflictAction"
  | .missingConflictTarget => "MissingConflictTarget"
  | .missingJoinCondition .. => "MissingJoinCondition"
  | .missingPredicateTag .. => "MissingPredicateTag"
  | .missingRecord .. => "MissingRecordField"
  | .missingWhereOrAll .. => "MissingWhereOrAll"
  | .multipleRecords .. => "MultipleRecordFields"
  | .unknownKind .. => "UnrecognizedCommandKind"

def ConnectionError.label : ConnectionError → String
  | .connect .. => "Connect"
  | .decode .. => "Decode"
  | .query .. => "Query"
  | .unsupportedType .. => "UnsupportedType"

def CatalogError.label : CatalogError → String
  | .connection .. => "Connection"
  | .invalidValue .. => "InvalidValue"
  | .invalidVersion .. => "InvalidVersion"
  | .noRows .. => "NoRows"

def CheckError.label : CheckError → String
  | .badBoolColumn .. => "BadBoolColumn"
  | .badTextSearchColumn .. => "BadTextSearchColumnType"
  | .catalog .. => "Catalog"
  | .columnNotFound .. => "ColumnNotFound"
  | .constraintNotFound .. => "ConstraintNotFound"
  | .constraintNotUnique .. => "ConstraintNotUnique"
  | .duplicateColumn .. => "DuplicateColumnBinding"
  | .duplicateKey .. => "DuplicateRelationKey"
  | .arrayOperandRequired .. => "IllegalArrayOperand"
  | .sequenceRequired .. => "IllegalFieldTypeForQuantifier"
  | .nullTestOnNotNull .. => "IllegalNullCheck"
  | .optionalForNotNull .. => "IllegalPointerFieldForNotNullColumn"
  | .incomparableColumns .. => "IncomparableColumns"
  | .incomparableField .. => "IncomparableFieldColumn"
  | .indexNotFound .. => "IndexNotFound"
  | .indexNotUnique .. => "IndexNotUnique"
  | .noDefault .. => "NoColumnDefault"
  | .noFieldForColumn .. => "NoFieldForColumn"
  | .noUniqueIndex .. => "NoIndexForColumnList"
  | .noProcedure .. => "NoProcedureForModifier"
  | .relationNotFound .. => "RelationNotFound"
  | .unassignable .. => "UnassignableFieldColumn"
  | .unknownType .. => "UnknownColumnType"

def BuildError.label : BuildError → String
  | .expressionIndex .. => "ExpressionIndexTarget"
  | .missingConflictTarget => "MissingConflictTarget"
  | .missingTarget .. => "MissingTarget"
  | .noReadableColumns .. => "NoReadableColumns"
  | .noWritableColumns .. => "NoWritableColumns"
  | .unknownConstraint .. => "UnknownConstraint"
  | .unknownIndex .. => "UnknownIndex"

end RecordSql
