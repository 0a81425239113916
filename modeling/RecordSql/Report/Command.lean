import RecordSql.Json.Basic
import RecordSql.Report.Label

/-!
Commands as documents. A column is a pair of its qualifier and its name, where no qualifier is an
empty one; everything that may be missing is null.
-/
namespace RecordSql

def ColumnRef.report (column : ColumnRef) : Json :=
  .arr [.str (column.qualifier.getD ""), .str column.name]

def Quantifier.report (quantifier : Option Quantifier) : Json :=
  .optStr (quantifier.map Quantifier.label)

def RecordShape.report (shape : RecordShape) : Json :=
  .obj [("sequence", .bool shape.sequence), ("optional", .bool shape.optional),
    ("multi", .bool shape.isMulti),
    ("iterator", match shape.iterator with
      | none => .null
      | some .func => .str "func"
      | some (.method name) => .arr [.str "method", .str name])]

def BoundField.report (field : BoundField) : Json :=
  .obj [("key", .str field.key), ("name", .str field.name), ("column", field.column.report),
    ("sig", .str field.type.signature),
    ("options", .arr (field.options.labels.map .str))]

def FieldRef.report (field : FieldRef) : Json :=
  .obj [("key", .str field.key), ("name", .str field.name), ("sig", .str field.type.signature)]

def ColumnList.report : ColumnList → Json
  | .all => .str "*"
  | .columns listed => .arr (listed.map ColumnRef.report)

def Operand.report : Operand → Json
  | .column ref => .obj [("column", ref.report)]
  | .field ref => .obj [("field", ref.report)]
  | .literal text => .obj [("literal", .str text)]

def ColumnTest.report (test : ColumnTest) : Json :=
  match test.condition with
  | .test op => .obj [("left", .str test.left.text), ("unary", .str op.label)]
  | .compare op quantifier right =>
    .obj [("left", .str test.left.text), ("op", .str op.label),
      ("quantifier", Quantifier.report quantifier), ("rhs", right.report)]

def FieldTest.report (test : FieldTest) : Json :=
  .obj [("ref", test.field.report), ("column", .str test.column.text), ("op", .str test.op.label),
    ("quantifier", Quantifier.report test.quantifier),
    ("effective", Quantifier.report test.effectiveQuantifier)]

def BetweenTest.report (test : BetweenTest) : Json :=
  .obj [("name", .str test.name), ("column", test.column.report), ("op", .str test.op.label),
    ("x", test.low.report), ("y", test.high.report)]

def Leaf.report : Leaf → Json
  | .field test => .obj [("field", test.report)]
  | .column test => .obj [("column", test.report)]
  | .between test => .obj [("between", test.report)]

mutual
def Entry.report : Entry → Json
  | .leaf connector test => .arr [.str connector.sql, test.report]
  | .group connector name entries =>
    .arr [.str connector.sql,
      .obj [("group", .obj [("name", .str name), ("items", .arr (Entry.reportAll entries))])]]

def Entry.reportAll : List Entry → List Json
  | [] => []
  | item :: items => item.report :: Entry.reportAll items
end

def Entry.label : Entry → String
  | .leaf _ (.field test) => test.field.key
  | .leaf _ (.column test) => test.left.text
  | .leaf _ (.between test) => test.name
  | .group _ name _ => name

def WalkEvent.report : WalkEvent → Json
  | .entry item depth first =>
    .arr [.str "I", .str item.label, .ofNat depth, .bool first]
  | .groupEnd group depth => .arr [.str "E", .str group.label, .ofNat depth]

def WhereBlock.report (block : WhereBlock) : Json :=
  .obj [("field", .str block.field), ("items", .arr (Entry.reportAll block.entries)),
    ("walk", .arr ((walkEvents block.entries).map WalkEvent.report))]

def JoinCondition.report (condition : JoinCondition) : Json :=
  .arr [.str condition.connector.sql, condition.test.report]

def JoinItem.report (item : JoinItem) : Json :=
  .obj [("kind", .str item.kind.label), ("rel", .str item.relation.text),
    ("conditions", .arr (item.conditions.map JoinCondition.report))]

def JoinBlock.report (block : JoinBlock) : Json :=
  .obj [("field", .str block.field), ("items", .arr (block.items.map JoinItem.report))]

def ConflictTarget.report : ConflictTarget → Json
  | .columns listed => .obj [("columns", .arr (listed.map ColumnRef.report))]
  | .index name => .obj [("index", .str name)]
  | .constraint name => .obj [("constraint", .str name)]

def ConflictAction.report : ConflictAction → Json
  | .ignore => .str "ignore"
  | .update columns => .obj [("update", columns.report)]

def OnConflictBlock.report (block : OnConflictBlock) : Json :=
  .obj [("target", .ofOption ConflictTarget.report block.target), ("action", block.action.report)]

def OrderItem.report (item : OrderItem) : Json :=
  .obj [("column", item.column.report), ("descending", .bool item.descending),
    ("nulls", .optStr (item.nulls.map NullsOrder.label))]

/-- Numbers may be too large for readers of documents, so they are texts. -/
def RowLimit.report : RowLimit → Json
  | .literal value => .obj [("literal", .str (toString value))]
  | .field ref => .obj [("field", ref.report)]

def TypeName.report (name : Option TypeName) : Json := .optStr (name.map TypeName.text)

def RecordBinding.report (record : RecordBinding) : Json :=
  .obj [("field", .str record.field), ("type_name", TypeName.report record.typeName),
    ("shape", record.shape.report), ("rel", .str record.relation.text),
    ("key", .str record.relation.key), ("fields", .arr (record.fields.map BoundField.report))]

def ResultBinding.report (result : ResultBinding) : Json :=
  .obj [("field", .str result.field), ("type_name", TypeName.report result.typeName),
    ("shape", result.shape.report), ("fields", .arr (result.fields.map BoundField.report))]

def Command.report (command : Command) : Json :=
  .obj [("name", .str command.name), ("kind", .str command.kind.word),
    ("record", command.record.report),
    ("join", .ofOption JoinBlock.report command.join),
    ("where", .ofOption WhereBlock.report command.whereBlock),
    ("on_conflict", .ofOption OnConflictBlock.report command.onConflict),
    ("order_by", .ofOption (fun items => .arr (items.map OrderItem.report)) command.orderBy),
    ("limit", .ofOption RowLimit.report command.limit),
    ("offset", .ofOption RowLimit.report command.offset),
    ("defaults", .ofOption ColumnList.report command.defaults),
    ("force", .ofOption ColumnList.report command.force),
    ("returning", .ofOption ColumnList.report command.returning),
    ("text_search", .ofOption ColumnRef.report command.textSearch),
    ("result", .ofOption ResultBinding.report command.result),
    ("rows_affected", .ofOption FieldRef.report command.rowsAffected),
    ("error_handler", .ofOption FieldRef.report command.errorHandler),
    ("all", .bool command.all)]

end RecordSql
