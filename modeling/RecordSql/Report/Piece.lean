import RecordSql.Annotation.Directive
import RecordSql.Report.Command
import RecordSql.Report.Statement
import RecordSql.Typing.Candidates

namespace RecordSql

def RelationRef.report (ref : RelationRef) : Json :=
  .obj [("qualifier", .str (ref.qualifier.getD "")), ("name", .str ref.name),
    ("alias", .str (ref.aliasName.getD "")), ("key", .str ref.key), ("display", .str ref.text)]

def ColumnRef.details (start : String) (column : ColumnRef) : Json :=
  .obj [("qualifier", .str (column.qualifier.getD "")), ("name", .str column.name),
    ("display", .str column.text), ("prefixed", .str (column.startingWith start).text)]

def CompareOp.details (op : CompareOp) : Json :=
  .obj [("name", .str op.label), ("sql", .str op.sql), ("base", .str op.base),
    ("membership", .bool op.isMembership), ("quantifiable", .bool op.isQuantifiable),
    ("implied", .optStr (op.impliedQuantifier?.map Quantifier.sql))]

def TestOp.details (op : TestOp) : Json :=
  .obj [("name", .str op.label), ("sql", .str op.sql), ("null_check", .bool op.isNullTest)]

def Quantifier.details (quantifier : Quantifier) : Json :=
  .arr [.str quantifier.label, .str quantifier.sql]

def RangeOp.details (op : RangeOp) : Json := .obj [("name", .str op.label), ("sql", .str op.sql)]

def operatorWordReport (word : String) : Json :=
  .obj [("cmp", .ofOption CompareOp.details (CompareOp.ofWord? word)),
    ("unary", .ofOption TestOp.details (TestOp.ofWord? word)),
    ("quantifier", .ofOption Quantifier.details (Quantifier.ofWord? word)),
    ("between", .ofOption RangeOp.details (RangeOp.ofWord? word))]

def CommandKind.details (kind : CommandKind) (name : String) : Json :=
  .obj [("kind", .str kind.word), ("text", .str kind.name), ("writes", .bool kind.writesRecord),
    ("reads", .bool kind.readsRecord),
    ("from_str", .optStr ((CommandKind.ofWord? name).map CommandKind.word))]

def TypeCategory.details (category : TypeCategory) : Json :=
  .arr [.str category.label, .str (String.singleton category.toChar)]

def codeReport (c : Char) : Json :=
  .obj [("char", .str (String.singleton c)),
    ("class", .optStr ((TypeClass.ofChar? c).map TypeClass.label)),
    ("category", .ofOption TypeCategory.details (TypeCategory.ofChar? c)),
    ("cast", .optStr ((CastContext.ofChar? c).map CastContext.label)),
    ("relation", .str (RelationKind.ofChar c).label),
    ("constraint", .optStr ((ConstraintKind.ofChar? c).map ConstraintKind.label))]

def Directive.details (directive : Directive) : Json :=
  .arr [.str directive.name, .str directive.hostType.signature]

def HostType.report (catalog : Catalog) (type : HostType) : Json :=
  .obj [("signature", .str type.signature), ("deref", .str type.required.signature),
    ("optional", .bool type.isOptional), ("well_known", .bool type.isWellKnown),
    ("plain_record", .bool type.isPlainRecord),
    ("record_fields", .ofOption (fun fields => .arr (fields.map fun field => .str field.name))
      type.recordFields?),
    ("integer", .bool type.isInteger), ("error_like", .bool type.isErrorLike),
    ("bytes", .bool type.isBytes), ("sequence", .bool type.isSequence),
    ("sequence_elem", .optStr (type.elem?.map HostType.signature)),
    ("name", TypeName.report type.name),
    ("candidates", .arr ((fieldCandidates catalog type).map .ofNat)),
    ("signature_candidates", .arr ((signatureCandidates type.signature).map .ofNat)),
    ("directive", .ofOption Directive.details (Directive.ofType? type))]

def BoundStatement.report (bound : BoundStatement) : Json :=
  .obj [("sql", .str bound.statement.sql), ("tree", bound.statement.report),
    ("params", .arr (bound.statement.params.map .ofNat)),
    ("max_param", .ofNat bound.statement.maxParam),
    ("args", .arr (bound.args.map ArgSource.report)),
    ("arg_fields", .arr (bound.args.map fun arg => .str arg.field)),
    ("multi_row", .bool bound.multiRow)]

def Lowered.report : Lowered → Json
  | .filter map => .obj [("filter", map.report)]
  | .statement bound => bound.report

end RecordSql
