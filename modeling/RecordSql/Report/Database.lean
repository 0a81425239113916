import RecordSql.Check.Command
import RecordSql.Json.Basic
import RecordSql.Report.Label

namespace RecordSql

def CatalogType.report (type : CatalogType) : Json :=
  .obj [("oid", .ofNat type.oid), ("name", .str type.name),
    ("formatted_name", .str type.formattedName), ("length", .int type.length),
    ("class", .str type.kind.label), ("category", .str type.category.label),
    ("element", .ofNat type.element), ("preferred", .bool type.preferred)]

def CatalogProcedure.report (procedure : CatalogProcedure) : Json :=
  .arr [.ofNat procedure.arg, .ofNat procedure.result, .bool procedure.aggregate]

def CatalogCounts.report (counts : CatalogCounts) : Json :=
  .arr [.ofNat counts.types, .ofNat counts.operators, .ofNat counts.casts,
    .ofNat counts.procedures]

def Column.report (column : Column) : Json :=
  .obj [("ordinal", .int column.ordinal), ("name", .str column.name), ("dims", .int column.dims),
    ("typmod", .int column.typmod), ("not_null", .bool column.notNull),
    ("has_default", .bool column.hasDefault), ("is_primary", .bool column.isPrimary),
    ("ty", column.type.report)]

def Constraint.report (constraint : Constraint) : Json :=
  .obj [("oid", .ofNat constraint.oid), ("name", .str constraint.name),
    ("kind", .str constraint.kind.label), ("deferrable", .bool constraint.deferrable),
    ("deferred", .bool constraint.deferred), ("key", .arr (constraint.key.map .int)),
    ("foreign_key", .arr (constraint.foreignKey.map .int))]

def Index.report (index : Index) : Json :=
  .obj [("name", .str index.name), ("attribute_count", .int index.attributeCount),
    ("unique", .bool index.unique), ("primary", .bool index.primary),
    ("exclusion", .bool index.exclusion), ("immediate", .bool index.immediate),
    ("ready", .bool index.ready), ("key", .arr (index.key.map .int)),
    ("definition", .str index.definition)]

def Relation.report (relation : Relation) : Json :=
  .obj [("oid", .ofNat relation.oid), ("name", .str relation.name),
    ("namespace", .str relation.space), ("key", .str relation.key),
    ("kind", .str relation.kind.label), ("columns", .arr (relation.columns.map Column.report)),
    ("constraints", .arr (relation.constraints.map Constraint.report)),
    ("indexes", .arr (relation.indexes.map Index.report))]

def Adapter.report : Adapter → Json
  | .self => .obj [("adapter", .str "self_codec")]
  | .json => .obj [("adapter", .str "json")]
  | .xml => .obj [("adapter", .str "xml")]
  | .hstore => .obj [("adapter", .str "hstore")]
  | .table typeName signature =>
    .obj [("adapter", .str "table"), ("type_name", .str typeName), ("signature", .str signature)]
  | .coerce => .obj [("adapter", .str "coerce")]

def Pairing.report (pairing : Pairing) : Json :=
  .obj [("path", .arr (pairing.path.map .str)), ("signature", .str pairing.signature),
    ("relation", .str pairing.relation), ("column", .str pairing.column),
    ("type_oid", .ofNat pairing.typeOid), ("type_name", .str pairing.typeName),
    ("not_null", .bool pairing.notNull), ("adapter", pairing.adapter.report)]

def WriteTarget.report (write : WriteTarget) : Json :=
  .obj [("column", .str write.column),
    ("value", match write.value with
      | .default => .str "Default"
      | .input index => .obj [("Input", .ofNat index)])]

def CheckedCommand.report (checked : CheckedCommand) : Json :=
  .obj [("target", .optStr (checked.target?.map Relation.key)),
    ("relations", .arr (checked.relations.relations.map fun relation =>
      .arr [.str relation.key, .str relation.space, .str relation.name])),
    ("inputs", .arr (checked.inputs.map Pairing.report)),
    ("outputs", .arr (checked.outputs.map Pairing.report)),
    ("writes", .arr (checked.writes.map WriteTarget.report))]

def Query.report (query : Query) : Json :=
  .arr (.str query.sql :: query.params.map fun param => match param with
    | .text value => .str value
    | .oid value => .ofNat value)

def TraceEvent.report : TraceEvent → Json
  | .catalogHit database => .arr [.str "catalog_hit", .str database]
  | .catalogLoaded database counts =>
    .arr [.str "catalog_loaded", .str database, .ofNat counts.types, .ofNat counts.operators,
      .ofNat counts.casts, .ofNat counts.procedures]
  | .relationLoaded relation columns =>
    .arr [.str "relation_loaded", .str relation, .ofNat columns]
  | .step command taken => .arr [.str "step", .str command, .str taken.label]
  | .predicate command depth group =>
    .arr [.str "predicate", .str command, .ofNat depth, .bool group]
  | .compiled command kind params =>
    .arr [.str "compiled", .str command, .str kind.word, .ofNat params]

end RecordSql
