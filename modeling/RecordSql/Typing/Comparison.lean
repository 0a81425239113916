import RecordSql.Catalog.Basic
import RecordSql.Command.Operator

namespace RecordSql

/-- The server has the operator for the column type and one of the candidates. Untyped text fits
all string types, and enum labels travel as text. -/
def canCompare (catalog : Catalog) (column : CatalogType) (candidates : List Oid) (op : CompareOp) :
    Bool :=
  (candidates.contains Oid.unknown && column.category == .string) ||
    (column.kind == .enum && candidates.contains Oid.text) ||
    candidates.any fun candidate => (catalog.resolveOperator? op.base column.oid candidate).isSome

end RecordSql
