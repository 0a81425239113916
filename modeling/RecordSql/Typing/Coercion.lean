import RecordSql.Relation.Basic
import RecordSql.Typing.Candidates

namespace RecordSql

def coercible (catalog : Catalog) (target candidate : Oid) : Bool :=
  target == candidate || target == Oid.anyType || target == Oid.anyelement ||
    candidate == Oid.unknown || catalog.castsOnAssignment target candidate

/-- The element type of an array. The elements of the vector types are never converted. -/
def arrayElement? (catalog : Catalog) (type : CatalogType) : Option CatalogType :=
  if type.isArray && type.oid != Oid.int2vector && type.oid != Oid.oidvector then
    catalog.typeByOid? type.element
  else none

def elementsCoercible (catalog : Catalog) (element : Option CatalogType) (type : HostType) : Bool :=
  match element, type.elem? with
  | some target, some elem => (fieldCandidates catalog elem).any (coercible catalog target.oid)
  | _, _ => false

def canCoerce (catalog : Catalog) (column : Column) (type : HostType) : Bool :=
  let value := type.required
  let element := arrayElement? catalog column.type
  column.type.category == .string ||
    column.type.kind == .domain || column.type.kind == .composite ||
    (element.any (fun elem => elem.category == .string) && value.isSequence) ||
    (fieldCandidates catalog value).any (coercible catalog column.type.oid) ||
    elementsCoercible catalog element value

end RecordSql
