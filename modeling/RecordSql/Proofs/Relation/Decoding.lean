import RecordSql.Proofs.Server.Cells
import RecordSql.Proofs.Text.Number

namespace RecordSql

def Row.HoldsVersion (row : Row) (version : Int) : Prop :=
  ∃ text, row.cells[0]? = some (.text text) ∧ Text.Numeral (Text.trim text.toList) version ∧
    HasBits 64 version

theorem Catalog.readVersion_eq_ok {row : Row} {version : Int} :
    readVersion row = .ok version ↔ row.HoldsVersion version := by
  have read {text : String} : Text.readI64? (Text.trimmed text) = some version ↔
      Text.Numeral (Text.trim text.toList) version ∧ HasBits 64 version := by
    rw [Text.readI64?, Text.trimmed, String.toList_ofList, Text.readInt?_eq_some, HasBits]
    refine and_congr_right fun _ => ?_
    omega
  simp only [readVersion, bind_eq_ok, liftConnection_eq_ok, Row.text_eq_ok]
  refine exists_congr fun text => and_congr_right fun _ => ?_
  rw [← read]
  split <;> simp_all [pure_eq_ok, throw_ne_ok]

def Row.HoldsCode {α : Type} (row : Row) (index : Nat) (read : Char → Option α) (value : α) : Prop :=
  ∃ c, row.cells[index]? = some (.text (String.singleton c)) ∧ read c = some value

theorem decodeChar_eq_ok {α : Type} {read : Char → Option α} {query field : String} {c : Char} {value : α} :
    decodeChar read query field c = .ok value ↔ read c = some value := by
  unfold decodeChar
  split <;> simp_all

structure CatalogType.ToldBy (row : Row) (type : CatalogType) : Prop where
  oid : row.HoldsOid 0 type.oid
  name : row.cells[1]? = some (.text type.name)
  formattedName : row.cells[2]? = some (.text type.formattedName)
  length : row.Holds 3 16 type.length
  kind : row.HoldsCode 4 TypeClass.ofChar? type.kind
  category : row.HoldsCode 5 TypeCategory.ofChar? type.category
  element : row.HoldsOid 6 type.element
  preferred : row.cells[7]? = some (.bool type.preferred)

theorem CatalogType.ofRow_eq_ok {row : Row} {type : CatalogType} :
    ofRow row = .ok type ↔ type.ToldBy row := by
  simp only [ofRow, bind_eq_ok, liftConnection_eq_ok, Row.char_eq_ok, Row.oid_eq_ok, Row.text_eq_ok,
    Row.smallInt_eq_ok, Row.bool_eq_ok, decodeChar_eq_ok, pure_eq_ok]
  constructor
  · rintro ⟨kindCode, atKind, categoryCode, atCategory, oid, oidHeld, name, nameHeld, formattedName,
      formattedHeld, length, lengthHeld, kind, kindRead, category, categoryRead, element, elementHeld,
      preferred, preferredHeld, rfl⟩
    exact ⟨oidHeld, nameHeld, formattedHeld, lengthHeld, ⟨kindCode, atKind, kindRead⟩,
      ⟨categoryCode, atCategory, categoryRead⟩, elementHeld, preferredHeld⟩
  · rintro ⟨oid, name, formattedName, length, ⟨kindCode, atKind, kind⟩, ⟨categoryCode, atCategory, category⟩,
      element, preferred⟩
    exact ⟨kindCode, atKind, categoryCode, atCategory, _, oid, _, name, _, formattedName, _, length, _, kind,
      _, category, _, element, _, preferred, rfl⟩

structure CatalogOperator.ToldBy (row : Row) (op : CatalogOperator) : Prop where
  name : row.cells[0]? = some (.text op.name)
  left : row.HoldsOid 1 op.left
  right : row.HoldsOid 2 op.right
  result : row.HoldsOid 3 op.result

theorem CatalogOperator.ofRow_eq_ok {row : Row} {op : CatalogOperator} :
    ofRow row = .ok op ↔ op.ToldBy row := by
  simp only [ofRow, bind_eq_ok, liftConnection_eq_ok, Row.oid_eq_ok, Row.text_eq_ok, pure_eq_ok]
  constructor
  · rintro ⟨name, nameHeld, left, leftHeld, right, rightHeld, result, resultHeld, rfl⟩
    exact ⟨nameHeld, leftHeld, rightHeld, resultHeld⟩
  · rintro ⟨name, left, right, result⟩
    exact ⟨_, name, _, left, _, right, _, result, rfl⟩

structure CatalogCast.ToldBy (row : Row) (cast : CatalogCast) : Prop where
  target : row.HoldsOid 0 cast.target
  source : row.HoldsOid 1 cast.source
  context : row.HoldsCode 2 CastContext.ofChar? cast.context

theorem CatalogCast.ofRow_eq_ok {row : Row} {cast : CatalogCast} :
    ofRow row = .ok cast ↔ cast.ToldBy row := by
  simp only [ofRow, bind_eq_ok, liftConnection_eq_ok, Row.char_eq_ok, Row.oid_eq_ok, decodeChar_eq_ok,
    pure_eq_ok]
  constructor
  · rintro ⟨code, atContext, target, targetHeld, source, sourceHeld, context, contextRead, rfl⟩
    exact ⟨targetHeld, sourceHeld, code, atContext, contextRead⟩
  · rintro ⟨target, source, code, atContext, context⟩
    exact ⟨code, atContext, _, target, _, source, _, context, rfl⟩

structure CatalogProcedure.ToldBy (row : Row) (procedure : String × CatalogProcedure) : Prop where
  name : row.cells[0]? = some (.text procedure.1)
  arg : row.HoldsOid 1 procedure.2.arg
  result : row.HoldsOid 2 procedure.2.result
  aggregate : row.cells[3]? = some (.bool procedure.2.aggregate)

theorem CatalogProcedure.ofRow_eq_ok {row : Row} {procedure : String × CatalogProcedure} :
    ofRow row = .ok procedure ↔ ToldBy row procedure := by
  simp only [ofRow, bind_eq_ok, liftConnection_eq_ok, Row.oid_eq_ok, Row.text_eq_ok, Row.bool_eq_ok,
    pure_eq_ok]
  constructor
  · rintro ⟨name, nameHeld, arg, argHeld, result, resultHeld, aggregate, aggregateHeld, rfl⟩
    exact ⟨nameHeld, argHeld, resultHeld, aggregateHeld⟩
  · rintro ⟨name, arg, result, aggregate⟩
    exact ⟨_, name, _, arg, _, result, _, aggregate, rfl⟩

/-- The type of a column is that of its number in the catalogue. -/
structure Column.ToldBy (catalog : Catalog) (row : Row) (column : Column) : Prop where
  ordinal : row.Holds 0 16 column.ordinal
  name : row.cells[1]? = some (.text column.name)
  typmod : row.Holds 2 32 column.typmod
  dims : row.Holds 3 32 column.dims
  notNull : row.cells[4]? = some (.bool column.notNull)
  hasDefault : row.cells[5]? = some (.bool column.hasDefault)
  isPrimary : row.cells[6]? = some (.bool column.isPrimary)
  type : ∃ oid, row.HoldsOid 7 oid ∧ catalog.typeByOid? oid = some column.type

theorem Column.ofRow_eq_ok {catalog : Catalog} {relation : String} {row : Row} {column : Column} :
    ofRow catalog relation row = .ok column ↔ column.ToldBy catalog row := by
  simp only [ofRow, headOfRow, bind_eq_ok, liftCatalog_eq_ok, liftConnection_eq_ok, Row.oid_eq_ok,
    Row.text_eq_ok, pure_eq_ok]
  constructor
  · rintro ⟨⟨name, oid⟩, ⟨_, nameHeld, _, oidHeld, same⟩, read⟩
    cases same
    split at read
    · rename_i type found
      simp only [ofTypedRow, liftCatalog_eq_ok, bind_eq_ok, liftConnection_eq_ok, Row.smallInt_eq_ok,
        Row.columnInt_eq_ok, Row.bool_eq_ok, pure_eq_ok] at read
      obtain ⟨ordinal, ordinalHeld, dims, dimsHeld, typmod, typmodHeld, notNull, notNullHeld, hasDefault,
        hasDefaultHeld, isPrimary, isPrimaryHeld, rfl⟩ := read
      exact ⟨ordinalHeld, nameHeld, typmodHeld, dimsHeld, notNullHeld, hasDefaultHeld, isPrimaryHeld,
        _, oidHeld, found⟩
    · cases read
  · rintro ⟨ordinal, name, typmod, dims, notNull, hasDefault, isPrimary, oid, oidHeld, found⟩
    refine ⟨(column.name, oid), ⟨_, name, _, oidHeld, rfl⟩, ?_⟩
    simp only [found, ofTypedRow, liftCatalog_eq_ok, bind_eq_ok, liftConnection_eq_ok, Row.smallInt_eq_ok,
      Row.columnInt_eq_ok, Row.bool_eq_ok, pure_eq_ok]
    exact ⟨_, ordinal, _, dims, _, typmod, _, notNull, _, hasDefault, _, isPrimary, rfl⟩

structure Constraint.ToldBy (row : Row) (constraint : Constraint) : Prop where
  oid : row.HoldsOid 0 constraint.oid
  name : row.cells[1]? = some (.text constraint.name)
  kind : row.HoldsCode 2 ConstraintKind.ofChar? constraint.kind
  deferrable : row.cells[3]? = some (.bool constraint.deferrable)
  deferred : row.cells[4]? = some (.bool constraint.deferred)
  key : row.HoldsOrdinals 5 constraint.key
  foreignKey : row.HoldsOrdinals 6 constraint.foreignKey

theorem Constraint.ofRow_eq_ok {row : Row} {constraint : Constraint} :
    ofRow row = .ok constraint ↔ constraint.ToldBy row := by
  simp only [ofRow, bind_eq_ok, liftConnection_eq_ok, Row.char_eq_ok, Row.oid_eq_ok, Row.text_eq_ok,
    Row.bool_eq_ok, Row.ordinals_eq_ok, decodeChar_eq_ok, pure_eq_ok]
  constructor
  · rintro ⟨code, atKind, oid, oidHeld, name, nameHeld, kind, kindRead, deferrable, deferrableHeld,
      deferred, deferredHeld, key, keyHeld, foreignKey, foreignKeyHeld, rfl⟩
    exact ⟨oidHeld, nameHeld, ⟨code, atKind, kindRead⟩, deferrableHeld, deferredHeld, keyHeld,
      foreignKeyHeld⟩
  · rintro ⟨oid, name, ⟨code, atKind, kind⟩, deferrable, deferred, key, foreignKey⟩
    exact ⟨code, atKind, _, oid, _, name, _, kind, _, deferrable, _, deferred, _, key, _, foreignKey, rfl⟩

structure Index.ToldBy (row : Row) (index : Index) : Prop where
  name : row.cells[0]? = some (.text index.name)
  attributeCount : row.Holds 1 16 index.attributeCount
  unique : row.cells[2]? = some (.bool index.unique)
  primary : row.cells[3]? = some (.bool index.primary)
  exclusion : row.cells[4]? = some (.bool index.exclusion)
  immediate : row.cells[5]? = some (.bool index.immediate)
  ready : row.cells[6]? = some (.bool index.ready)
  key : row.HoldsOrdinals 7 index.key
  definition : row.cells[8]? = some (.text index.definition)

theorem Index.ofRow_eq_ok {row : Row} {index : Index} : ofRow row = .ok index ↔ index.ToldBy row := by
  simp only [ofRow, bind_eq_ok, liftConnection_eq_ok, Row.text_eq_ok, Row.smallInt_eq_ok, Row.bool_eq_ok,
    Row.ordinals_eq_ok, pure_eq_ok]
  constructor
  · rintro ⟨name, nameHeld, count, countHeld, unique, uniqueHeld, primary, primaryHeld, exclusion,
      exclusionHeld, immediate, immediateHeld, ready, readyHeld, key, keyHeld, definition, definitionHeld,
      rfl⟩
    exact ⟨nameHeld, countHeld, uniqueHeld, primaryHeld, exclusionHeld, immediateHeld, readyHeld, keyHeld,
      definitionHeld⟩
  · rintro ⟨name, count, unique, primary, exclusion, immediate, ready, key, definition⟩
    exact ⟨_, name, _, count, _, unique, _, primary, _, exclusion, _, immediate, _, ready, _, key, _,
      definition, rfl⟩

theorem Relation.headOfRow_eq_ok {row : Row} {oid : Oid} {kind : RelationKind} :
    headOfRow row = .ok (oid, kind) ↔
      row.HoldsOid 0 oid ∧ row.HoldsCode 1 (fun c => some (RelationKind.ofChar c)) kind := by
  simp only [headOfRow, bind_eq_ok, liftConnection_eq_ok, Row.oid_eq_ok, Row.char_eq_ok, pure_eq_ok,
    Row.HoldsCode, Option.some.injEq, Prod.mk.injEq]
  constructor
  · rintro ⟨_, held, code, atKind, rfl, read⟩
    exact ⟨held, code, atKind, read⟩
  · rintro ⟨held, code, atKind, read⟩
    exact ⟨_, held, code, atKind, rfl, read⟩

end RecordSql
