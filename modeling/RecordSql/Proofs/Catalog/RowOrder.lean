import RecordSql.Proofs.Catalog.Resolution
import RecordSql.Proofs.Repetition

namespace RecordSql

def CatalogCast.key (cast : CatalogCast) : Oid × Oid := (cast.target, cast.source)

theorem CatalogCast.key_eq_iff {cast : CatalogCast} {target source : Oid} :
    (cast.target == target && cast.source == source) = true ↔ cast.key = (target, source) := by
  simp only [CatalogCast.key, Bool.and_eq_true, beq_iff_eq, Prod.mk.injEq]

theorem find?_eq_some_iff_of_single {α : Type} {p : α → Bool} {items : List α} {item : α}
    (single : ∀ one ∈ items, ∀ other ∈ items, p one = true → p other = true → one = other) :
    items.find? p = some item ↔ item ∈ items ∧ p item = true := by
  constructor
  · exact fun found => ⟨List.mem_of_find?_eq_some found, List.find?_some found⟩
  · rintro ⟨member, passed⟩
    obtain ⟨first, found⟩ := Option.isSome_iff_exists.mp (List.find?_isSome.mpr ⟨item, member, passed⟩)
    rw [found, single first (List.mem_of_find?_eq_some found) item member (List.find?_some found) passed]

namespace Catalog

/-- No two types have the same number or name, and no two operators or casts are for the same types. -/
structure ListsOnce (catalog : Catalog) : Prop where
  typeOids : (catalog.types.map CatalogType.oid).Nodup
  typeNames : (catalog.types.map CatalogType.name).Nodup
  operators : (catalog.operators.map CatalogOperator.key).Nodup
  casts : (catalog.casts.map CatalogCast.key).Nodup

/-- The same types, operators and casts, in any order. -/
structure SameRows (catalog other : Catalog) : Prop where
  types : other.types.Perm catalog.types
  operators : other.operators.Perm catalog.operators
  casts : other.casts.Perm catalog.casts

structure AnsweredBy (catalog other : Catalog) : Prop where
  typeByOid : ∀ oid, other.typeByOid? oid = catalog.typeByOid? oid
  typeByName : ∀ name, other.typeByName? name = catalog.typeByName? name
  operatorResult : ∀ name left right, other.operatorResult? name left right = catalog.operatorResult? name left right
  castContext : ∀ target source, other.castContext? target source = catalog.castContext? target source

variable {catalog other : Catalog}

theorem ListsOnce.reordered (once : catalog.ListsOnce) (same : catalog.SameRows other) : other.ListsOnce where
  typeOids := (same.types.map _).nodup_iff.mpr once.typeOids
  typeNames := (same.types.map _).nodup_iff.mpr once.typeNames
  operators := (same.operators.map _).nodup_iff.mpr once.operators
  casts := (same.casts.map _).nodup_iff.mpr once.casts

theorem typeByOid?_eq_some_iff (once : catalog.ListsOnce) {oid : Oid} {type : CatalogType} :
    catalog.typeByOid? oid = some type ↔ type ∈ catalog.types ∧ type.oid = oid := by
  rw [typeByOid?, lastWhere?_eq_some_iff (single_of_nodup once.typeOids fun _ => beq_iff_eq), beq_iff_eq]

theorem typeByName?_eq_some_iff (once : catalog.ListsOnce) {name : String} {type : CatalogType} :
    catalog.typeByName? name = some type ↔ type ∈ catalog.types ∧ type.name = name := by
  rw [typeByName?, find?_eq_some_iff_of_single (single_of_nodup once.typeNames fun _ => beq_iff_eq), beq_iff_eq]

theorem castContext?_eq_some_iff (once : catalog.ListsOnce) {target source : Oid} {context : CastContext} :
    catalog.castContext? target source = some context ↔
      ∃ cast ∈ catalog.casts, cast.key = (target, source) ∧ cast.context = context := by
  simp only [castContext?, Option.map_eq_some_iff, CatalogCast.key_eq_iff, and_assoc,
    lastWhere?_eq_some_iff (single_of_nodup once.casts fun _ => CatalogCast.key_eq_iff)]

theorem answeredBy_of_sameRows (once : catalog.ListsOnce) (same : catalog.SameRows other) :
    catalog.AnsweredBy other := by
  have otherOnce := once.reordered same
  constructor
  · intro oid
    ext type
    rw [typeByOid?_eq_some_iff once, typeByOid?_eq_some_iff otherOnce, same.types.mem_iff]
  · intro name
    ext type
    rw [typeByName?_eq_some_iff once, typeByName?_eq_some_iff otherOnce, same.types.mem_iff]
  · intro name left right
    ext result
    simp only [operatorResult?_eq_some_iff once.operators, operatorResult?_eq_some_iff otherOnce.operators,
      same.operators.mem_iff]
  · intro target source
    ext context
    simp only [castContext?_eq_some_iff once, castContext?_eq_some_iff otherOnce, same.casts.mem_iff]

theorem sortedLT_implicitTargets (source : Oid) : (catalog.implicitTargets source).SortedLT := by
  refine List.sortedLE_mergeSort.sortedLT_of_nodup ?_
  rw [List.nodup_mergeSort]
  exact (nodup_eraseDups _).filter _

namespace AnsweredBy

variable (same : catalog.AnsweredBy other)
include same

theorem castsImplicitly (target source : Oid) :
    other.castsImplicitly target source = catalog.castsImplicitly target source := by
  rw [Catalog.castsImplicitly, Catalog.castsImplicitly, same.castContext]

theorem castsOnAssignment (target source : Oid) :
    other.castsOnAssignment target source = catalog.castsOnAssignment target source := by
  rw [Catalog.castsOnAssignment, Catalog.castsOnAssignment, same.castsImplicitly, same.castContext]

theorem implicitTargets (source : Oid) : other.implicitTargets source = catalog.implicitTargets source := by
  refine (sortedLT_implicitTargets source).eq_of_mem_iff (sortedLT_implicitTargets source) fun target => ?_
  rw [mem_implicitTargets, mem_implicitTargets, same.castsImplicitly]

theorem operandTypes (operand : Oid) : other.operandTypes operand = catalog.operandTypes operand := by
  rw [Catalog.operandTypes, Catalog.operandTypes, polymorphicTypes, polymorphicTypes, same.implicitTargets,
    same.typeByOid]

theorem resolveOperator (name : String) (left right : Oid) :
    other.resolveOperator? name left right = catalog.resolveOperator? name left right := by
  simp only [resolveOperator?, same.operandTypes, same.operatorResult]

end AnsweredBy

end Catalog

end RecordSql
