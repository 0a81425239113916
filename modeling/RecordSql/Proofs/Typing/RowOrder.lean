import Mathlib.Data.List.Permutation
import RecordSql.Proofs.Catalog.RowOrder
import RecordSql.Typing.Assignment
import RecordSql.Typing.Comparison

namespace RecordSql

namespace Catalog.AnsweredBy

variable {catalog other : Catalog} (same : catalog.AnsweredBy other)
include same

theorem canCompare (column : CatalogType) (candidates : List Oid) (op : CompareOp) :
    RecordSql.canCompare other column candidates op = RecordSql.canCompare catalog column candidates op := by
  simp only [RecordSql.canCompare, same.resolveOperator]

theorem fieldCandidates (type : HostType) :
    RecordSql.fieldCandidates other type = RecordSql.fieldCandidates catalog type := by
  have named : other.typeByName? = catalog.typeByName? := funext same.typeByName
  rw [RecordSql.fieldCandidates, RecordSql.fieldCandidates, named]

theorem coercible (target : Oid) : RecordSql.coercible other target = RecordSql.coercible catalog target := by
  funext candidate
  rw [RecordSql.coercible, RecordSql.coercible, same.castsOnAssignment]

theorem arrayElement (type : CatalogType) : arrayElement? other type = arrayElement? catalog type := by
  rw [arrayElement?, arrayElement?, same.typeByOid]

theorem canCoerce (column : Column) (type : HostType) :
    RecordSql.canCoerce other column type = RecordSql.canCoerce catalog column type := by
  have elements : ∀ target, elementsCoercible other target type.required =
      elementsCoercible catalog target type.required := by
    intro target
    simp only [elementsCoercible, same.fieldCandidates, same.coercible]
  simp only [RecordSql.canCoerce, same.arrayElement, same.fieldCandidates, same.coercible, elements]

theorem assignAdapter (column : Column) (field : BoundField) (direction : Direction) :
    assignAdapter? other column field direction = assignAdapter? catalog column field direction := by
  simp only [assignAdapter?, same.canCoerce]

end Catalog.AnsweredBy

/-- Catalogues with the same types, operators and casts, each listed once in any order, decide alike. In each
an operator for just the types of the operands is chosen, whatever casts there are; and one for types that
stand for many is chosen, or so much as matters, only for operands of one type. -/
theorem type_decisions_follow_rows :
    (∀ catalog other : Catalog, catalog.ListsOnce → catalog.SameRows other →
      (∀ name left right, other.resolveOperator? name left right = catalog.resolveOperator? name left right) ∧
      (∀ column candidates op, canCompare other column candidates op = canCompare catalog column candidates op) ∧
      (∀ column type, canCoerce other column type = canCoerce catalog column type) ∧
      ∀ column field direction,
        assignAdapter? other column field direction = assignAdapter? catalog column field direction) ∧
    ∀ catalog : Catalog,
      ((catalog.operators.map CatalogOperator.key).Nodup → ∀ op ∈ catalog.operators,
        Oid.isPolymorphic op.left = false → Oid.isPolymorphic op.right = false →
          catalog.resolveOperator? op.name op.left op.right = some op.result) ∧
      ∀ name left right,
        (∀ result, catalog.resolveOperator? name left right = some result →
          ∃ op ∈ catalog.operators, op.name = name ∧ op.result = result ∧ catalog.Stands left op.left ∧
            catalog.Stands right op.right ∧ (op.isPolymorphic = true → left = right)) ∧
        (catalog.concreteOnly.resolveOperator? name left right ≠ catalog.resolveOperator? name left right →
          left = right) := by
  constructor
  · intro catalog other once same
    have answered := Catalog.answeredBy_of_sameRows once same
    exact ⟨answered.resolveOperator, answered.canCompare, answered.canCoerce, answered.assignAdapter⟩
  · intro catalog
    constructor
    · intro distinct op listed leftConcrete rightConcrete
      have declared := (Catalog.operatorResult?_eq_some_iff distinct).mpr ⟨op, listed, rfl, rfl⟩
      exact Catalog.resolveOperator?_of_exact declared leftConcrete rightConcrete
    · intro name left right
      refine ⟨fun result => Catalog.operator_of_resolveOperator?, fun matters => ?_⟩
      by_contra differ
      exact matters (Catalog.resolveOperator?_concreteOnly differ)

def threeTexts : Catalog where
  types :=
    [⟨Oid.varchar, "varchar", "character varying", -1, .base, .string, 0, false⟩,
     ⟨Oid.bpchar, "bpchar", "character", -1, .base, .string, 0, false⟩,
     ⟨Oid.text, "text", "text", -1, .base, .string, 0, true⟩]
  operators :=
    [⟨"~~", Oid.bpchar, Oid.text, Oid.text⟩, ⟨"~~", Oid.text, Oid.text, Oid.bool⟩,
     ⟨"=", Oid.anyelement, Oid.anyelement, Oid.bool⟩]
  casts :=
    [⟨Oid.bpchar, Oid.varchar, .implicit⟩, ⟨Oid.text, Oid.varchar, .implicit⟩, ⟨Oid.text, Oid.bpchar, .implicit⟩]

def threeTextsReversed : Catalog where
  types := threeTexts.types.reverse
  operators := threeTexts.operators.reverse
  casts := threeTexts.casts.reverse

theorem type_decisions_follow_rows_threeTexts :
    threeTexts.ListsOnce ∧ threeTexts.SameRows threeTextsReversed ∧
      threeTexts.resolveOperator? "~~" Oid.varchar Oid.text = some Oid.bool ∧
      threeTextsReversed.resolveOperator? "~~" Oid.varchar Oid.text = some Oid.bool ∧
      threeTexts.resolveOperator? "~~" Oid.bpchar Oid.text = some Oid.text ∧
      threeTexts.resolveOperator? "=" Oid.varchar Oid.varchar = some Oid.bool ∧
      threeTexts.concreteOnly.resolveOperator? "=" Oid.varchar Oid.text =
        threeTexts.resolveOperator? "=" Oid.varchar Oid.text := by
  have once : threeTexts.ListsOnce := ⟨by decide +kernel, by decide +kernel, by decide +kernel, by decide +kernel⟩
  have same : threeTexts.SameRows threeTextsReversed :=
    ⟨List.reverse_perm _, List.reverse_perm _, List.reverse_perm _⟩
  have chosen : threeTexts.resolveOperator? "~~" Oid.varchar Oid.text = some Oid.bool := by cbv
  obtain ⟨decided, each⟩ := type_decisions_follow_rows
  refine ⟨once, same, chosen, ?_, ?_, by cbv, ?_⟩
  · rw [(decided threeTexts threeTextsReversed once same).1, chosen]
  · exact (each threeTexts).1 once.operators ⟨"~~", Oid.bpchar, Oid.text, Oid.text⟩ (by decide +kernel) rfl rfl
  · by_contra matters
    have equal := ((each threeTexts).2 "=" Oid.varchar Oid.text).2 matters
    exact absurd equal (by decide)

end RecordSql
