import RecordSql.Catalog.Basic

namespace RecordSql

theorem lastWhere?_isSome {α : Type} {p : α → Bool} {items : List α} :
    (lastWhere? p items).isSome = true ↔ ∃ item ∈ items, p item = true := by
  induction items with
  | nil => simp [lastWhere?]
  | cons item items ih =>
    rw [lastWhere?]
    split
    · rename_i found later
      rw [later] at ih
      simp [ih.mp rfl]
    · rename_i none
      rw [none] at ih
      have absent : ¬ ∃ item ∈ items, p item = true := fun present => by simpa using ih.mpr present
      split <;> simp_all

namespace Catalog

variable {catalog : Catalog}

/-- An operand of a type may be taken as one of another type. -/
def Stands (catalog : Catalog) (operand type : Oid) : Prop :=
  type = operand ∨ catalog.castsImplicitly type operand = true ∨
    type ∈ catalog.polymorphicTypes operand

instance (operand type : Oid) : Decidable (catalog.Stands operand type) :=
  inferInstanceAs (Decidable (_ ∨ _ ∨ _))

/-- There is an operator of the name whose operand types the two types stand for. Those that are
polymorphic are the same on both sides. -/
def HasOperator (catalog : Catalog) (name : String) (left right : Oid) : Prop :=
  ∃ op ∈ catalog.operators, op.name = name ∧ catalog.Stands left op.left ∧
    catalog.Stands right op.right ∧
    ((Oid.isPolymorphic op.left || Oid.isPolymorphic op.right) = true → left = right)

instance (name : String) (left right : Oid) : Decidable (catalog.HasOperator name left right) :=
  inferInstanceAs (Decidable (∃ op ∈ catalog.operators, _ ∧ _ ∧ _ ∧ (_ → _)))

theorem mem_implicitTargets {source target : Oid} :
    target ∈ catalog.implicitTargets source ↔ catalog.castsImplicitly target source = true := by
  simp only [implicitTargets, List.mem_mergeSort, List.mem_filter, List.mem_eraseDups,
    and_iff_right_iff_imp]
  intro casts
  have context : (catalog.castContext? target source).isSome = true := by
    rw [castsImplicitly, beq_iff_eq] at casts
    rw [casts]
    rfl
  rw [castContext?, Option.isSome_map, lastWhere?_isSome] at context
  obtain ⟨cast, listed, same⟩ := context
  simp only [Bool.and_eq_true, beq_iff_eq] at same
  exact List.mem_map.mpr ⟨cast, List.mem_filter.mpr ⟨listed, by simp [same]⟩, same.1⟩

theorem mem_operandTypes {operand type : Oid} :
    type ∈ catalog.operandTypes operand ↔ catalog.Stands operand type := by
  simp only [operandTypes, List.cons_append, List.mem_cons, List.mem_append, mem_implicitTargets,
    Stands]

theorem operatorResult?_isSome {name : String} {left right : Oid} :
    (catalog.operatorResult? name left right).isSome = true ↔
      ∃ op ∈ catalog.operators, op.name = name ∧ op.left = left ∧ op.right = right := by
  simp only [operatorResult?, Option.isSome_map, lastWhere?_isSome, Bool.and_eq_true, beq_iff_eq,
    and_assoc]

theorem resolveOperator?_isSome {name : String} {left right : Oid} :
    (catalog.resolveOperator? name left right).isSome = true ↔
      catalog.HasOperator name left right := by
  simp only [resolveOperator?, List.findSome?_isSome_iff, mem_operandTypes]
  constructor
  · rintro ⟨l, leftStands, r, rightStands, found⟩
    split at found
    · cases found
    · rename_i same
      obtain ⟨op, listed, named, rfl, rfl⟩ := operatorResult?_isSome.mp found
      exact ⟨op, listed, named, leftStands, rightStands, by simpa using same⟩
  · rintro ⟨op, listed, named, leftStands, rightStands, same⟩
    refine ⟨op.left, leftStands, op.right, rightStands, ?_⟩
    have found : (catalog.operatorResult? name op.left op.right).isSome = true :=
      operatorResult?_isSome.mpr ⟨op, listed, named, rfl, rfl⟩
    split
    · rename_i differ
      simp only [Bool.and_eq_true, bne_iff_ne] at differ
      exact absurd (same differ.1) differ.2
    · exact found

end Catalog

end RecordSql
