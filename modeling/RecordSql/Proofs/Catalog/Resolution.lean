import Mathlib.Data.List.Nodup
import RecordSql.Proofs.Catalog.Operators

namespace RecordSql

section

variable {α : Type} {p q : α → Bool} {items : List α} {item : α}

theorem mem_of_lastWhere? (found : lastWhere? p items = some item) : item ∈ items ∧ p item = true := by
  induction items with
  | nil => cases found
  | cons first rest ih =>
    rw [lastWhere?] at found
    split at found
    · rename_i later
      cases found
      obtain ⟨member, passed⟩ := ih later
      exact ⟨List.mem_cons_of_mem first member, passed⟩
    · split at found
      · rename_i passed
        cases found
        exact ⟨List.mem_cons_self, passed⟩
      · cases found

/-- Where no two items satisfy the test, the last item that does is the one that does. -/
theorem lastWhere?_eq_some_iff
    (single : ∀ one ∈ items, ∀ other ∈ items, p one = true → p other = true → one = other) :
    lastWhere? p items = some item ↔ item ∈ items ∧ p item = true := by
  constructor
  · exact mem_of_lastWhere?
  · rintro ⟨member, passed⟩
    obtain ⟨last, found⟩ := Option.isSome_iff_exists.mp (lastWhere?_isSome.mpr ⟨item, member, passed⟩)
    obtain ⟨listed, lastPassed⟩ := mem_of_lastWhere? found
    rw [found, single last listed item member lastPassed passed]

theorem single_of_nodup {β : Type} {key : α → β} {wanted : β} (distinct : (items.map key).Nodup)
    (tests : ∀ item, p item = true ↔ key item = wanted) :
    ∀ one ∈ items, ∀ other ∈ items, p one = true → p other = true → one = other := by
  intro one oneListed other otherListed onePassed otherPassed
  have sameKey : key one = key other := ((tests one).mp onePassed).trans ((tests other).mp otherPassed).symm
  exact List.inj_on_of_nodup_map distinct oneListed otherListed sameKey

theorem lastWhere?_filter (keeps : ∀ item, p item = true → q item = true) :
    lastWhere? p (items.filter q) = lastWhere? p items := by
  induction items with
  | nil => rfl
  | cons first rest ih =>
    by_cases kept : q first = true
    · rw [List.filter_cons_of_pos kept, lastWhere?, lastWhere?, ih]
    · have failed : ¬ p first = true := fun passed => kept (keeps first passed)
      rw [List.filter_cons_of_neg kept, ih, lastWhere?, if_neg failed]
      cases lastWhere? p rest <;> rfl

end

def CatalogOperator.isPolymorphic (op : CatalogOperator) : Bool :=
  Oid.isPolymorphic op.left || Oid.isPolymorphic op.right

def CatalogOperator.key (op : CatalogOperator) : String × Oid × Oid := (op.name, op.left, op.right)

theorem CatalogOperator.key_eq_iff {op : CatalogOperator} {name : String} {left right : Oid} :
    (op.name == name && op.left == left && op.right == right) = true ↔ op.key = (name, left, right) := by
  simp only [CatalogOperator.key, Bool.and_eq_true, beq_iff_eq, Prod.mk.injEq, and_assoc]

namespace Catalog

variable {catalog : Catalog} {name : String} {left right result : Oid}

def concreteOnly (catalog : Catalog) : Catalog :=
  { catalog with operators := catalog.operators.filter fun op => !op.isPolymorphic }

theorem mem_of_operatorResult? (found : catalog.operatorResult? name left right = some result) :
    ∃ op ∈ catalog.operators, op.key = (name, left, right) ∧ op.result = result := by
  obtain ⟨op, last, same⟩ := Option.map_eq_some_iff.mp found
  obtain ⟨listed, matched⟩ := mem_of_lastWhere? last
  exact ⟨op, listed, CatalogOperator.key_eq_iff.mp matched, same⟩

theorem operatorResult?_eq_some_iff (distinct : (catalog.operators.map CatalogOperator.key).Nodup) :
    catalog.operatorResult? name left right = some result ↔
      ∃ op ∈ catalog.operators, op.key = (name, left, right) ∧ op.result = result := by
  simp only [operatorResult?, Option.map_eq_some_iff, CatalogOperator.key_eq_iff, and_assoc,
    lastWhere?_eq_some_iff (single_of_nodup distinct fun _ => CatalogOperator.key_eq_iff)]

theorem operatorResult?_concreteOnly (leftConcrete : Oid.isPolymorphic left = false)
    (rightConcrete : Oid.isPolymorphic right = false) :
    catalog.concreteOnly.operatorResult? name left right = catalog.operatorResult? name left right := by
  unfold operatorResult? concreteOnly
  rw [lastWhere?_filter]
  intro op matched
  cases CatalogOperator.key_eq_iff.mp matched
  simp [CatalogOperator.isPolymorphic, leftConcrete, rightConcrete]

/-- What is found is the result of an operator whose operand types those of the operands stand for, and if
it is polymorphic, they are equal. -/
theorem operator_of_resolveOperator? (found : catalog.resolveOperator? name left right = some result) :
    ∃ op ∈ catalog.operators, op.name = name ∧ op.result = result ∧ catalog.Stands left op.left ∧
      catalog.Stands right op.right ∧ (op.isPolymorphic = true → left = right) := by
  obtain ⟨l, leftTried, found⟩ := List.exists_of_findSome?_eq_some found
  obtain ⟨r, rightTried, found⟩ := List.exists_of_findSome?_eq_some found
  split at found
  · cases found
  · rename_i allowed
    obtain ⟨op, listed, matched, same⟩ := mem_of_operatorResult? found
    cases matched
    refine ⟨op, listed, rfl, same, mem_operandTypes.mp leftTried, mem_operandTypes.mp rightTried, ?_⟩
    simpa [CatalogOperator.isPolymorphic] using allowed

theorem resolveOperator?_of_exact (found : catalog.operatorResult? name left right = some result)
    (leftConcrete : Oid.isPolymorphic left = false) (rightConcrete : Oid.isPolymorphic right = false) :
    catalog.resolveOperator? name left right = some result := by
  simp [resolveOperator?, operandTypes, leftConcrete, rightConcrete, found]

theorem resolveOperator?_concreteOnly (differ : left ≠ right) :
    catalog.concreteOnly.resolveOperator? name left right = catalog.resolveOperator? name left right := by
  have different : (left != right) = true := bne_iff_ne.mpr differ
  have same : ∀ l r, (if (Oid.isPolymorphic l || Oid.isPolymorphic r) && left != right then none
      else catalog.concreteOnly.operatorResult? name l r) =
      if (Oid.isPolymorphic l || Oid.isPolymorphic r) && left != right then none
      else catalog.operatorResult? name l r := by
    intro l r
    rw [different, Bool.and_true]
    split
    · rfl
    · rename_i concrete
      simp only [Bool.or_eq_true, not_or, Bool.not_eq_true] at concrete
      exact operatorResult?_concreteOnly concrete.1 concrete.2
  unfold resolveOperator?
  simp only [same]
  rfl

end Catalog

end RecordSql
