import Mathlib.Data.List.Forall2
import RecordSql.Command.Leaves
import RecordSql.Proofs.Command.Walk
import RecordSql.Statement.Lower
import RecordSql.Statement.Parts

/-!
The conditions that predicate lists become. The walk with open groups builds what the recursion over
the list builds, and the tests are those of the leaves, one after the other.
-/
namespace RecordSql

theorem Binding.run_bind {α β : Type} (binding : Binding α) (next : α → Binding β)
    (before : List ArgSource) :
    (binding >>= next).run before = (next (binding.run before).1).run (binding.run before).2 := rfl

theorem Binding.run_map {α β : Type} (f : α → β) (binding : Binding α) (before : List ArgSource) :
    (f <$> binding).run before = (f (binding.run before).1, (binding.run before).2) := rfl

theorem Binding.run_pure {α : Type} (value : α) (before : List ArgSource) :
    (pure value : Binding α).run before = (value, before) := rfl

theorem Binding.forall₂_mapM {α β : Type} {step : α → Binding β} (items : List α)
    (before : List ArgSource) :
    List.Forall₂ (fun item value => ∃ start, ((step item).run start).1 = value) items
      ((items.mapM step).run before).1 := by
  induction items generalizing before with
  | nil => exact .nil
  | cons item items ih =>
    rw [List.mapM_cons]
    exact .cons ⟨before, rfl⟩ (ih _)

theorem Binding.map_mapM {α β γ : Type} {step : α → Binding β} {f : β → γ} {g : α → γ}
    {items : List α} (each : ∀ item ∈ items, ∀ before, f ((step item).run before).1 = g item)
    (before : List ArgSource) : ((items.mapM step).run before).1.map f = items.map g := by
  induction items generalizing before with
  | nil => rfl
  | cons item items ih =>
    obtain ⟨now, later⟩ := List.forall_mem_cons.mp each
    have head := now before
    have rest := ih later ((step item).run before).2
    rw [List.mapM_cons, List.map_cons, ← head, ← rest]
    rfl

theorem Binding.flatMap_mapM {α β γ : Type} {step : α → Binding β} {f : β → List γ}
    {g : α → List γ} {items : List α}
    (each : ∀ item ∈ items, ∀ before, f ((step item).run before).1 = g item)
    (before : List ArgSource) : ((items.mapM step).run before).1.flatMap f = items.flatMap g := by
  rw [List.flatMap_def, Binding.map_mapM each, ← List.flatMap_def]

theorem Binding.flatMap_mapM_nil {α β γ : Type} {step : α → Binding β} {f : β → List γ}
    {items : List α} (each : ∀ item ∈ items, ∀ before, f ((step item).run before).1 = [])
    (before : List ArgSource) : ((items.mapM step).run before).1.flatMap f = [] := by
  rw [Binding.flatMap_mapM (g := fun _ => []) each]
  simp

theorem Condition.tests_eq_flatMap (clauses : Condition) :
    Condition.tests clauses = clauses.flatMap Clause.tests := by
  induction clauses with
  | nil => rfl
  | cons clause clauses ih => rw [Condition.tests, ih, List.flatMap_cons]

theorem filterTests_of_clauses (clauses : Condition) :
    filterTests (if clauses.isEmpty then none else some clauses) = Condition.tests clauses := by
  cases clauses <;> rfl

theorem Condition.groups_eq_flatMap (clauses : Condition) :
    Condition.groups clauses = clauses.flatMap Clause.groups := by
  induction clauses with
  | nil => rfl
  | cons clause clauses ih => rw [Condition.groups, ih, List.flatMap_cons]

namespace Lowering

variable (lowering : Lowering)

mutual
theorem foldlM_event_entry (entry : Entry) (depth : Nat) (first : Bool) (connector : Connector)
    (clauses : Condition) (outer : OpenGroups) :
    (preorderEntry depth first entry).foldlM lowering.event ((connector, clauses) :: outer) =
      (fun clause => (connector, clauses ++ [clause]) :: outer) <$> lowering.clauseOf entry := by
  cases entry with
  | leaf inner leaf =>
    simp [preorderEntry, event, clauseOf, OpenGroups.add]
  | group inner name entries =>
    simp only [preorderEntry, List.cons_append, List.foldlM_cons, List.foldlM_append, event,
      pure_bind, foldlM_event entries]
    simp [clauseOf, OpenGroups.add]

theorem foldlM_event (entries : List Entry) (depth : Nat) (first : Bool) (connector : Connector)
    (clauses : Condition) (outer : OpenGroups) :
    (preorder depth first entries).foldlM lowering.event ((connector, clauses) :: outer) =
      (fun added => (connector, clauses ++ added) :: outer) <$> lowering.clausesOf entries := by
  cases entries with
  | nil => simp [preorder, clausesOf]
  | cons entry entries =>
    simp only [preorder, List.foldlM_append, foldlM_event_entry, bind_map_left, foldlM_event entries]
    simp [clausesOf]
end

theorem condition_eq_clausesOf (entries : List Entry) :
    lowering.condition entries = lowering.clausesOf entries := by
  simp [condition, walkEvents_eq_preorder, foldlM_event]

mutual
theorem tests_clauseOf (entry : Entry) :
    Clause.tests <$> lowering.clauseOf entry = entry.leaves.mapM lowering.leaf := by
  cases entry with
  | leaf connector leaf => simp [clauseOf, Clause.tests, Entry.leaves]
  | group connector name entries =>
    simp [clauseOf, Clause.tests, Entry.leaves, ← tests_clausesOf entries]

theorem tests_clausesOf (entries : List Entry) :
    Condition.tests <$> lowering.clausesOf entries = (Entry.leavesOf entries).mapM lowering.leaf := by
  cases entries with
  | nil => simp [clausesOf, Condition.tests, Entry.leavesOf]
  | cons entry entries =>
    simp [clausesOf, Condition.tests, Entry.leavesOf, List.mapM_append, ← tests_clauseOf entry,
      ← tests_clausesOf entries]
end

theorem tests_run_clausesOf (entries : List Entry) (before : List ArgSource) :
    Condition.tests ((lowering.clausesOf entries).run before).1 =
      (((Entry.leavesOf entries).mapM lowering.leaf).run before).1 := by
  rw [← tests_clausesOf, Binding.run_map]

theorem tests_combine (leading : Condition) (user : Option Condition) :
    filterTests (combine leading user) = Condition.tests leading ++ filterTests user := by
  cases leading with
  | nil => rfl
  | cons clause clauses =>
    cases user with
    | none => simp [combine, filterTests]
    | some user => simp [combine, filterTests, Condition.tests_eq_flatMap, Clause.tests]

theorem isEmpty_clausesOf (entries : List Entry) (before : List ArgSource) :
    ((lowering.clausesOf entries).run before).1.isEmpty = entries.isEmpty := by
  cases entries with
  | nil => rfl
  | cons entry entries => simp only [clausesOf, Binding.run_bind, Binding.run_pure, List.isEmpty_cons]

mutual
theorem filled_clauseOf (entry : Entry) (filled : entry.GroupsFilled) (before : List ArgSource) :
    ∀ inner ∈ ((lowering.clauseOf entry).run before).1.groups, inner ≠ [] := by
  intro inner member
  cases entry with
  | leaf connector leaf => cases member
  | group connector name entries =>
    obtain ⟨present, inside⟩ := filled
    rcases List.mem_cons.mp member with rfl | deeper
    · have clauses := lowering.isEmpty_clausesOf entries before
      rw [List.isEmpty_eq_false_iff.mpr present] at clauses
      exact List.isEmpty_eq_false_iff.mp clauses
    · exact filled_clausesOf entries inside before inner deeper

theorem filled_clausesOf (entries : List Entry) (filled : Entry.AllGroupsFilled entries)
    (before : List ArgSource) :
    ∀ inner ∈ Condition.groups ((lowering.clausesOf entries).run before).1, inner ≠ [] := by
  intro inner member
  cases entries with
  | nil => cases member
  | cons entry entries =>
    rcases List.mem_append.mp member with here | later
    · exact filled_clauseOf entry filled.1 before inner here
    · exact filled_clausesOf entries filled.2 _ inner later
end

/-- A clause is what an entry becomes: a leaf a test, and a group a group of what its entries become. -/
inductive Image (lowering : Lowering) : Entry → Clause → Prop
  | leaf (connector : Connector) (leaf : Leaf) (before : List ArgSource) :
    Image lowering (.leaf connector leaf) (.test connector ((lowering.leaf leaf).run before).1)
  | group (connector : Connector) (name : String) {entries : List Entry} {clauses : Condition} :
    List.Forall₂ (Image lowering) entries clauses →
      Image lowering (.group connector name entries) (.group connector clauses)

mutual
theorem image_clauseOf (entry : Entry) (before : List ArgSource) :
    lowering.Image entry ((lowering.clauseOf entry).run before).1 := by
  cases entry with
  | leaf connector leaf => exact .leaf connector leaf before
  | group connector name entries => exact .group connector name (image_clausesOf entries before)

theorem image_clausesOf (entries : List Entry) (before : List ArgSource) :
    List.Forall₂ lowering.Image entries ((lowering.clausesOf entries).run before).1 := by
  cases entries with
  | nil => exact .nil
  | cons entry entries => exact .cons (image_clauseOf entry before) (image_clausesOf entries _)
end

theorem groups_joinConditions (item : JoinItem) (before : List ArgSource) :
    Condition.groups ((lowering.joinConditions item).run before).1 = [] := by
  rw [Condition.groups_eq_flatMap]
  exact Binding.flatMap_mapM_nil (fun _ _ _ => rfl) before

end Lowering

end RecordSql
