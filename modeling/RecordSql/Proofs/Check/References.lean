import RecordSql.Proofs.Check.Bindings

namespace RecordSql

def Pairing.use (pairing : Pairing) : ColumnUse := ⟨pairing.relation, ⟨none, pairing.column⟩⟩

namespace RelationSet

theorem get?_take {set : RelationSet} {count : Nat} {key : String} {relation : Relation}
    (found : (⟨set.relations.take count⟩ : RelationSet).get? key = some relation) :
    set.get? key = some relation := by
  unfold get? at found ⊢
  rw [← List.take_append_drop count set.relations, List.find?_append, found]
  rfl

end RelationSet

namespace Scope

variable {scope : Scope} {ref : ColumnRef} {relation : Relation} {column : Column}

/-- The use means a column of a relation that is loaded. -/
def Grounds (scope : Scope) (use : ColumnUse) : Prop :=
  ∃ relation, scope.relations.get? use.relation = some relation ∧ relation.HasColumn use.ref.name

def upTo (scope : Scope) (index : Nat) : Scope :=
  { scope with relations := ⟨scope.relations.relations.take (index + 2)⟩ }

theorem grounds_of_column (headed : scope.Headed)
    (found : scope.column false ref = .ok (relation, column)) :
    scope.Grounds ⟨scope.target.key, ref⟩ := by
  obtain ⟨has, named, unnamed⟩ := column_eq_ok found
  have present := Relation.hasColumn_of_column? has
  cases qualifier : ref.qualifier with
  | none =>
    have target := unnamed qualifier
    simp only [Bool.false_eq_true, if_false, List.mem_singleton] at target
    subst target
    exact ⟨_, by simpa [ColumnUse.relation, qualifier] using get?_target headed, present⟩
  | some given => exact ⟨relation, by simpa [ColumnUse.relation, qualifier] using named _ qualifier, present⟩

theorem grounds_of_upTo {index : Nat} {use : ColumnUse} (grounds : (scope.upTo index).Grounds use) :
    scope.Grounds use := by
  obtain ⟨relation, found, present⟩ := grounds
  exact ⟨relation, RelationSet.get?_take found, present⟩

variable {server : Server} {before : LiteralTypes}

theorem grounds_of_operandType (headed : scope.Headed) {operand : Operand}
    {result : Oid × LiteralTypes}
    (returned : (operandType server scope before operand).Returns result) :
    ∀ use ∈ operand.uses scope.target.key, scope.Grounds use := by
  intro use member
  cases operand with
  | field source => cases member
  | literal text => cases member
  | column ref =>
    cases List.mem_singleton.mp member
    obtain ⟨⟨relation, column⟩, found, _⟩ := Task.Returns.bind returned
    exact grounds_of_column headed (Task.returns_ofExcept.mp found)

theorem grounds_of_checkColumnTest (headed : scope.Headed) {test : ColumnTest}
    {after : LiteralTypes}
    (returned : (checkColumnTest server scope before column test).Returns after) :
    ∀ use ∈ (test.right?.map (Operand.uses scope.target.key)).getD [], scope.Grounds use := by
  obtain ⟨type, _, returned⟩ := Task.Returns.bind returned
  unfold ColumnTest.right?
  cases condition : test.condition with
  | test op => simp
  | compare op quantifier right =>
    rw [condition] at returned
    obtain ⟨result, typed, _⟩ := Task.Returns.bind returned
    simpa using grounds_of_operandType headed typed

theorem grounds_of_checkBound (headed : scope.Headed) {test : BetweenTest} {operand : Operand}
    {after : LiteralTypes}
    (returned : (checkBound server scope test column before operand).Returns after) :
    ∀ use ∈ operand.uses scope.target.key, scope.Grounds use := by
  cases operand with
  | field source => simp [Operand.uses]
  | literal text => simp [Operand.uses]
  | column ref =>
    obtain ⟨result, typed, _⟩ := Task.Returns.bind returned
    exact grounds_of_operandType headed typed

theorem grounds_of_checkLeaf (headed : scope.Headed) {leaf : Leaf} {after : LiteralTypes}
    (returned : (checkLeaf server scope before leaf).Returns after) :
    ∀ use ∈ leaf.uses scope.target.key, scope.Grounds use := by
  intro use member
  cases leaf with
  | field test =>
    cases List.mem_singleton.mp member
    obtain ⟨_, checked, _⟩ := Task.Returns.bind returned
    obtain ⟨⟨relation, column⟩, found, _⟩ := bind_eq_ok.mp (Task.returns_ofExcept.mp checked)
    exact grounds_of_column headed found
  | column test =>
    obtain ⟨⟨relation, column⟩, found, tested⟩ := Task.Returns.bind returned
    rcases List.mem_cons.mp member with rfl | right
    · exact grounds_of_column headed (Task.returns_ofExcept.mp found)
    · exact grounds_of_checkColumnTest headed tested use right
  | between test =>
    obtain ⟨⟨relation, column⟩, found, returned⟩ := Task.Returns.bind returned
    obtain ⟨known, lowChecked, highChecked⟩ := Task.Returns.bind returned
    simp only [Leaf.uses, List.cons_append, List.mem_cons, List.mem_append] at member
    rcases member with rfl | low | high
    · exact grounds_of_column headed (Task.returns_ofExcept.mp found)
    · exact grounds_of_checkBound headed lowChecked use low
    · exact grounds_of_checkBound headed highChecked use high

end Scope

/-- A condition of a join has a column of the joined relation on its left. -/
theorem JoinItem.Fits.left_relation {server : Server} {scope : Scope} {joined : Relation}
    {item : JoinItem} (fits : item.Fits server scope joined) : ∀ condition ∈ item.conditions,
      ColumnUse.relation ⟨item.relation.key, condition.test.left.column⟩ = item.relation.key := by
  intro condition inside
  obtain ⟨column, own, _⟩ := fits.conditions condition inside
  obtain ⟨named, _⟩ := Relation.ownColumn_eq_ok own
  rw [ColumnUse.relation]
  cases qualifier : condition.test.left.column.qualifier with
  | none => rfl
  | some given => simpa [fits.key_eq] using named given qualifier

namespace Command.Fits

variable {database : Database} {command : Command} {checked : CheckedCommand} {scope : Scope}
  {first : RelationSet} {known : LiteralTypes} (fits : Fits database command checked scope first known)
include fits

theorem scope_keys : scope.relations.keys =
    command.target :: command.joinItems.map (fun item => item.relation.key) :=
  fits.relations_eq ▸ fits.keys_eq

theorem nodup_upTo_keys (index : Nat) : (scope.upTo index).relations.keys.Nodup := by
  have distinct := fits.nodup_scope_keys
  rw [RelationSet.keys] at distinct
  rw [Scope.upTo, RelationSet.keys, List.map_take]
  exact distinct.sublist (List.take_sublist _ _)

theorem headed_upTo (index : Nat) : (scope.upTo index).Headed := by
  have headed := fits.headed
  unfold Scope.Headed RelationSet.target? Scope.upTo at *
  rw [List.head?_take]
  simpa using headed

theorem join_fits {index : Nat} {item : JoinItem} (found : command.joinItems[index]? = some item) :
    ∃ joined, (scope.upTo index).relations.get? item.relation.key = some joined ∧
      item.Fits database.server (scope.upTo index) joined := by
  obtain ⟨joined, relations, names, _, each⟩ := fits.relations_of_joins
  rw [fits.relations_eq] at relations
  have within : index < joined.length := by
    rw [← names.length_eq]
    exact (List.getElem?_eq_some_iff.mp found).1
  have same : scope.upTo index =
      ⟨database.catalog, scope.target, ⟨[scope.target] ++ joined.take (index + 1)⟩⟩ := by
    rw [Scope.upTo, relations, fits.catalog_eq]
    rfl
  have itemFits := each index item joined[index] found (List.getElem?_eq_getElem within)
  rw [← same] at itemFits
  have loaded : joined[index] ∈ (scope.upTo index).relations.relations := by
    have taken : index < (joined.take (index + 1)).length := by
      rw [List.length_take]
      omega
    have member := List.getElem_mem taken
    rw [List.getElem_take] at member
    rw [same]
    exact List.mem_append_right _ member
  refine ⟨joined[index], ?_, itemFits⟩
  rw [← itemFits.key_eq]
  exact RelationSet.get?_of_mem (fits.nodup_upTo_keys index) loaded

theorem join_left_ne_target {item : JoinItem} (member : item ∈ command.joinItems) :
    ∀ condition ∈ item.conditions,
      ColumnUse.relation ⟨item.relation.key, condition.test.left.column⟩ ≠ command.target := by
  intro condition inside
  obtain ⟨index, found⟩ := List.getElem?_of_mem member
  obtain ⟨joined, _, itemFits⟩ := fits.join_fits found
  have distinct := fits.nodup_keys
  rw [fits.keys_eq, List.nodup_cons] at distinct
  rw [itemFits.left_relation condition inside]
  intro same
  exact distinct.1 (same ▸ List.mem_map_of_mem member)

/-- The conditions of a join use the target, the joins before it and its own relation. -/
theorem grounds_join {index : Nat} {item : JoinItem}
    (found : command.joinItems[index]? = some item) :
    ∀ use ∈ item.uses command.target, (scope.upTo index).Grounds use := by
  obtain ⟨joined, loaded, itemFits⟩ := fits.join_fits found
  intro use member
  obtain ⟨condition, inside, used⟩ := List.mem_flatMap.mp member
  obtain ⟨column, own, before, after, tested⟩ := itemFits.conditions condition inside
  rcases List.mem_cons.mp used with rfl | right
  · refine ⟨joined, ?_, (Relation.hasColumn_of_ownColumn own).1⟩
    rwa [itemFits.left_relation condition inside]
  · rw [← fits.first_eq.2] at right
    exact Scope.grounds_of_checkColumnTest (fits.headed_upTo index) tested use right

theorem grounds_joins : ∀ item ∈ command.joinItems, ∀ use ∈ item.uses command.target,
    scope.Grounds use := by
  intro item member use used
  obtain ⟨index, found⟩ := List.getElem?_of_mem member
  exact Scope.grounds_of_upTo (fits.grounds_join found use used)

theorem grounds_where : ∀ use ∈ command.whereUses, scope.Grounds use := by
  intro use member
  obtain ⟨leaf, leafMember, used⟩ := List.mem_flatMap.mp member
  obtain ⟨before, after, leafChecked⟩ := fits.leaf_checked leafMember
  rw [← fits.first_eq.2] at used
  exact Scope.grounds_of_checkLeaf fits.headed leafChecked use used

theorem grounds_order {items : List OrderItem} (present : command.orderBy = some items) :
    ∀ item ∈ items, scope.Grounds ⟨command.target, item.column⟩ := by
  intro item member
  obtain ⟨_, passed, _⟩ := bind_eq_ok.mp (fits.orderBy items present)
  obtain ⟨⟨relation, column⟩, _, found⟩ := step_of_mapM_mem passed member
  rw [← fits.first_eq.2]
  exact Scope.grounds_of_column fits.headed found

theorem grounds_outputs : ∀ pairing ∈ checked.outputs, scope.Grounds pairing.use := by
  intro pairing member
  obtain ⟨field, _, certified⟩ := fits.output_certified pairing member
  obtain ⟨relation, column, loaded, has, _⟩ := certified.column
  rw [fits.relations_eq] at loaded
  exact ⟨relation, loaded, Relation.hasColumn_of_column? has⟩

end Command.Fits

end RecordSql
