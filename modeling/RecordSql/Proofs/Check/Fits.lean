import RecordSql.Check.Command
import RecordSql.Command.Leaves
import RecordSql.Proofs.Command.Walk
import RecordSql.Proofs.Outcome

namespace RecordSql

/-- The relation goes by the names that the reference gives it. -/
structure RelationRef.Names (ref : RelationRef) (space : String) (relation : Relation) : Prop where
  key_eq : relation.key = ref.key
  name_eq : relation.name = ref.name
  space_eq : relation.space = ref.qualifier.getD space

theorem Relation.names_of_load {server : Server} {catalog : Catalog} {ref : RelationRef}
    {space : String} {relation : Relation}
    (loaded : (Relation.load server catalog ref (ref.qualifier.getD space)).Returns relation) :
    ref.Names space relation := by
  unfold Relation.load at loaded
  obtain ⟨rows, _, loaded⟩ := loaded.bind
  split at loaded
  · exact absurd loaded Task.not_returns_throw
  · obtain ⟨⟨oid, kind⟩, _, loaded⟩ := loaded.bind
    obtain ⟨columns, _, loaded⟩ := loaded.bind
    obtain ⟨constraints, _, loaded⟩ := loaded.bind
    obtain ⟨indexes, _, loaded⟩ := loaded.bind
    cases Task.returns_pure.mp loaded
    exact ⟨rfl, rfl, rfl⟩

theorem RelationSet.push_of_load {database : Database} {set after : RelationSet} {ref : RelationRef}
    {relation : Relation} (free : set.registered? ref.key = none)
    (loaded : (set.load database ref).Returns (relation, after)) :
    after = set.push relation ∧ ref.Names database.space relation := by
  unfold load at loaded
  rw [free] at loaded
  obtain ⟨found, read, loaded⟩ := loaded.bind
  obtain ⟨_, _, loaded⟩ := loaded.bind
  cases Task.returns_pure.mp loaded
  exact ⟨rfl, Relation.names_of_load read⟩

namespace Command

variable {database : Database} {command : Command} {checked : CheckedCommand}

theorem returns_of_stepIf {α β : Type} {step : CheckStep} {block : Option β} {absent value : α}
    {act : β → Task CheckError α} (returned : (command.stepIf step block absent act).Returns value) :
    (block = none ∧ value = absent) ∨ ∃ present, block = some present ∧ (act present).Returns value := by
  unfold stepIf at returned
  cases block with
  | none => exact .inl ⟨rfl, (Task.returns_pure.mp returned).symm⟩
  | some present =>
    obtain ⟨_, _, acted⟩ := returned.bind
    exact .inr ⟨present, rfl, acted⟩

theorem ok_of_stepIf {β : Type} {step : CheckStep} {block : Option β} {test : β → Except CheckError Unit}
    (returned : (command.stepIf step block () fun present => Task.ofExcept (test present)).Returns ()) :
    ∀ present, block = some present → test present = .ok () := by
  rintro present rfl
  rcases returns_of_stepIf returned with ⟨absent, _⟩ | ⟨_, same, passed⟩
  · cases absent
  · cases same
    exact Task.returns_ofExcept.mp passed

/-- What a check has found, in the scope of all relations of the command. -/
structure Fits (database : Database) (command : Command) (checked : CheckedCommand)
    (scope : Scope) (first : RelationSet) (known : LiteralTypes) : Prop where
  command_eq : checked.command = command
  relations_eq : checked.relations = scope.relations
  catalog_eq : scope.catalog = database.catalog
  target : (RelationSet.load database {} command.record.relation).Returns (scope.target, first)
  joins : (command.joinItems.foldlM (loadJoin database scope.target) { relations := first }).Returns
    ⟨scope.relations, known⟩
  onConflict : ∀ block, command.onConflict = some block → scope.checkOnConflict block = .ok ()
  whereBlock : ∀ block, command.whereBlock = some block →
    ∃ after, (scope.checkEntries database.server command.name known block.entries).Returns after
  orderBy : ∀ items, command.orderBy = some items → scope.checkOrderBy items = .ok ()
  defaults : ∀ columns, command.defaults = some columns → scope.checkDefaults columns = .ok ()
  force : ∀ columns, command.force = some columns → scope.checkListed columns.listed = .ok ()
  bindings : ∃ returned,
    (command.returning = none ∧ returned = [] ∨ ∃ columns, command.returning = some columns ∧
      scope.returnPairings command.record.fields columns = .ok returned) ∧
    scope.bind command returned = .ok ⟨checked.inputs, checked.outputs, checked.writes⟩

theorem fits_of_check (returned : (command.check database).Returns checked) :
    ∃ scope first known, Fits database command checked scope first known := by
  unfold check at returned
  obtain ⟨_, _, returned⟩ := returned.bind
  obtain ⟨⟨target, first⟩, targetLoaded, returned⟩ := returned.bind
  obtain ⟨joined, joinsLoaded, returned⟩ := returned.bind
  obtain ⟨⟨⟩, conflictChecked, returned⟩ := returned.bind
  obtain ⟨after, whereChecked, returned⟩ := returned.bind
  obtain ⟨⟨⟩, orderChecked, returned⟩ := returned.bind
  obtain ⟨⟨⟩, defaultsChecked, returned⟩ := returned.bind
  obtain ⟨⟨⟩, forceChecked, returned⟩ := returned.bind
  obtain ⟨pairings, returningChecked, returned⟩ := returned.bind
  obtain ⟨⟨⟩, searchChecked, returned⟩ := returned.bind
  obtain ⟨_, _, returned⟩ := returned.bind
  obtain ⟨bindings, bound, returned⟩ := returned.bind
  cases Task.returns_pure.mp returned
  refine ⟨⟨database.catalog, target, joined.relations⟩, first, joined.known, rfl, rfl, rfl,
    targetLoaded, ?_, ok_of_stepIf conflictChecked, ?_, ok_of_stepIf orderChecked,
    ok_of_stepIf defaultsChecked, ok_of_stepIf forceChecked, pairings, ?_, ?_⟩
  · rcases returns_of_stepIf joinsLoaded with ⟨absent, rfl⟩ | ⟨block, present, loaded⟩
    · simp only [joinItems, absent]
      exact Task.returns_pure.mpr rfl
    · simpa only [joinItems, present, Option.map_some, Option.getD_some] using loaded
  · rintro block present
    rcases returns_of_stepIf whereChecked with ⟨absent, _⟩ | ⟨_, same, passed⟩
    · rw [present] at absent
      cases absent
    · rw [present] at same
      cases same
      exact ⟨after, passed⟩
  · rcases returns_of_stepIf returningChecked with ⟨absent, rfl⟩ | ⟨columns, present, passed⟩
    · exact .inl ⟨absent, rfl⟩
    · exact .inr ⟨columns, present, Task.returns_ofExcept.mp passed⟩
  · exact Task.returns_ofExcept.mp bound

end Command

end RecordSql
