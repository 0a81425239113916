import RecordSql.Proofs.Statement.Columns
import RecordSql.Proofs.Statement.Conflict

namespace RecordSql

/-- The reference is how the statement writes a use, and means a column that exists. -/
structure ColumnRef.Denotes (checked : CheckedCommand) (statement : Statement) (use : ColumnUse)
    (ref : ColumnRef) : Prop where
  name_eq : ref.name = use.ref.name
  column : ∃ relation, checked.relations.get? use.relation = some relation ∧
    relation.HasColumn ref.name
  /-- Among several relations the reference names that of the use, which is one table. -/
  among : 1 < checked.relations.size → ref.qualifier = some use.relation ∧ use.relation ≠ "" ∧
    (statement.tables.map TableRef.key).count use.relation = 1
  alone : ¬ 1 < checked.relations.size →
    (ref.qualifier = none ∨ ref.qualifier = some checked.command.target) ∧
      ∃ target, checked.target? = some target ∧ target.HasColumn ref.name

namespace Lowering

variable {lowering : Lowering} {use : ColumnUse}

theorem resolve_name : (lowering.resolve use).name = use.ref.name :=
  lowering.column_name use.home use.ref

theorem resolve_of_qualifies (qualifies : lowering.qualifies = true) :
    (lowering.resolve use).qualifier = some use.relation := by
  unfold resolve column ColumnUse.relation
  cases qualifier : use.ref.qualifier <;> simp [qualifies, qualifier]

theorem resolve_of_not_qualifies (single : lowering.qualifies = false) :
    lowering.resolve use = use.ref := by
  simp [resolve, column, single]

end Lowering

namespace Accepted

variable {naming : ColumnNaming} {name : String} {fields : List HostField} {database : Database}
  {command : Command} {checked : CheckedCommand} {bound : BoundStatement}

theorem joinItems_of_insert (accepted : Accepted naming name fields database command checked bound)
    (kind : command.kind = .insert) : command.joinItems = [] := by
  have facts := Command.readFrom_of_read accepted.read
  cases present : command.join with
  | none => simp [Command.joinItems, present]
  | some block =>
    have holds : command.Holds (.join block) := present
    have allowed := facts.kind_mem holds
    rw [kind] at allowed
    simp [Block.slot, Slot.kinds] at allowed

theorem key_ne_empty (accepted : Accepted naming name fields database command checked bound) :
    ∀ key ∈ checked.relations.keys, key ≠ "" := by
  obtain ⟨scope, loaded, known, fits⟩ := Command.fits_of_check accepted.check
  intro key member
  rw [fits.keys_eq] at member
  rcases List.mem_cons.mp member with rfl | joined
  · obtain ⟨field, _, read⟩ := (Command.readFrom_of_read accepted.read).record
    exact RecordBinding.key_ne_empty read
  · obtain ⟨item, inside, rfl⟩ := List.mem_map.mp joined
    obtain ⟨text, parsed⟩ := (accepted.join_readFrom item inside).relation
    exact RelationRef.key_ne_empty parsed

/-- What a command, its check and its lowering agree on. -/
structure Agrees (database : Database) (command : Command) (checked : CheckedCommand)
    (bound : BoundStatement) (scope : Scope) (first : RelationSet) (known : LiteralTypes)
    (lowering : Lowering) : Prop where
  fits : Command.Fits database command checked scope first known
  checked_eq : lowering.checked = checked
  command_eq : lowering.command = command
  target_eq : lowering.target = scope.target
  keyed : lowering.target.key = lowering.command.target
  single : lowering.command.kind = .insert → lowering.qualifies = false
  tables : bound.statement.tables.map TableRef.key = checked.relations.keys
  columnRefs : bound.statement.columnRefs = checked.columnUses.map lowering.resolve
  builds : ∃ build, lowering.Builds build ∧ build.run [] = (bound.statement, bound.args)

theorem agrees (accepted : Accepted naming name fields database command checked bound) :
    ∃ scope first known lowering,
      Agrees database command checked bound scope first known lowering := by
  obtain ⟨scope, first, known, fits⟩ := Command.fits_of_check accepted.check
  obtain ⟨lowering, gives, same⟩ := accepted.lowering
  have target := gives.scope_target_eq fits
  have keyed : lowering.target.key = lowering.command.target := by
    rw [target, same, fits.first_eq.2]
  have alone : lowering.command.kind = .insert → lowering.command.joinItems = [] := by
    rw [same]
    exact accepted.joinItems_of_insert
  have single : lowering.command.kind = .insert → lowering.qualifies = false := by
    intro kind
    have none := alone kind
    rw [same] at none
    simp [Lowering.qualifies, gives.checked_eq, fits.size_eq, none]
  obtain ⟨build, builds, ran⟩ := gives.builds
  have tables := lowering.keys_of_builds builds alone
  have columnRefs := lowering.columnRefs_of_builds builds keyed single
  rw [ran, same, ← fits.keys_eq] at tables
  rw [ran, gives.checked_eq] at columnRefs
  exact ⟨scope, first, known, lowering, fits, gives.checked_eq, same, target, keyed, single, tables,
    columnRefs, build, builds, ran⟩

namespace Agrees

variable {scope : Scope} {first : RelationSet} {known : LiteralTypes} {lowering : Lowering}
  (facts : Agrees database command checked bound scope first known lowering)
include facts

theorem grounds_outputUses : ∀ use ∈ checked.outputUses, scope.Grounds use := by
  intro use member
  obtain ⟨pairing, inside, rfl⟩ := List.mem_map.mp member
  exact facts.fits.grounds_outputs pairing inside

theorem grounds_returnUses : ∀ use ∈ checked.returnUses, scope.Grounds use := by
  unfold CheckedCommand.returnUses
  split
  · simp
  · exact facts.grounds_outputUses

theorem grounds_joinUses :
    ∀ use ∈ command.joinItems.flatMap (JoinItem.uses command.target), scope.Grounds use := by
  intro use member
  obtain ⟨item, inside, used⟩ := List.mem_flatMap.mp member
  exact facts.fits.grounds_joins item inside use used

theorem grounds_sourceUses : ∀ use ∈ checked.sourceUses, scope.Grounds use := by
  intro use member
  refine facts.grounds_joinUses use ?_
  unfold CheckedCommand.sourceUses at member
  rw [facts.fits.command_eq] at member
  split at member
  · cases member
  · rename_i first rest items
    rw [items, List.flatMap_cons, List.mem_append]
    exact (List.mem_append.mp member).symm

theorem grounds_orderUses : ∀ use ∈ checked.orderUses, scope.Grounds use := by
  unfold CheckedCommand.orderUses
  rw [facts.fits.command_eq]
  intro use member
  obtain ⟨item, inside, rfl⟩ := List.mem_map.mp member
  cases present : command.orderBy with
  | none => simp [present] at inside
  | some items => exact facts.fits.grounds_order present item (by simpa [present] using inside)

theorem grounds : ∀ use ∈ checked.columnUses, scope.Grounds use := by
  have writes : ∀ use ∈ checked.sourceUses ++ command.whereUses ++ checked.returnUses,
      scope.Grounds use := by
    simp only [List.forall_mem_append]
    exact ⟨⟨facts.grounds_sourceUses, facts.fits.grounds_where⟩, facts.grounds_returnUses⟩
  unfold CheckedCommand.columnUses
  rw [facts.fits.command_eq]
  split
  · simp only [List.forall_mem_append]
    exact ⟨⟨⟨facts.grounds_outputUses, facts.grounds_joinUses⟩, facts.fits.grounds_where⟩,
      facts.grounds_orderUses⟩
  · exact facts.grounds_returnUses
  · exact writes
  · exact writes
  · simp

theorem denotes (nonempty : ∀ key ∈ checked.relations.keys, key ≠ "") {use : ColumnUse}
    (grounds : scope.Grounds use) :
    ColumnRef.Denotes checked bound.statement use (lowering.resolve use) := by
  obtain ⟨relation, found, has⟩ := grounds
  have fits := facts.fits
  rw [← fits.relations_eq] at found
  obtain ⟨member, keyEq⟩ := RelationSet.get?_eq_some found
  have inKeys : use.relation ∈ checked.relations.keys := keyEq ▸ List.mem_map_of_mem member
  have qualifies : lowering.qualifies = decide (1 < checked.relations.size) := by
    rw [Lowering.qualifies, facts.checked_eq]
  constructor
  case name_eq => exact Lowering.resolve_name
  case column =>
    rw [Lowering.resolve_name]
    exact ⟨relation, found, has⟩
  case among =>
    intro several
    refine ⟨Lowering.resolve_of_qualifies (by simp [qualifies, several]), nonempty _ inKeys, ?_⟩
    rw [facts.tables]
    exact List.count_eq_one_of_mem fits.nodup_keys inKeys
  case alone =>
    intro single
    have unqualified : lowering.qualifies = false := by simp [qualifies, single]
    obtain ⟨joined, relations, _⟩ := fits.relations_of_joins
    have only : joined = [] := by
      simpa [RelationSet.size, relations] using single
    have target : relation = scope.target := by
      rw [relations, only] at member
      exact List.mem_singleton.mp member
    rw [Lowering.resolve_of_not_qualifies unqualified]
    refine ⟨?_, scope.target, fits.target?_eq, target ▸ has⟩
    cases qualifier : use.ref.qualifier with
    | none => exact .inl rfl
    | some given =>
      right
      have named : use.relation = given := by simp [ColumnUse.relation, qualifier]
      rw [← named, ← keyEq, target, fits.first_eq.2, fits.command_eq]

/-- The relations up to a join are the target and the tables of the joins up to it. -/
theorem keys_upTo (index : Nat) : (scope.upTo index).relations.keys =
    command.target :: (command.joinItems.map fun item => item.relation.key).take (index + 1) := by
  have keys := facts.fits.scope_keys
  rw [RelationSet.keys] at keys
  rw [Scope.upTo, RelationSet.keys, List.map_take, keys]
  rfl

theorem parts_of_select {body : Select} (select : bound.statement = .select body) :
    body.source.key = command.target ∧
      body.joins = ((command.joinItems.mapM lowering.join).run []).1 := by
  obtain ⟨build, builds, ran⟩ := facts.builds
  have statement : (build.run []).1 = .select body := by rw [ran, select]
  rw [← facts.command_eq]
  cases builds with
  | insert => cases statement
  | update => cases statement
  | delete => cases statement
  | select =>
    rw [← Statement.select.inj statement]
    exact ⟨rfl, rfl⟩

theorem qualifies_of_join {index : Nat} {item : JoinItem}
    (found : command.joinItems[index]? = some item) : lowering.qualifies = true :=
  Lowering.qualifies_of_mem_joinItems facts.fits facts.checked_eq (List.mem_of_getElem? found)

theorem qualifier_of_join {index : Nat} {item : JoinItem}
    (found : command.joinItems[index]? = some item) : ∀ use ∈ item.uses command.target,
      (lowering.resolve use).qualifier = some use.relation ∧ use.relation ∈
        command.target :: (command.joinItems.map fun item => item.relation.key).take (index + 1) := by
  intro use used
  obtain ⟨relation, loaded, _⟩ := facts.fits.grounds_join found use used
  obtain ⟨inside, named⟩ := RelationSet.get?_eq_some loaded
  rw [← facts.keys_upTo]
  exact ⟨Lowering.resolve_of_qualifies (facts.qualifies_of_join found),
    named ▸ List.mem_map_of_mem inside⟩

theorem on_columns {body : Select} (select : bound.statement = .select body) {index : Nat}
    {join : Join} (found : body.joins[index]? = some join) : ∀ ref ∈ join.columns,
      ∃ table ∈ body.source :: (body.joins.take (index + 1)).map Join.table,
        ref.qualifier = some table.key := by
  obtain ⟨source, joins⟩ := facts.parts_of_select select
  have keys := lowering.keys_joins command.joinItems []
  rw [← joins] at keys
  rw [joins] at found
  obtain ⟨item, atItem, _, columns⟩ := lowering.item_of_join facts.keyed found
  have tables : (body.source :: (body.joins.take (index + 1)).map Join.table).map TableRef.key =
      command.target :: (command.joinItems.map fun item => item.relation.key).take (index + 1) := by
    rw [← keys, ← source, List.map_cons, List.map_map, ← List.map_take]
    rfl
  intro ref member
  rw [columns, facts.command_eq] at member
  obtain ⟨use, used, rfl⟩ := List.mem_map.mp member
  obtain ⟨qualified, inKeys⟩ := facts.qualifier_of_join atItem use used
  rw [← tables] at inKeys
  obtain ⟨table, listed, same⟩ := List.mem_map.mp inKeys
  exact ⟨table, listed, by rw [qualified, same]⟩

theorem hasColumn_of_write (writes : command.kind.writesRecord = true) :
    ∀ write ∈ checked.writes, scope.target.HasColumn write.column :=
  (facts.fits.writing_sound writes).columns

theorem hasColumn_of_conflict (writes : command.kind.writesRecord = true)
    {conflict : Option OnConflict} (found : lowering.conflictOf = .ok conflict) :
    ∀ name ∈ (conflict.map OnConflict.names).getD [], scope.target.HasColumn name := by
  cases conflict with
  | none => simp
  | some clause =>
    have written := facts.hasColumn_of_write writes
    rw [← facts.checked_eq, ← facts.target_eq] at written
    rw [← facts.target_eq]
    obtain ⟨block, present, clauseFound⟩ := Lowering.onConflict_of_conflictOf found
    rw [facts.command_eq] at present
    exact Lowering.names_of_onConflict facts.target_eq (facts.fits.onConflict block present) written
      clauseFound

theorem hasColumn_of_written : ∀ name ∈ bound.statement.writtenNames, scope.target.HasColumn name := by
  obtain ⟨build, builds, ran⟩ := facts.builds
  have statement : (build.run []).1 = bound.statement := by rw [ran]
  have writes := facts.hasColumn_of_write
  rw [← facts.command_eq, ← facts.checked_eq] at writes
  rw [← statement]
  intro name member
  cases builds with
  | select => cases member
  | delete => cases member
  | insert kind conflictOf =>
    rcases List.mem_append.mp member with column | conflicting
    · obtain ⟨write, inside, rfl⟩ := List.mem_map.mp column
      exact writes (by rw [kind]; rfl) write inside
    · refine facts.hasColumn_of_conflict ?_ conflictOf name conflicting
      rw [← facts.command_eq, kind]
      rfl
  | update kind =>
    have columns := lowering.columns_of_assignments []
    change name ∈ ((lowering.checked.writes.mapM lowering.assignment).run []).1.map Prod.fst at member
    rw [columns] at member
    obtain ⟨write, inside, rfl⟩ := List.mem_map.mp member
    exact writes (by rw [kind]; rfl) write inside

end Agrees

/-- The references of a statement stand for the columns that its command uses, in order, and each
means a column that exists. The conditions of a join of a select name no later join, and what is
written are columns of the target. -/
theorem columnRefs_denote (accepted : Accepted naming name fields database command checked bound) :
    List.Forall₂ (ColumnRef.Denotes checked bound.statement) checked.columnUses
        bound.statement.columnRefs ∧
      (∀ body, bound.statement = .select body → ∀ index join, body.joins[index]? = some join →
        ∀ ref ∈ join.columns, ∃ table ∈ body.source :: (body.joins.take (index + 1)).map Join.table,
          ref.qualifier = some table.key) ∧
      ∃ target, checked.target? = some target ∧
        ∀ name ∈ bound.statement.writtenNames, target.HasColumn name := by
  obtain ⟨scope, first, known, lowering, facts⟩ := accepted.agrees
  refine ⟨?_, ?_, scope.target, facts.fits.target?_eq, facts.hasColumn_of_written⟩
  · rw [facts.columnRefs, List.forall₂_map_right_iff, List.forall₂_same]
    intro use member
    exact facts.denotes accepted.key_ne_empty (facts.grounds use member)
  · intro body select index join found
    exact facts.on_columns select found

theorem columnRefs_denote_renameAuthors :
    ∃ command checked bound, Accepted .tagged "UpdateUser" renameAuthors blog command checked bound ∧
      command.kind = .update ∧
      List.Forall₂ (ColumnRef.Denotes checked bound.statement) checked.columnUses
        bound.statement.columnRefs ∧
      ∃ target, checked.target? = some target ∧
        ∀ name ∈ bound.statement.writtenNames, target.HasColumn name := by
  obtain ⟨command, checked, bound, _, _, _, accepted, kind, _⟩ := renameAuthors_accepted
  obtain ⟨references, _, written⟩ := columnRefs_denote accepted
  exact ⟨command, checked, bound, accepted, kind, references, written⟩

end Accepted

end RecordSql
