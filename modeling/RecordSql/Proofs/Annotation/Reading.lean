import RecordSql.Annotation.Command
import RecordSql.Proofs.Annotation.Predicate
import RecordSql.Proofs.Command.Ident

namespace RecordSql

def Block.slot : Block → Slot
  | .join _ => .join
  | .whereBlock _ => .whereBlock
  | .onConflict _ => .onConflict
  | .orderBy _ => .orderBy
  | .limit _ => .limit
  | .offset _ => .offset
  | .defaults _ => .defaults
  | .force _ => .force
  | .returning _ => .returning
  | .textSearch _ => .textSearch
  | .result _ => .result
  | .rowsAffected _ => .rowsAffected
  | .errorHandler _ => .errorHandler
  | .all => .all

def Slot.kinds : Slot → List CommandKind
  | .join | .whereBlock => [.select, .update, .delete]
  | .onConflict => [.insert]
  | .orderBy | .limit | .offset => [.select]
  | .defaults | .force => [.insert, .update]
  | .returning | .result | .rowsAffected => [.insert, .update, .delete]
  | .textSearch => [.filter]
  | .errorHandler => CommandKind.all
  | .all => [.update, .delete]

def Command.Holds (command : Command) : Block → Prop
  | .join block => command.join = some block
  | .whereBlock block => command.whereBlock = some block
  | .onConflict block => command.onConflict = some block
  | .orderBy items => command.orderBy = some items
  | .limit limit => command.limit = some limit
  | .offset limit => command.offset = some limit
  | .defaults columns => command.defaults = some columns
  | .force columns => command.force = some columns
  | .returning columns => command.returning = some columns
  | .textSearch column => command.textSearch = some column
  | .result binding => command.result = some binding
  | .rowsAffected field => command.rowsAffected = some field
  | .errorHandler field => command.errorHandler = some field
  | .all => command.all = true

/-- A block is read into the slot that it was read for. -/
theorem Block.slot_of_read {naming : ColumnNaming} {field : HostField} {slot : Slot} {block : Block}
    (read : Block.read naming field slot = .ok block) : block.slot = slot := by
  cases slot <;> simp only [Block.read, bind_eq_ok, pure_eq_ok] at read
  case textSearch =>
    obtain ⟨_, _, _, _, rfl⟩ := read
    rfl
  case rowsAffected | errorHandler =>
    split at read <;> cases read
    rfl
  case all =>
    cases read
    rfl
  all_goals
    obtain ⟨_, _, rfl⟩ := read
    rfl

namespace Placement

theorem kinds_of_directive {directive : Directive} {placement : Placement}
    (found : ofDirective? directive = some placement) :
    placement.kinds.all placement.slot.kinds.contains = true ∧
      (placement.slot = .all → directive = .all) := by
  cases directive <;> simp only [ofDirective?, Option.some.injEq, reduceCtorEq] at found <;>
    subst found <;> exact ⟨rfl, by simp⟩

theorem kinds_of_name {name : String} {placement : Placement} (found : ofName? name = some placement) :
    placement.kinds.all placement.slot.kinds.contains = true ∧ placement.slot ≠ .all := by
  unfold ofName? at found
  split at found <;> simp only [Option.some.injEq, reduceCtorEq] at found <;> subst found <;>
    exact ⟨rfl, by simp⟩

theorem kinds_of_field {command : String} {field : HostField} {placement : Placement}
    (found : ofField? command field = .ok (some placement)) :
    placement.kinds.all placement.slot.kinds.contains = true ∧
      (placement.slot = .all → field.directive? = some .all) := by
  unfold ofField? at found
  split at found
  · rename_i directive marked
    split at found <;> simp only [Except.ok.injEq, Option.some.injEq, reduceCtorEq] at found
    rename_i other placed
    subst found
    obtain ⟨kinds, isAll⟩ := kinds_of_directive placed
    exact ⟨kinds, fun all => isAll all ▸ marked⟩
  · obtain ⟨kinds, notAll⟩ := kinds_of_name (Except.ok.inj found)
    exact ⟨kinds, fun all => absurd all notAll⟩

end Placement

theorem RecordBinding.key_ne_empty {naming : ColumnNaming} {field : HostField}
    {record : RecordBinding} (read : RecordBinding.read naming field = .ok record) :
    record.relation.key ≠ "" := by
  unfold RecordBinding.read at read
  dsimp only at read
  split at read
  · rename_i relation parsed
    simp only [bind_eq_ok, pure_eq_ok] at read
    obtain ⟨_, rfl, _, _, _, _, rfl⟩ := read
    exact RelationRef.key_ne_empty parsed
  · simp only [bind_eq_ok, throw_ne_ok, false_and, exists_false] at read

theorem ColumnList.ne_nil_of_read {field : HostField} {listed : List ColumnRef}
    (read : ColumnList.read field = .ok (.columns listed)) : listed ≠ [] := by
  simp only [ColumnList.read, bind_eq_ok] at read
  obtain ⟨text, _, read⟩ := read
  split at read
  · cases pure_eq_ok.mp read
  · obtain ⟨columns, each, same⟩ := bind_eq_ok.mp read
    cases pure_eq_ok.mp same
    rw [ne_eq, eq_nil_iff_of_forall₂ (mapM_eq_ok.mp each)]
    exact Text.splitTopLevel_ne_nil ',' text.toList

def ConflictParts.NamesColumns (parts : ConflictParts) : Prop :=
  ∀ listed, parts.action = some (.update (.columns listed)) → listed ≠ []

theorem ConflictParts.namesColumns_add {block : String} {before after : ConflictParts}
    {member : HostField} (names : before.NamesColumns)
    (added : before.add block member = .ok after) : after.NamesColumns := by
  unfold ConflictParts.add at added
  split at added
  · cases added
  · split at added
    case h_1 | h_2 | h_3 =>
      obtain ⟨_, added⟩ := guard_eq_ok.mp added
      obtain ⟨target, _, added⟩ := bind_eq_ok.mp added
      cases pure_eq_ok.mp added
      exact names
    case h_4 =>
      obtain ⟨_, added⟩ := guard_eq_ok.mp added
      cases pure_eq_ok.mp added
      simp [ConflictParts.NamesColumns]
    case h_5 =>
      obtain ⟨_, added⟩ := guard_eq_ok.mp added
      obtain ⟨columns, read, added⟩ := bind_eq_ok.mp added
      cases pure_eq_ok.mp added
      intro listed same
      cases same
      exact ColumnList.ne_nil_of_read read
    case h_6 => cases added

theorem OnConflictBlock.ne_nil_of_read {field : HostField} {block : OnConflictBlock}
    {listed : List ColumnRef} (read : OnConflictBlock.read field = .ok block)
    (update : block.action = .update (.columns listed)) : listed ≠ [] := by
  unfold OnConflictBlock.read at read
  split at read
  · cases read
  · obtain ⟨parts, folded, read⟩ := bind_eq_ok.mp read
    have names : parts.NamesColumns :=
      foldlM_induction folded (by simp [ConflictParts.NamesColumns]) fun _ _ _ _ names added =>
        ConflictParts.namesColumns_add names added
    split at read
    · cases read
    · cases read
    · cases pure_eq_ok.mp read
      exact names listed (congrArg some update)

theorem OnConflictBlock.target_of_read {field : HostField} {block : OnConflictBlock}
    {columns : ColumnList} (read : OnConflictBlock.read field = .ok block)
    (update : block.action = .update columns) : ∃ target, block.target = some target := by
  unfold OnConflictBlock.read at read
  split at read
  · cases read
  · obtain ⟨parts, _, read⟩ := bind_eq_ok.mp read
    split at read
    · cases read
    · cases read
    · rename_i target action targeted _
      cases pure_eq_ok.mp read
      cases target with
      | some target => exact ⟨target, rfl⟩
      | none =>
        cases update
        exact (targeted columns rfl rfl).elim

/-- What a field of a command of this name and kind adds to it: a block, or nothing. -/
inductive HostField.Adds (naming : ColumnNaming) (name : String) (kind : CommandKind)
    (field : HostField) : Option Block → Prop
  | record : field.rel?.isSome = true → Adds naming name kind field none
  | unrelated : field.rel? = none → Placement.ofField? name field = .ok none →
    Adds naming name kind field none
  | block {placement : Placement} {block : Block} : field.rel? = none →
    Placement.ofField? name field = .ok (some placement) → placement.kinds.contains kind = true →
    checkRowLimitType placement.slot field = .ok () →
    Block.read naming field placement.slot = .ok block → Adds naming name kind field (some block)

namespace Command

variable {naming : ColumnNaming} {name : String} {fields : List HostField}
  {command before after : Command}

theorem holds_of_holds_fill {block held : Block} (holds : (before.fill block).Holds held) :
    held = block ∨ before.Holds held := by
  cases block <;> cases held <;>
    first
      | exact .inr holds
      | exact .inl rfl
      | (left; simpa [Holds, fill, eq_comm] using holds)

def HasRoom (command : Command) (added : Option Block) : Prop :=
  ∀ block ∈ added, command.isFilled block.slot = false

def with? (command : Command) (added : Option Block) : Command :=
  (added.map command.fill).getD command

theorem place_eq_ok {field : HostField} {placement : Placement} :
    before.place naming field placement = .ok after ↔
      placement.kinds.contains before.kind = true ∧ checkRowLimitType placement.slot field = .ok () ∧
      ∃ block, Block.read naming field placement.slot = .ok block ∧
        before.isFilled block.slot = false ∧ after = before.fill block := by
  simp only [place, require_eq_ok, guard_eq_ok, bind_eq_ok, pure_eq_ok, Bool.not_eq_true]
  constructor
  · rintro ⟨allowed, _, typed, free, block, read, rfl⟩
    exact ⟨allowed, typed, block, read, by rwa [Block.slot_of_read read], rfl⟩
  · rintro ⟨allowed, typed, block, read, free, rfl⟩
    exact ⟨allowed, (), typed, by rwa [← Block.slot_of_read read], block, read, rfl⟩

/-- A field is added just where the slot that it fills is free. -/
theorem addField_eq_ok {field : HostField} : before.addField naming field = .ok after ↔
    ∃ added, field.Adds naming before.name before.kind added ∧ before.HasRoom added ∧
      after = before.with? added := by
  cases bound : field.rel? with
  | some relation =>
    simp only [addField, bound, Option.isSome_some, if_true, pure_eq_ok]
    constructor
    · rintro rfl
      exact ⟨none, .record (by simp [bound]), by simp [HasRoom], rfl⟩
    · rintro ⟨added, adds, _, rfl⟩
      cases adds with
      | record => rfl
      | unrelated unbound => simp [bound] at unbound
      | block unbound => simp [bound] at unbound
  | none =>
    simp only [addField, bound, Option.isSome_none, Bool.false_eq_true, if_false, bind_eq_ok]
    constructor
    · rintro ⟨found, placed, added⟩
      cases found with
      | none =>
        cases pure_eq_ok.mp added
        exact ⟨none, .unrelated bound placed, by simp [HasRoom], rfl⟩
      | some placement =>
        obtain ⟨allowed, typed, block, read, free, rfl⟩ := place_eq_ok.mp added
        exact ⟨some block, .block bound placed allowed typed read, by simpa [HasRoom] using free, rfl⟩
    · rintro ⟨added, adds, room, rfl⟩
      cases adds with
      | record isBound => simp [bound] at isBound
      | unrelated _ placed => exact ⟨none, placed, rfl⟩
      | block _ placed allowed typed read =>
        exact ⟨_, placed, place_eq_ok.mpr ⟨allowed, typed, _, read, room _ rfl, rfl⟩⟩

theorem fill_frame (held : Command) (block : Block) : (held.fill block).name = held.name ∧
    (held.fill block).kind = held.kind ∧ (held.fill block).record = held.record := by
  cases block <;> exact ⟨rfl, rfl, rfl⟩

structure Source (naming : ColumnNaming) (fields : List HostField) (name : String)
    (kind : CommandKind) (block : Block) (field : HostField) (placement : Placement) : Prop where
  member : field ∈ fields
  unbound : field.rel? = none
  found : Placement.ofField? name field = .ok (some placement)
  allowed : placement.kinds.contains kind = true
  slot : placement.slot = block.slot
  read : Block.read naming field block.slot = .ok block

structure BuiltFrom (naming : ColumnNaming) (fields : List HostField) (name : String)
    (kind : CommandKind) (record : RecordBinding) (command : Command) : Prop where
  name_eq : command.name = name
  kind_eq : command.kind = kind
  record_eq : command.record = record
  source : ∀ block, command.Holds block →
    ∃ field placement, Source naming fields name kind block field placement

structure ReadFrom (naming : ColumnNaming) (name : String) (fields : List HostField)
    (command : Command) : Prop where
  name_eq : command.name = name
  kind : CommandKind.ofCommandName? name = some command.kind
  record : ∃ field ∈ fields, RecordBinding.read naming field = .ok command.record
  source : ∀ block, command.Holds block →
    ∃ field placement, Source naming fields name command.kind block field placement
  complete : command.checkComplete = .ok ()

theorem source_of_adds {kind : CommandKind} {field : HostField} {block : Block}
    (member : field ∈ fields) (adds : field.Adds naming name kind (some block)) :
    ∃ placement, Source naming fields name kind block field placement := by
  cases adds with
  | block unbound found allowed _ read =>
    have slot := Block.slot_of_read read
    exact ⟨_, member, unbound, found, allowed, slot.symm, by rwa [slot]⟩

theorem recordField_mem {field : HostField} (found : recordField name fields = .ok field) :
    field ∈ fields := by
  unfold recordField at found
  split at found
  · cases found
  · rename_i only
    cases found
    exact List.mem_of_mem_filter (only ▸ List.mem_singleton_self field)
  · cases found

theorem builtFrom_addField {kind : CommandKind} {record : RecordBinding} {field : HostField}
    (member : field ∈ fields) (built : BuiltFrom naming fields name kind record before)
    (added : before.addField naming field = .ok after) :
    BuiltFrom naming fields name kind record after := by
  obtain ⟨rfl, rfl, rfl, sources⟩ := built
  obtain ⟨filled?, adds, _, rfl⟩ := addField_eq_ok.mp added
  cases filled? with
  | none => exact ⟨rfl, rfl, rfl, sources⟩
  | some filled =>
    obtain ⟨sameName, sameKind, sameRecord⟩ := fill_frame before filled
    refine ⟨sameName, sameKind, sameRecord, ?_⟩
    intro block holds
    rcases holds_of_holds_fill holds with rfl | earlier
    · exact ⟨field, source_of_adds member adds⟩
    · exact sources block earlier

theorem readFrom_of_read (read : Command.read naming name fields = .ok command) :
    ReadFrom naming name fields command := by
  unfold Command.read at read
  split at read
  case h_2 =>
    simp only [bind_eq_ok, throw_ne_ok, false_and, exists_false] at read
  case h_1 kind kindOf =>
    simp only [bind_eq_ok, pure_eq_ok] at read
    obtain ⟨_, rfl, bound, found, record, recordRead, built, folded, _, complete, rfl⟩ := read
    have start : BuiltFrom naming fields name kind record { name, kind, record } :=
      ⟨rfl, rfl, rfl, by intro block holds; cases block <;> cases holds⟩
    have finish : BuiltFrom naming fields name kind record built :=
      foldlM_induction folded start fun _ _ _ member built added =>
        builtFrom_addField member built added
    obtain ⟨rfl, rfl, rfl, sources⟩ := finish
    exact ⟨rfl, kindOf, ⟨bound, recordField_mem found, recordRead⟩, sources, complete⟩

namespace ReadFrom

variable (facts : ReadFrom naming name fields command)
include facts

theorem kind_mem {block : Block} (holds : command.Holds block) : command.kind ∈ block.slot.kinds := by
  obtain ⟨field, placement, source⟩ := facts.source block holds
  have kinds := List.all_eq_true.mp (Placement.kinds_of_field source.found).1
  have allowed := kinds _ (List.contains_iff_mem.mp source.allowed)
  exact source.slot ▸ List.contains_iff_mem.mp allowed

theorem undeclared_of_silent (silent : command.kind = .filter ∨ command.kind = .select) :
    command.returning = none ∧ command.result = none := by
  have allowed {block : Block} (holds : command.Holds block) :
      .filter ∈ block.slot.kinds ∨ .select ∈ block.slot.kinds := by
    have member := facts.kind_mem holds
    rcases silent with kind | kind
    · exact .inl (kind ▸ member)
    · exact .inr (kind ▸ member)
  constructor
  · cases returning : command.returning with
    | none => rfl
    | some columns =>
      have kinds : .filter ∈ Slot.returning.kinds ∨ .select ∈ Slot.returning.kinds :=
        allowed (show command.Holds (.returning columns) from returning)
      simp [Slot.kinds] at kinds
  · cases result : command.result with
    | none => rfl
    | some binding =>
      have kinds : .filter ∈ Slot.result.kinds ∨ .select ∈ Slot.result.kinds :=
        allowed (show command.Holds (.result binding) from result)
      simp [Slot.kinds] at kinds

theorem returning_ne_nil {listed : List ColumnRef}
    (returning : command.returning = some (.columns listed)) : listed ≠ [] := by
  obtain ⟨field, _, source⟩ := facts.source (.returning (.columns listed)) returning
  obtain ⟨columns, read, same⟩ := bind_eq_ok.mp source.read
  cases pure_eq_ok.mp same
  exact ColumnList.ne_nil_of_read read

theorem whereBlock_read {block : WhereBlock} (present : command.whereBlock = some block) :
    ∃ field ∈ fields, field.rel? = none ∧ WhereBlock.read field = .ok block := by
  obtain ⟨field, _, source⟩ := facts.source (.whereBlock block) present
  obtain ⟨other, read, same⟩ := bind_eq_ok.mp source.read
  cases pure_eq_ok.mp same
  exact ⟨field, source.member, source.unbound, read⟩

theorem onConflict_read {block : OnConflictBlock} (present : command.onConflict = some block) :
    ∃ field ∈ fields, OnConflictBlock.read field = .ok block := by
  obtain ⟨field, _, source⟩ := facts.source (.onConflict block) present
  obtain ⟨other, read, same⟩ := bind_eq_ok.mp source.read
  cases pure_eq_ok.mp same
  exact ⟨field, source.member, read⟩

theorem joinItem_read {item : JoinItem} (member : item ∈ command.joinItems) :
    ∃ kind field text, JoinItem.read kind field text = .ok item := by
  cases present : command.join with
  | none => simp [joinItems, present] at member
  | some block =>
    obtain ⟨field, _, source⟩ := facts.source (.join block) present
    obtain ⟨other, read, same⟩ := bind_eq_ok.mp source.read
    cases pure_eq_ok.mp same
    exact JoinBlock.item_of_read read item (by simpa [joinItems, present] using member)

theorem leaf_read : ∀ leaf ∈ command.whereLeaves, leaf.ReadFrom fields := by
  cases present : command.whereBlock with
  | none => simp [whereLeaves, whereEntries, present, Entry.leavesOf]
  | some block =>
    obtain ⟨field, member, _, read⟩ := facts.whereBlock_read present
    have leaves := Entry.leavesOf_readFrom block.entries (WhereBlock.readFrom_of_read member read).2
    simpa [whereLeaves, whereEntries, present] using leaves

theorem update_ne_nil {block : OnConflictBlock} {listed : List ColumnRef}
    (present : command.onConflict = some block)
    (update : block.action = .update (.columns listed)) : listed ≠ [] := by
  obtain ⟨field, _, read⟩ := facts.onConflict_read present
  exact OnConflictBlock.ne_nil_of_read read update

theorem target_of_update {block : OnConflictBlock} {columns : ColumnList}
    (present : command.onConflict = some block) (update : block.action = .update columns) :
    ∃ target, block.target = some target := by
  obtain ⟨field, _, read⟩ := facts.onConflict_read present
  exact OnConflictBlock.target_of_read read update

theorem result_eq_none_of_returning (returning : command.returning.isSome = true) :
    command.result = none := by
  have complete := facts.complete
  simp only [checkComplete, guard_eq_ok, returning, Bool.true_and] at complete
  simpa using complete.1

theorem directive_of_all (all : command.all = true) : ∃ field ∈ fields, field.directive? = some .all := by
  obtain ⟨field, placement, source⟩ := facts.source .all all
  exact ⟨field, source.member, (Placement.kinds_of_field source.found).2 source.slot⟩

theorem selects_of_write (writes : command.kind = .update ∨ command.kind = .delete) :
    command.whereBlock.isSome = true ↔ command.all = false := by
  have complete := facts.complete
  rcases writes with kind | kind <;>
    simp only [checkComplete, kind, guard_eq_ok] at complete <;>
    cases found : command.whereBlock <;> cases all : command.all <;>
    simp [found, all, throw_ne_ok] at complete ⊢

theorem where_of_write (writes : command.kind = .update ∨ command.kind = .delete)
    (notAll : command.all = false) : ∃ block, command.whereBlock = some block :=
  Option.isSome_iff_exists.mp ((facts.selects_of_write writes).mpr notAll)

end ReadFrom

end Command

end RecordSql
