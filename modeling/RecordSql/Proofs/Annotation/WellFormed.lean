import RecordSql.Proofs.Statement.Lowering

namespace RecordSql

def ColumnTest.Quantifiable (test : ColumnTest) : Prop :=
  ∀ op quantifier right, test.condition = .compare op (some quantifier) right →
    op.isQuantifiable = true

def Leaf.Quantifiable : Leaf → Prop
  | field test => test.quantifier.isSome = true → test.op.isQuantifiable = true
  | column test => test.Quantifiable
  | between _ => True

/-- Only cross joins have no conditions, and no condition of a join has a field on its right. -/
structure JoinItem.WellFormed (item : JoinItem) : Prop where
  cross : item.kind = .cross ↔ item.conditions = []
  quantifiable : ∀ condition ∈ item.conditions, condition.test.Quantifiable
  fieldless : ∀ condition ∈ item.conditions, ∀ field,
    condition.test.right? ≠ some (.field field)

structure Command.WellFormed (command : Command) : Prop where
  placed : ∀ slot, command.isFilled slot = true → command.kind ∈ slot.kinds
  returns : ¬ (command.returning.isSome = true ∧ command.result.isSome = true)
  /-- A write has a where block or means all rows, and not both. -/
  selects : command.kind = .update ∨ command.kind = .delete →
    (command.whereBlock.isSome = true ↔ command.all = false)
  /-- What is updated on a conflict has a conflict to detect. -/
  target : ∀ block columns, command.onConflict = some block → block.action = .update columns →
    block.target.isSome = true
  filled : ∀ block, command.whereBlock = some block →
    block.entries ≠ [] ∧ Entry.AllGroupsFilled block.entries
  quantifiable : ∀ leaf ∈ command.whereLeaves, leaf.Quantifiable
  joins : ∀ item ∈ command.joinItems, item.WellFormed

theorem ColumnTest.quantifiable_of_read {field : String} {cs : List Char} {test : ColumnTest}
    (read : ColumnTest.read field cs = .ok test) : test.Quantifiable := by
  intro op quantifier right compares
  rcases condition_of_read read with ⟨_, same⟩ | ⟨_, _, _, same, allowed⟩
  · rw [same] at compares
    cases compares
  · rw [same] at compares
    cases compares
    exact allowed rfl

theorem Leaf.quantifiable_of_readFrom {fields : List HostField} {leaf : Leaf}
    (facts : leaf.ReadFrom fields) : leaf.Quantifiable := by
  cases facts with
  | field _ read => exact FieldTest.isQuantifiable_of_read read
  | column read => exact ColumnTest.quantifiable_of_read read
  | between _ _ _ => exact trivial

theorem JoinItem.wellFormed_of_itemRead {kind : JoinKind} {field text : String} {item : JoinItem}
    (read : JoinItem.read kind field text = .ok item) : item.WellFormed := by
  obtain ⟨_, cross, tests⟩ := parts_of_read read
  refine ⟨cross, ?_, ?_⟩
  · intro condition member
    obtain ⟨cs, testRead⟩ := tests condition member
    exact ColumnTest.quantifiable_of_read testRead
  · intro condition member reference onRight
    obtain ⟨cs, testRead⟩ := tests condition member
    have fieldless := ColumnTest.fields_of_read testRead
    simp [onRight, Operand.fields] at fieldless

namespace Command

variable {naming : ColumnNaming} {name : String} {fields : List HostField} {command : Command}

theorem exists_holds_of_isFilled {slot : Slot} (filled : command.isFilled slot = true) :
    ∃ block, block.slot = slot ∧ command.Holds block := by
  cases slot <;> simp only [isFilled, Option.isSome_iff_exists] at filled
  case all => exact ⟨.all, rfl, filled⟩
  all_goals obtain ⟨part, held⟩ := filled
  exacts [⟨.join part, rfl, held⟩, ⟨.whereBlock part, rfl, held⟩, ⟨.onConflict part, rfl, held⟩,
    ⟨.orderBy part, rfl, held⟩, ⟨.limit part, rfl, held⟩, ⟨.offset part, rfl, held⟩,
    ⟨.defaults part, rfl, held⟩, ⟨.force part, rfl, held⟩, ⟨.returning part, rfl, held⟩,
    ⟨.textSearch part, rfl, held⟩, ⟨.result part, rfl, held⟩, ⟨.rowsAffected part, rfl, held⟩,
    ⟨.errorHandler part, rfl, held⟩]

/-- Whatever the fields, the command that they make is well-formed. -/
theorem wellFormed_of_read (read : Command.read naming name fields = .ok command) :
    command.WellFormed where
  placed slot filled := by
    obtain ⟨block, rfl, holds⟩ := exists_holds_of_isFilled filled
    exact (readFrom_of_read read).kind_mem holds
  returns := by
    rintro ⟨returning, result⟩
    simp [(readFrom_of_read read).result_eq_none_of_returning returning] at result
  selects := (readFrom_of_read read).selects_of_write
  target block columns present update := by
    rw [Option.isSome_iff_exists]
    exact (readFrom_of_read read).target_of_update present update
  filled block present := by
    obtain ⟨field, member, _, blockRead⟩ := (readFrom_of_read read).whereBlock_read present
    obtain ⟨filled, each⟩ := WhereBlock.readFrom_of_read member blockRead
    exact ⟨filled, Entry.allGroupsFilled_of_readFrom block.entries each⟩
  quantifiable leaf member := Leaf.quantifiable_of_readFrom ((readFrom_of_read read).leaf_read leaf member)
  joins item member := by
    obtain ⟨_, _, _, itemRead⟩ := (readFrom_of_read read).joinItem_read member
    exact JoinItem.wellFormed_of_itemRead itemRead

def purgePosts : List HostField :=
  [taggedField "Post" "rel" "posts:p" (recordOf []),
   { name := "Using"
     type := recordOf
       [taggedField "_" "sql" "users:u, u.id = p.user_id, or u.email = any p.title" Directive.join.hostType,
        taggedField "_" "sql" "users:other" Directive.crossJoin.hostType] },
   { name := "Where"
     type := recordOf
       [taggedField "Titles" "sql" "title = any" (HostType.seq HostType.text),
        { name := "_", type := Directive.or.hostType },
        { name := "Old"
          type := recordOf
            [taggedField "_" "sql" "body isnull" Directive.column.hostType,
             taggedField "Span" "sql" "p.id isbetween"
               (recordOf [taggedField "Last" "sql" "y" (HostType.scalar .i32),
                 taggedField "First" "sql" "x" (HostType.scalar .i32)])] }] },
   taggedField "_" "sql" "id" Directive.returning.hostType]

theorem wellFormed_of_read_purgePosts :
    ∃ command, Command.read .tagged "DeletePosts" purgePosts = .ok command ∧
      command.kind = .delete ∧ command.joinItems.map JoinItem.kind = [.inner, .cross] ∧
      command.whereLeaves.length = 3 ∧ command.returning.isSome = true ∧ command.WellFormed := by
  obtain ⟨command, read, facts⟩ := exists_read
    (fun command => command.kind == .delete &&
      command.joinItems.map JoinItem.kind == [.inner, .cross] && command.whereLeaves.length == 3 &&
      command.returning.isSome)
    (show (Command.read .tagged "DeletePosts" purgePosts).toOption.any _ = true by decide +kernel)
  simp only [Bool.and_eq_true, beq_iff_eq] at facts
  obtain ⟨⟨⟨kind, joins⟩, leaves⟩, returning⟩ := facts
  exact ⟨command, read, kind, joins, leaves, returning, wellFormed_of_read read⟩

end Command

end RecordSql
