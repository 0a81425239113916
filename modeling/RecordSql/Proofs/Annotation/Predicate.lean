import RecordSql.Annotation.Predicate
import RecordSql.Command.Leaves
import RecordSql.Proofs.Annotation.Paths

namespace RecordSql

theorem Operand.fields_read (cs : List Char) : (Operand.read cs).fields = [] := by
  unfold Operand.read
  dsimp only
  split
  · split <;> rfl
  · rfl

theorem isQuantifiable_of_readQuantifier {field : String} {op : CompareOp} {word : List Char}
    {quantifier : Option Quantifier} (read : readQuantifier field op word = .ok quantifier)
    (written : quantifier.isSome = true) : op.isQuantifiable = true := by
  unfold readQuantifier at read
  split at read
  · cases read
    cases written
  · split at read
    · split at read
      · assumption
      · cases read
    · cases read

theorem FieldTest.isQuantifiable_of_read {path : List String} {field : HostField} {text : String}
    {test : FieldTest} (read : FieldTest.read path field text = .ok test)
    (written : test.quantifier.isSome = true) : test.op.isQuantifiable = true := by
  unfold FieldTest.read at read
  dsimp only at read
  obtain ⟨column, _, read⟩ := bind_eq_ok.mp read
  split at read <;> obtain ⟨op, _, read⟩ := bind_eq_ok.mp read <;>
    obtain ⟨quantifier, quantified, read⟩ := bind_eq_ok.mp read <;>
    cases pure_eq_ok.mp (ite_throw_right.mp read).2 <;>
    exact isQuantifiable_of_readQuantifier quantified written

theorem ColumnTest.condition_of_read {field : String} {cs : List Char} {test : ColumnTest}
    (read : ColumnTest.read field cs = .ok test) :
    (∃ op, test.condition = .test op) ∨ ∃ op quantifier text,
      test.condition = .compare op quantifier (Operand.read text) ∧
        (quantifier.isSome = true → op.isQuantifiable = true) := by
  unfold ColumnTest.read at read
  dsimp only at read
  obtain ⟨left, _, read⟩ := bind_eq_ok.mp read
  split at read
  · obtain ⟨_, made⟩ := ite_throw_right.mp read
    cases pure_eq_ok.mp made
    exact .inl ⟨_, rfl⟩
  · obtain ⟨op, _, read⟩ := bind_eq_ok.mp read
    split at read
    · obtain ⟨quantifier, quantified, read⟩ := bind_eq_ok.mp read
      obtain ⟨_, paired, read⟩ := bind_eq_ok.mp read
      cases pure_eq_ok.mp paired
      cases pure_eq_ok.mp (ite_throw_left.mp read).2
      exact .inr ⟨op, quantifier, _, rfl, isQuantifiable_of_readQuantifier quantified⟩
    · obtain ⟨_, paired, read⟩ := bind_eq_ok.mp read
      cases pure_eq_ok.mp paired
      cases pure_eq_ok.mp (ite_throw_left.mp read).2
      exact .inr ⟨op, none, _, rfl, by simp⟩

theorem ColumnTest.fields_of_read {field : String} {cs : List Char} {test : ColumnTest}
    (read : ColumnTest.read field cs = .ok test) :
    (test.right?.map Operand.fields).getD [] = [] := by
  rcases condition_of_read read with ⟨op, same⟩ | ⟨op, quantifier, text, same, _⟩
  · simp [right?, same]
  · simp [right?, same, Operand.fields_read]

theorem JoinCondition.test_of_read {field : String} {cs : List Char} {condition : JoinCondition}
    (read : JoinCondition.read field cs = .ok condition) :
    ∃ text, ColumnTest.read field text = .ok condition.test := by
  unfold JoinCondition.read at read
  split at read <;> simp only [bind_eq_ok, pure_eq_ok] at read <;> obtain ⟨test, testRead, rfl⟩ := read
  · exact ⟨_, testRead⟩
  · exact ⟨_, testRead⟩

/-- What is known of a join item that was read. -/
structure JoinItem.ReadFrom (item : JoinItem) : Prop where
  relation : ∃ text, RelationRef.parse? text = some item.relation
  fields : ∀ condition ∈ item.conditions, (condition.test.right?.map Operand.fields).getD [] = []
  cross : item.kind = .cross ↔ item.conditions = []

theorem JoinItem.parts_of_read {kind : JoinKind} {field text : String} {item : JoinItem}
    (read : JoinItem.read kind field text = .ok item) :
    (∃ head, RelationRef.parse? head = some item.relation) ∧
      (item.kind = .cross ↔ item.conditions = []) ∧
      ∀ condition ∈ item.conditions, ∃ cs, ColumnTest.read field cs = .ok condition.test := by
  unfold JoinItem.read at read
  split at read
  · cases read
  · split at read
    case h_2 => simp only [bind_eq_ok, throw_ne_ok, false_and, exists_false] at read
    case h_1 relation parsed =>
      simp only [bind_eq_ok, pure_eq_ok] at read
      obtain ⟨_, rfl, conditions, each, read⟩ := read
      have tests : ∀ condition ∈ conditions, ∃ cs, ColumnTest.read field cs = .ok condition.test := by
        intro condition member
        obtain ⟨part, _, partRead⟩ := step_of_mem_mapM each member
        exact JoinCondition.test_of_read partRead
      split at read
      case h_1 =>
        cases pure_eq_ok.mp read
        exact ⟨⟨_, parsed⟩, by simp, tests⟩
      case h_4 notCross =>
        cases pure_eq_ok.mp read
        exact ⟨⟨_, parsed⟩, by simpa using notCross, tests⟩
      all_goals cases read

theorem JoinItem.readFrom_of_read {kind : JoinKind} {field text : String} {item : JoinItem}
    (read : JoinItem.read kind field text = .ok item) : item.ReadFrom := by
  obtain ⟨relation, cross, tests⟩ := parts_of_read read
  refine ⟨relation, ?_, cross⟩
  intro condition member
  obtain ⟨cs, testRead⟩ := tests condition member
  exact ColumnTest.fields_of_read testRead

theorem JoinBlock.item_of_read {field : HostField} {block : JoinBlock}
    (read : JoinBlock.read field = .ok block) :
    ∀ item ∈ block.items, ∃ kind name text, JoinItem.read kind name text = .ok item := by
  unfold JoinBlock.read at read
  split at read
  · simp only [bind_eq_ok, pure_eq_ok] at read
    obtain ⟨items, each, rfl⟩ := read
    intro item member
    obtain ⟨fieldOf, _, itemRead⟩ := step_of_mem_mapM each member
    unfold JoinItem.ofField at itemRead
    split at itemRead
    · split at itemRead
      · obtain ⟨text, _, itemRead⟩ := bind_eq_ok.mp itemRead
        exact ⟨_, _, text, itemRead⟩
      · cases itemRead
    · cases itemRead
  · cases read

/-- A leaf as a member of a where block makes it, with the path that leads to the member. -/
inductive Leaf.ReadFrom (fields : List HostField) : Leaf → Prop
  | field {path : List String} {member : HostField} {text : String} {test : FieldTest} :
    FieldPath fields path member → FieldTest.read path member text = .ok test →
      ReadFrom fields (.field test)
  | column {name : String} {cs : List Char} {test : ColumnTest} :
    ColumnTest.read name cs = .ok test → ReadFrom fields (.column test)
  | between {path : List String} {member : HostField} {text : String} {members : List HostField}
    {test : BetweenTest} : FieldPath fields path member → member.nestedFields? = some members →
      BetweenTest.read path member.name text members = .ok test → ReadFrom fields (.between test)

/-- An entry as a member makes it: a group has an entry, and each was made by a member. -/
inductive Entry.ReadFrom (fields : List HostField) : Entry → Prop
  | leaf (connector : Connector) {leaf : Leaf} : leaf.ReadFrom fields →
    ReadFrom fields (.leaf connector leaf)
  | group (connector : Connector) (name : String) {entries : List Entry} : entries ≠ [] →
    (∀ entry ∈ entries, ReadFrom fields entry) → ReadFrom fields (.group connector name entries)

section

variable {fields : List HostField}

mutual
theorem Entry.groupsFilled_of_readFrom (entry : Entry) (facts : entry.ReadFrom fields) :
    entry.GroupsFilled := by
  cases facts with
  | leaf connector leaf => exact trivial
  | group connector name present each =>
    exact ⟨present, Entry.allGroupsFilled_of_readFrom _ each⟩

theorem Entry.allGroupsFilled_of_readFrom (entries : List Entry)
    (facts : ∀ entry ∈ entries, entry.ReadFrom fields) : Entry.AllGroupsFilled entries := by
  cases entries with
  | nil => exact trivial
  | cons entry entries =>
    obtain ⟨now, later⟩ := List.forall_mem_cons.mp facts
    exact ⟨Entry.groupsFilled_of_readFrom entry now,
      Entry.allGroupsFilled_of_readFrom entries later⟩
end

mutual
theorem Entry.leaf_readFrom (entry : Entry) (facts : entry.ReadFrom fields) :
    ∀ leaf ∈ entry.leaves, leaf.ReadFrom fields := by
  cases facts with
  | leaf connector read =>
    intro leaf member
    cases List.mem_singleton.mp member
    exact read
  | group connector name present each => exact Entry.leavesOf_readFrom _ each

theorem Entry.leavesOf_readFrom (entries : List Entry)
    (facts : ∀ entry ∈ entries, entry.ReadFrom fields) :
    ∀ leaf ∈ Entry.leavesOf entries, leaf.ReadFrom fields := by
  intro leaf member
  cases entries with
  | nil => cases member
  | cons entry entries =>
    obtain ⟨now, later⟩ := List.forall_mem_cons.mp facts
    rcases List.mem_append.mp member with here | after
    · exact Entry.leaf_readFrom entry now leaf here
    · exact Entry.leavesOf_readFrom entries later leaf after
end

theorem readFrom_of_readEntries (fields : List HostField) :
    (∀ (group : String) (path : List String) (begun : Bool)
      (pending : Option (Connector × String)) (members : List HostField) (entries : List Entry),
      Reached fields path members → readEntries group path begun pending members = .ok entries →
        (∀ entry ∈ entries, entry.ReadFrom fields) ∧
          (begun = false ∨ pending.isSome = true → entries ≠ [])) ∧
    (∀ (group : String) (path : List String) (connector : Connector) (member : HostField)
      (entry : Entry), FieldPath fields (path ++ [member.name]) member →
        readEntry group path connector member = .ok entry → entry.ReadFrom fields) ∧
    (∀ (group : String) (path : List String) (type : HostType) (members : List HostField)
      (entries : List Entry), type.required.recordFields? = some members →
        Reached fields path members → readEntriesWithin group path type = .ok entries →
          entries ≠ [] ∧ ∀ entry ∈ entries, entry.ReadFrom fields) := by
  apply readEntries.mutual_induct
    (fun group path begun pending members => ∀ entries, Reached fields path members →
      readEntries group path begun pending members = .ok entries →
        (∀ entry ∈ entries, entry.ReadFrom fields) ∧
          (begun = false ∨ pending.isSome = true → entries ≠ []))
    (fun group path connector member => ∀ entry, FieldPath fields (path ++ [member.name]) member →
      readEntry group path connector member = .ok entry → entry.ReadFrom fields)
    (fun group path type => ∀ members entries, type.required.recordFields? = some members →
      Reached fields path members → readEntriesWithin group path type = .ok entries →
        entries ≠ [] ∧ ∀ entry ∈ entries, entry.ReadFrom fields)
  -- a record or an optional one, in which nothing has begun
  case case1 =>
    intro group path inner _ _ _ _ ih members entries nested reached read
    rw [readEntriesWithin] at read
    cases HostType.shape_of_recordFields nested
    exact ⟨(ih entries reached read).2 (.inl rfl), (ih entries reached read).1⟩
  case case2 =>
    intro group path inner _ _ ih members entries nested reached read
    rw [readEntriesWithin] at read
    cases HostType.shape_of_recordFields nested
    exact ⟨(ih entries reached read).2 (.inl rfl), (ih entries reached read).1⟩
  case case3 =>
    intro type group path notOptional notRecord members entries nested reached read
    rw [readEntriesWithin] at read
    · cases read
    · exact notOptional
    · exact notRecord
  -- members that are leaves
  case case4 =>
    intro group path connector name tag type embedded field marked entry leads read
    simp only [readEntry, field, marked, bind_eq_ok, pure_eq_ok] at read
    obtain ⟨_, _, _, testRead, rfl⟩ := read
    exact .leaf connector (.column testRead)
  case case5 =>
    intro group path connector name tag type embedded field other notColumn marked entry leads read
    simp [readEntry, field, marked] at read
  case case6 =>
    intro group path connector name tag type embedded field plain text members nested tagged entry
      leads read
    simp only [readEntry, plain, nested, tagged, field, bind_eq_ok, pure_eq_ok] at read
    obtain ⟨_, testRead, rfl⟩ := read
    exact .leaf connector (.between leads nested testRead)
  case case7 =>
    intro group path connector name tag type embedded field plain text nested tagged entry leads read
    simp only [readEntry, plain, nested, tagged, field, bind_eq_ok, pure_eq_ok] at read
    obtain ⟨_, testRead, rfl⟩ := read
    exact .leaf connector (.field leads testRead)
  -- a member that is a group
  case case8 =>
    intro group path connector name tag type embedded field plain members nested tagged ih entry leads
      read
    simp only [readEntry, plain, nested, tagged, field, bind_eq_ok, pure_eq_ok] at read
    obtain ⟨entries, inner, rfl⟩ := read
    obtain ⟨filled, each⟩ := ih members entries nested (leads.reached nested) inner
    exact .group connector name filled each
  case case9 =>
    intro group path connector name tag type embedded field plain nested tagged entry leads read
    simp [readEntry, plain, nested, tagged, field] at read
  -- the ends of lists
  case case10 =>
    intro group path begun connector field entries reached read
    cases read
  case case11 =>
    intro group path entries reached read
    simp only [readEntries, if_true, Except.ok.injEq] at read
    subst read
    exact ⟨by simp, by simp⟩
  case case12 =>
    intro group path begun notBegun entries reached read
    simp [readEntries, notBegun] at read
  -- a connector leaves the entries after it as they are, and must be followed by one
  case case13 =>
    intro group path begun pending member members connector isConnector fits ih entries reached read
    simp only [readEntries, isConnector, fits, if_true] at read
    obtain ⟨each, filled⟩ := ih entries (List.forall_mem_cons.mp reached).2 read
    exact ⟨each, fun _ => filled (.inr rfl)⟩
  case case14 =>
    intro group path begun pending member members connector isConnector misplaced entries reached read
    simp [readEntries, isConnector, misplaced] at read
  case case15 =>
    intro group path begun pending member members notConnector ihEntry ihRest entries reached read
    simp only [readEntries, notConnector, bind_eq_ok, pure_eq_ok] at read
    obtain ⟨entry, entryRead, rest, restRead, rfl⟩ := read
    obtain ⟨leads, reached⟩ := List.forall_mem_cons.mp reached
    have first := ihEntry entry leads entryRead
    exact ⟨List.forall_mem_cons.mpr ⟨first, (ihRest rest reached restRead).1⟩, by simp⟩

theorem WhereBlock.readFrom_of_read {field : HostField} {block : WhereBlock} (member : field ∈ fields)
    (read : WhereBlock.read field = .ok block) :
    block.entries ≠ [] ∧ ∀ entry ∈ block.entries, entry.ReadFrom fields := by
  unfold WhereBlock.read at read
  split at read
  · rename_i members nested
    simp only [bind_eq_ok, pure_eq_ok] at read
    obtain ⟨entries, entriesRead, rfl⟩ := read
    have reached := (FieldPath.first member).reached nested
    exact (readFrom_of_readEntries fields).2.2 _ _ _ _ entries nested reached entriesRead
  · cases read

end

def HostField.boundOf? (path : List String) (member : HostField) : Option (String × Operand) :=
  match member.directive? with
  | some .column => member.sqlText?.bind fun text =>
    match Text.splitTopLevel ',' text.toList with
    | [value, slot] => some (Text.lower (String.ofList slot), Operand.read value)
    | _ => none
  | some _ => none
  | none => member.sql?.map fun slot =>
    (Text.lower slot, .field ⟨path ++ [member.name], member.type⟩)

theorem Bounds.set_eq_ok {bounds after : Bounds} {field slot : String} {operand : Operand}
    (filled : bounds.set field slot operand = .ok after) :
    (Text.lower slot = "x" ∧ bounds.low = none ∧ after = ⟨some operand, bounds.high⟩) ∨
      (Text.lower slot = "y" ∧ bounds.high = none ∧ after = ⟨bounds.low, some operand⟩) := by
  unfold Bounds.set at filled
  split at filled
  · rename_i lower
    cases filled
    exact .inl ⟨lower, rfl, rfl⟩
  · rename_i lower
    cases filled
    exact .inr ⟨lower, rfl, rfl⟩
  · cases filled

theorem Bounds.add_eq_ok {bounds after : Bounds} {range : String} {path : List String}
    {member : HostField} (added : bounds.add range path member = .ok after) :
    ∃ operand, (member.boundOf? path = some ("x", operand) ∧ bounds.low = none ∧
        after = ⟨some operand, bounds.high⟩) ∨
      (member.boundOf? path = some ("y", operand) ∧ bounds.high = none ∧
        after = ⟨bounds.low, some operand⟩) := by
  unfold Bounds.add at added
  split at added
  · rename_i marked
    obtain ⟨text, tagged, added⟩ := bind_eq_ok.mp added
    have text? : member.sqlText? = some text := by
      unfold predicateText at tagged
      split at tagged
      · rename_i found
        cases tagged
        exact found
      · cases tagged
    split at added
    · rename_i value slot parts
      refine ⟨Operand.read value, ?_⟩
      simpa [HostField.boundOf?, marked, text?, parts] using Bounds.set_eq_ok added
    · cases added
  · cases added
  · rename_i unmarked
    split at added
    · rename_i slot tagged
      refine ⟨.field ⟨path ++ [member.name], member.type⟩, ?_⟩
      simpa [HostField.boundOf?, unmarked, tagged] using Bounds.set_eq_ok added
    · cases added

theorem Bounds.nil_of_full {range : String} {path : List String} {members : List HostField}
    {low high : Operand} {after : Bounds}
    (folded : members.foldlM (Bounds.add range path) ⟨some low, some high⟩ = .ok after) :
    members = [] ∧ after = ⟨some low, some high⟩ := by
  cases members with
  | nil => exact ⟨rfl, (pure_eq_ok.mp folded).symm⟩
  | cons first rest =>
    rw [List.foldlM_cons, bind_eq_ok] at folded
    obtain ⟨middle, added, _⟩ := folded
    obtain ⟨_, ⟨_, free, _⟩ | ⟨_, free, _⟩⟩ := Bounds.add_eq_ok added <;> cases free

/-- Both slots are filled by two members only, in either order. -/
theorem Bounds.members_of_foldlM {range : String} {path : List String} {members : List HostField}
    {lowBound highBound : Operand}
    (folded : members.foldlM (Bounds.add range path) {} = .ok ⟨some lowBound, some highBound⟩) :
    ∃ low high, (members = [low, high] ∨ members = [high, low]) ∧
      low.boundOf? path = some ("x", lowBound) ∧ high.boundOf? path = some ("y", highBound) := by
  cases members with
  | nil => cases folded
  | cons first rest =>
    rw [List.foldlM_cons, bind_eq_ok] at folded
    obtain ⟨one, firstAdded, folded⟩ := folded
    obtain ⟨firstBound, firstFilled⟩ := Bounds.add_eq_ok firstAdded
    cases rest with
    | nil =>
      cases pure_eq_ok.mp folded
      rcases firstFilled with ⟨_, _, same⟩ | ⟨_, _, same⟩ <;> cases same
    | cons second rest =>
      rw [List.foldlM_cons, bind_eq_ok] at folded
      obtain ⟨two, secondAdded, folded⟩ := folded
      obtain ⟨secondBound, secondFilled⟩ := Bounds.add_eq_ok secondAdded
      -- a slot that the first member filled is not free for the second
      rcases firstFilled with ⟨firstSlot, _, rfl⟩ | ⟨firstSlot, _, rfl⟩ <;>
        rcases secondFilled with ⟨secondSlot, free, rfl⟩ | ⟨secondSlot, free, rfl⟩
      · cases free
      · obtain ⟨rfl, same⟩ := Bounds.nil_of_full folded
        cases same
        exact ⟨first, second, .inl rfl, firstSlot, secondSlot⟩
      · obtain ⟨rfl, same⟩ := Bounds.nil_of_full folded
        cases same
        exact ⟨second, first, .inr rfl, secondSlot, firstSlot⟩
      · cases free

theorem BetweenTest.bounds_of_read {path : List String} {name text : String}
    {members : List HostField} {test : BetweenTest}
    (read : BetweenTest.read path name text members = .ok test) :
    ∃ low high, (members = [low, high] ∨ members = [high, low]) ∧
      low.boundOf? path = some ("x", test.low) ∧ high.boundOf? path = some ("y", test.high) := by
  unfold BetweenTest.read at read
  generalize Text.nextWord text.toList = head at read
  dsimp only at read
  generalize Text.nextWord head.2 = word at read
  simp only [require_eq_ok, bind_eq_ok] at read
  obtain ⟨_, column, _, read⟩ := read
  split at read
  · obtain ⟨op, _, read⟩ := bind_eq_ok.mp read
    obtain ⟨bounds, folded, read⟩ := bind_eq_ok.mp read
    split at read
    · cases pure_eq_ok.mp read
      exact Bounds.members_of_foldlM folded
    · exact absurd read throw_ne_ok
  · obtain ⟨op, thrown, _⟩ := bind_eq_ok.mp read
    exact absurd thrown throw_ne_ok

theorem FieldTest.field_of_read {path : List String} {field : HostField} {text : String}
    {test : FieldTest} (read : FieldTest.read path field text = .ok test) :
    test.field = ⟨path, field.type⟩ := by
  unfold FieldTest.read at read
  dsimp only at read
  obtain ⟨column, _, read⟩ := bind_eq_ok.mp read
  split at read <;> obtain ⟨op, _, read⟩ := bind_eq_ok.mp read <;>
    obtain ⟨quantifier, _, read⟩ := bind_eq_ok.mp read <;>
    cases pure_eq_ok.mp (ite_throw_right.mp read).2 <;> rfl

theorem HostField.fields_of_boundOf {path : List String} {member : HostField} {slot : String}
    {bound : Operand} (declared : member.boundOf? path = some (slot, bound)) :
    ∀ ref ∈ bound.fields, ref = ⟨path ++ [member.name], member.type⟩ := by
  intro ref isField
  unfold HostField.boundOf? at declared
  split at declared
  · obtain ⟨text, _, parts⟩ := Option.bind_eq_some_iff.mp declared
    split at parts
    · cases parts
      simp [Operand.fields_read] at isField
    · cases parts
  · cases declared
  · obtain ⟨slot, _, same⟩ := Option.map_eq_some_iff.mp declared
    cases same
    exact List.mem_singleton.mp isField

/-- Wherever a leaf stands, the paths of its fields lead there. -/
theorem Leaf.resolves_of_readFrom {fields : List HostField} {leaf : Leaf}
    (facts : leaf.ReadFrom fields) : ∀ ref ∈ leaf.fields, Resolves fields ref.path ref.type := by
  intro ref isField
  cases facts with
  | field leads read =>
    cases (List.mem_singleton.mp isField).trans (FieldTest.field_of_read read)
    exact ⟨_, leads, rfl⟩
  | column read =>
    rw [Leaf.fields, ColumnTest.fields_of_read read] at isField
    cases isField
  | between leads nested read =>
    obtain ⟨low, high, listed, lowBound, highBound⟩ := BetweenTest.bounds_of_read read
    have resolves (member : HostField) (isMember : member ∈ [low, high]) :
        Resolves fields (_ ++ [member.name]) member.type :=
      ⟨member, leads.reached nested member (by rcases listed with rfl | rfl <;> simp_all [or_comm]), rfl⟩
    rcases List.mem_append.mp isField with isLow | isHigh
    · cases HostField.fields_of_boundOf lowBound ref isLow
      exact resolves low (by simp)
    · cases HostField.fields_of_boundOf highBound ref isHigh
      exact resolves high (by simp)

end RecordSql
