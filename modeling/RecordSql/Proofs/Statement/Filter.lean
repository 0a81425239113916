import RecordSql.Proofs.Statement.Lowering
import RecordSql.Proofs.Statement.Truth

namespace RecordSql

variable {naming : ColumnNaming} {name : String} {fields : List HostField} {database : Database}
  {command : Command} {checked : CheckedCommand} {bound : BoundStatement} {block : WhereBlock}
  {first : JoinItem} {rest : List JoinItem}

namespace Accepted

theorem writes_of_changesRows (accepted : Accepted naming name fields database command checked bound)
    (changes : bound.statement.changesRows = true) :
    command.kind = .update ∨ command.kind = .delete := by
  obtain ⟨lowering, gives, rfl⟩ := accepted.lowering
  obtain ⟨build, builds, ran⟩ := gives.builds
  have statement : (build.run []).1 = bound.statement := by rw [ran]
  rw [← statement] at changes
  cases builds with
  | select => cases changes
  | insert => cases changes
  | update kind => exact .inl kind
  | delete kind => exact .inr kind

end Accepted

theorem Test.sql_ne_empty (test : Test) : test.sql ≠ "" := by
  cases test with
  | compare left op quantifier right => cases quantifier <;> simp [Test.sql]
  | unary expr op => simp [Test.sql]
  | between expr op low high => simp [Test.sql]

theorem Condition.sql_ne_empty {condition : Condition} (present : condition ≠ []) :
    Condition.sql condition ≠ "" := by
  cases condition with
  | nil => exact absurd rfl present
  | cons clause clauses =>
    cases clause with
    | test connector test => simp [Condition.sql, Clause.bodySql, Test.sql_ne_empty]
    | group connector inner => simp [Condition.sql, Clause.bodySql]

theorem filterSql_of_ne_nil {condition : Condition} (present : condition ≠ []) :
    filterSql (some condition) = " WHERE " ++ Condition.sql condition := by
  cases condition with
  | nil => exact absurd rfl present
  | cons clause clauses => rfl

theorem Statement.sql_of_changesRows {statement : Statement}
    (changes : statement.changesRows = true) :
    ∃ front rest, statement.sql = front ++ filterSql statement.filter ++ rest := by
  cases statement with
  | select body => cases changes
  | insert body => cases changes
  | update body => exact ⟨_, returningSql body.returning, rfl⟩
  | delete body => exact ⟨_, returningSql body.returning, rfl⟩

theorem Statement.sql_of_filter {statement : Statement} {condition : Condition}
    (changes : statement.changesRows = true) (filter : statement.filter = some condition)
    (present : condition ≠ []) :
    ∃ front rest, statement.sql = front ++ " WHERE " ++ Condition.sql condition ++ rest := by
  obtain ⟨front, rest, text⟩ := Statement.sql_of_changesRows changes
  refine ⟨front, rest, ?_⟩
  rw [text, filter, filterSql_of_ne_nil present, ← String.append_assoc]

structure FilterParts (lowering : Lowering) (first : JoinItem) (block : WhereBlock)
    (args : List ArgSource) (leading user : Condition) : Prop where
  leading : ∃ before, ((lowering.joinConditions first).run before).1 = leading
  user : ∃ before, (lowering.clausesOf block.entries).run before = (user, args)

theorem Accepted.filterParts (accepted : Accepted naming name fields database command checked bound)
    (writes : command.kind = .update ∨ command.kind = .delete)
    (present : command.whereBlock = some block) (items : command.joinItems = first :: rest) :
    ∃ lowering leading user, Lowering.Gives lowering checked bound ∧
      FilterParts lowering first block bound.args leading user ∧
      bound.statement.filter = Lowering.combine leading (some user) := by
  obtain ⟨lowering, gives, rfl⟩ := accepted.lowering
  obtain ⟨build, builds, ran⟩ := gives.builds
  obtain ⟨before, source, joins, parts⟩ := Lowering.sourceParts_of_builds builds ran writes
  obtain ⟨middle, filter, last⟩ := Lowering.filter_of_joins items parts
  rw [Lowering.filter_run present (accepted.where_readFrom present).1] at filter last
  exact ⟨lowering, _, _, gives, ⟨⟨before, rfl⟩, middle, Prod.ext rfl last⟩, filter⟩

/-- The where list reaches the condition of the statement, bare or as one group. -/
theorem Accepted.filter_contains (accepted : Accepted naming name fields database command checked bound)
    (writes : command.kind = .update ∨ command.kind = .delete)
    (present : command.whereBlock = some block) :
    ∃ lowering before user condition, Lowering.Gives lowering checked bound ∧
      (lowering.clausesOf block.entries).run before = (user, bound.args) ∧
      bound.statement.filter = some condition ∧
      (condition = user ∨ ∃ leading, Condition.groups leading = [] ∧
        condition = leading ++ [.group .and user]) := by
  cases items : command.joinItems with
  | nil =>
    obtain ⟨lowering, gives, rfl⟩ := accepted.lowering
    obtain ⟨build, builds, ran⟩ := gives.builds
    obtain ⟨before, source, joins, parts⟩ := Lowering.sourceParts_of_builds builds ran writes
    have filter := Lowering.filter_of_no_joins items parts
    rw [Lowering.filter_run present (accepted.where_readFrom present).1] at filter
    obtain ⟨same, args⟩ := Prod.mk.inj filter
    exact ⟨lowering, before, _, _, gives, Prod.ext rfl args, same.symm, .inl rfl⟩
  | cons first rest =>
    obtain ⟨lowering, leading, user, gives, ⟨⟨start, leads⟩, before, ran⟩, filter⟩ :=
      accepted.filterParts writes present items
    cases leading with
    | nil => exact ⟨lowering, before, user, user, gives, ran, filter, .inl rfl⟩
    | cons clause clauses =>
      refine ⟨lowering, before, user, _, gives, ran, filter, .inr ⟨clause :: clauses, ?_, rfl⟩⟩
      rw [← leads]
      exact lowering.groups_joinConditions first start

theorem groups_filled_of_contains {condition user : Condition} (filled : user ≠ [])
    (inside : ∀ inner ∈ Condition.groups user, inner ≠ [])
    (contains : condition = user ∨ ∃ leading, Condition.groups leading = [] ∧
      condition = leading ++ [.group .and user]) :
    condition ≠ [] ∧ ∀ inner ∈ Condition.groups condition, inner ≠ [] := by
  rcases contains with rfl | ⟨leading, plain, rfl⟩
  · exact ⟨filled, inside⟩
  · refine ⟨by simp, ?_⟩
    intro inner member
    simp only [Condition.groups_eq_flatMap, List.flatMap_append, List.flatMap_cons,
      List.flatMap_nil, Clause.groups, List.append_nil] at plain member
    rw [plain, List.nil_append, List.mem_cons, ← Condition.groups_eq_flatMap] at member
    rcases member with rfl | deeper
    · exact filled
    · exact inside inner deeper

theorem Accepted.whereBlock_of_selective
    (accepted : Accepted naming name fields database command checked bound)
    (changes : bound.statement.changesRows = true)
    (selective : ∀ field ∈ fields, field.directive? ≠ some .all) :
    ∃ block, command.whereBlock = some block := by
  have facts := Command.readFrom_of_read accepted.read
  have notAll : command.all = false := by
    rw [Bool.eq_false_iff]
    intro all
    obtain ⟨field, member, marked⟩ := facts.directive_of_all all
    exact selective field member marked
  exact facts.where_of_write (accepted.writes_of_changesRows changes) notAll

theorem Accepted.user_filled (accepted : Accepted naming name fields database command checked bound)
    (present : command.whereBlock = some block) (lowering : Lowering) (before : List ArgSource) :
    ((lowering.clausesOf block.entries).run before).1 ≠ [] ∧
      ∀ inner ∈ Condition.groups ((lowering.clausesOf block.entries).run before).1, inner ≠ [] := by
  obtain ⟨entries, each⟩ := accepted.where_readFrom present
  have groups := Entry.allGroupsFilled_of_readFrom block.entries each
  have clauses := lowering.isEmpty_clausesOf block.entries before
  rw [List.isEmpty_eq_false_iff.mpr entries] at clauses
  exact ⟨List.isEmpty_eq_false_iff.mp clauses,
    lowering.filled_clausesOf block.entries groups before⟩

/-- An update or delete without All has a condition that contains what every where item becomes,
and no parentheses in it are empty. -/
theorem filter_of_write_without_all
    (accepted : Accepted naming name fields database command checked bound)
    (changes : bound.statement.changesRows = true)
    (selective : ∀ field ∈ fields, field.directive? ≠ some .all) :
    ∃ block lowering before user condition, command.whereBlock = some block ∧
      Lowering.Gives lowering checked bound ∧
      (lowering.condition block.entries).run before = (user, bound.args) ∧
      List.Forall₂ lowering.Image block.entries user ∧
      bound.statement.filter = some condition ∧ condition ≠ [] ∧
      (condition = user ∨ ∃ leading, condition = leading ++ [.group .and user]) ∧
      (∀ inner ∈ Condition.groups condition, inner ≠ [] ∧ Condition.sql inner ≠ "") ∧
      ∃ front rest, bound.statement.sql = front ++ " WHERE " ++ Condition.sql condition ++ rest := by
  obtain ⟨block, present⟩ := accepted.whereBlock_of_selective changes selective
  have writes := accepted.writes_of_changesRows changes
  obtain ⟨lowering, before, user, condition, gives, ran, filter, contains⟩ :=
    accepted.filter_contains writes present
  have image := lowering.image_clausesOf block.entries before
  have user_filled := accepted.user_filled present lowering before
  rw [ran] at image user_filled
  obtain ⟨filled, groups⟩ := groups_filled_of_contains user_filled.1 user_filled.2 contains
  refine ⟨block, lowering, before, user, condition, present, gives, ?_, image, filter, filled, ?_,
    ?_, Statement.sql_of_filter changes filter filled⟩
  · rw [Lowering.condition_eq_clausesOf, ran]
  · rcases contains with same | ⟨leading, _, same⟩
    · exact .inl same
    · exact .inr ⟨leading, same⟩
  · intro inner member
    exact ⟨groups inner member, Condition.sql_ne_empty (groups inner member)⟩

theorem filter_of_write_without_all_renameAuthors :
    (∀ field ∈ renameAuthors, field.directive? ≠ some .all) ∧
      ∃ command checked bound block lowering user condition,
        Accepted .tagged "UpdateUser" renameAuthors blog command checked bound ∧
        bound.statement.changesRows = true ∧ command.whereBlock = some block ∧
        Lowering.Gives lowering checked bound ∧ List.Forall₂ lowering.Image block.entries user ∧
        bound.statement.filter = some condition ∧ condition ≠ [] ∧
        (condition = user ∨ ∃ leading, condition = leading ++ [.group .and user]) ∧
        ∀ inner ∈ Condition.groups condition, inner ≠ [] ∧ Condition.sql inner ≠ "" := by
  have selective : ∀ field ∈ renameAuthors, field.directive? ≠ some .all := by decide +kernel
  obtain ⟨command, checked, bound, _, _, _, accepted, _, _, _, changes⟩ := renameAuthors_accepted
  obtain ⟨block, lowering, before, user, condition, present, gives, _, image, filter, filled,
    contains, groups, _⟩ := filter_of_write_without_all accepted changes selective
  exact ⟨selective, command, checked, bound, block, lowering, user, condition, accepted, changes,
    present, gives, image, filter, filled, contains, groups⟩

theorem connectors_of_joinConditions (lowering : Lowering) (item : JoinItem)
    (before : List ArgSource) :
    ((lowering.joinConditions item).run before).1.map Clause.connector =
      item.conditions.map JoinCondition.connector :=
  Binding.map_mapM (fun _ _ _ => rfl) before

theorem FilterParts.connector_of_tail {lowering : Lowering} {args : List ArgSource}
    {leading user : Condition} (parts : FilterParts lowering first block args leading user)
    (conjunction : ∀ condition ∈ first.conditions.tail, condition.connector = .and) :
    ∀ clause ∈ leading.tail, clause.connector = .and := by
  obtain ⟨before, rfl⟩ := parts.leading
  have connectors := congrArg List.tail (connectors_of_joinConditions lowering first before)
  rw [← List.map_tail, ← List.map_tail] at connectors
  intro clause member
  have inside : clause.connector ∈ first.conditions.tail.map JoinCondition.connector :=
    connectors ▸ List.mem_map_of_mem member
  obtain ⟨condition, present, same⟩ := List.mem_map.mp inside
  rw [← same]
  exact conjunction condition present

theorem holds_combine (leading user : Condition) :
    ∃ condition, Lowering.combine leading (some user) = some condition ∧
      ∀ truth, Condition.holds truth condition = (Condition.earlierHolds truth leading ||
        (Condition.allHold truth leading.lastRun && Condition.holds truth user)) := by
  cases leading with
  | nil => exact ⟨user, rfl, fun truth => rfl⟩
  | cons clause clauses =>
    refine ⟨(clause :: clauses) ++ [.group .and user], rfl, ?_⟩
    intro truth
    exact Condition.holds_concat truth rfl (List.cons_ne_nil clause clauses)

/-- The condition of a write with joins. A run of the join conditions that is followed by OR lets
rows past the where block; the others are restricted by it. -/
theorem joined_filter_holds (accepted : Accepted naming name fields database command checked bound)
    (writes : command.kind = .update ∨ command.kind = .delete)
    (present : command.whereBlock = some block) (items : command.joinItems = first :: rest) :
    ∃ lowering leading user condition, Lowering.Gives lowering checked bound ∧
      FilterParts lowering first block bound.args leading user ∧
      bound.statement.filter = some condition ∧
      (∀ truth, Condition.holds truth condition = (Condition.earlierHolds truth leading ||
        (Condition.allHold truth leading.lastRun && Condition.holds truth user))) ∧
      (∀ truth, Condition.holds truth condition =
          (Condition.holds truth leading && Condition.holds truth user) ↔
        (Condition.earlierHolds truth leading = true → Condition.holds truth user = true)) ∧
      ((∀ condition ∈ first.conditions.tail, condition.connector = .and) →
        ∀ truth, Condition.holds truth condition =
          (Condition.holds truth leading && Condition.holds truth user)) := by
  obtain ⟨lowering, leading, user, gives, parts, filter⟩ :=
    accepted.filterParts writes present items
  obtain ⟨condition, combined, holds⟩ := holds_combine leading user
  have exact : ∀ truth, Condition.holds truth condition =
        (Condition.holds truth leading && Condition.holds truth user) ↔
      (Condition.earlierHolds truth leading = true → Condition.holds truth user = true) := by
    intro truth
    rw [holds truth, Condition.holds_eq_earlier_or_last truth leading]
    cases Condition.earlierHolds truth leading <;> simp
  refine ⟨lowering, leading, user, condition, gives, parts, filter.trans combined, holds, exact, ?_⟩
  intro conjunction truth
  have none : Condition.earlierHolds truth leading = false :=
    Condition.earlierHolds_of_and truth (parts.connector_of_tail conjunction)
  exact (exact truth).mpr (by simp [none])

theorem joined_filter_holds_renameAuthors :
    ∃ command checked bound block first rest,
      Accepted .tagged "UpdateUser" renameAuthors blog command checked bound ∧
      command.kind = .update ∧ command.whereBlock = some block ∧ command.joinItems = first :: rest ∧
      ∃ lowering leading user condition, Lowering.Gives lowering checked bound ∧
        FilterParts lowering first block bound.args leading user ∧
        bound.statement.filter = some condition ∧
        ∀ truth, Condition.holds truth condition = (Condition.earlierHolds truth leading ||
          (Condition.allHold truth leading.lastRun && Condition.holds truth user)) := by
  obtain ⟨command, checked, bound, block, first, rest, accepted, kind, present, items, _⟩ :=
    renameAuthors_accepted
  obtain ⟨lowering, leading, user, condition, gives, parts, filter, holds, _⟩ :=
    joined_filter_holds accepted (.inl kind) present items
  exact ⟨command, checked, bound, block, first, rest, accepted, kind, present, items,
    lowering, leading, user, condition, gives, parts, filter, holds⟩

/-- The condition holds where its tests have the given truth, and that of the where block does not.
`before` are the sources that are collected before those of the where block. -/
def reachesPastWhere (truth : Test → Bool) (before : List ArgSource) (command : Command)
    (checked : CheckedCommand) (bound : BoundStatement) : Bool :=
  match command.whereBlock, command.joinItems, checked.target?, bound.statement.filter with
  | some block, _ :: _, some target, some condition =>
    let user := (Lowering.clausesOf ⟨checked, target⟩ block.entries).run before
    user.2 == bound.args && Condition.holds truth condition && !Condition.holds truth user.1
  | _, _, _, _ => false

theorem parts_of_reachesPastWhere {truth : Test → Bool} {before : List ArgSource}
    (accepted : Accepted naming name fields database command checked bound)
    (reaches : reachesPastWhere truth before command checked bound = true) :
    ∃ block first rest, command.whereBlock = some block ∧ command.joinItems = first :: rest ∧
      ∃ lowering leading user condition, Lowering.Gives lowering checked bound ∧
        FilterParts lowering first block bound.args leading user ∧
        bound.statement.filter = some condition ∧
        Condition.holds truth condition = true ∧ Condition.holds truth user = false := by
  obtain ⟨lowering, gives, _⟩ := accepted.lowering
  unfold reachesPastWhere at reaches
  split at reaches
  · rename_i block first rest target condition present items found filter
    have same : lowering = ⟨checked, target⟩ := by
      have targets := Option.some.inj (gives.target_eq.symm.trans found)
      rw [← gives.checked_eq, ← targets]
    simp only [← same, Bool.and_eq_true, beq_iff_eq, Bool.not_eq_true'] at reaches
    obtain ⟨⟨args, holds⟩, fails⟩ := reaches
    exact ⟨block, first, rest, present, items, lowering, _, _, condition, gives,
      ⟨⟨before, rfl⟩, before, Prod.ext rfl args⟩, filter, holds, fails⟩
  · cases reaches

/-- Users are renamed that have no post of the title: an author of any post is enough. -/
theorem or_of_join_reaches_past_where :
    ∃ command checked bound, Accepted .tagged "UpdateUser" renameAuthors blog command checked bound ∧
      bound.statement.sql = "UPDATE users AS u SET nickname = $1 FROM posts AS p " ++
        "WHERE p.user_id = u.id OR p.title = u.name AND (p.title = $2)" ∧
      ∃ block first rest, command.whereBlock = some block ∧ command.joinItems = first :: rest ∧
        ∃ lowering leading user condition truth, Lowering.Gives lowering checked bound ∧
          FilterParts lowering first block bound.args leading user ∧
          bound.statement.filter = some condition ∧
          Condition.holds truth condition = true ∧ Condition.holds truth user = false := by
  obtain ⟨command, checked, bound, accepted, facts⟩ := accepted_renameAuthors
    (fun (command, checked, bound) =>
      bound.statement.sql == "UPDATE users AS u SET nickname = $1 FROM posts AS p " ++
        "WHERE p.user_id = u.id OR p.title = u.name AND (p.title = $2)" &&
      reachesPastWhere (fun test => test.params.isEmpty) (bound.args.take 1) command
        checked bound)
    (by decide +kernel)
  obtain ⟨sql, reaches⟩ := Bool.and_eq_true_iff.mp facts
  obtain ⟨block, first, rest, present, items, lowering, leading, user, condition, rows⟩ :=
    parts_of_reachesPastWhere accepted reaches
  exact ⟨command, checked, bound, accepted, beq_iff_eq.mp sql, block, first, rest, present, items,
    lowering, leading, user, condition, _, rows⟩

end RecordSql
