import RecordSql.Proofs.Statement.JoinScope

/-!
The kinds of joins. Nothing depends on the kind of a join but the kind of the join in the statement, and
the first join of a write has none there: an outer join in its place is read as an inner one.
-/
namespace RecordSql

def JoinItem.withKind (kind : JoinKind) (item : JoinItem) : JoinItem := { item with kind }

namespace Command

def kindless (command : Command) : Command :=
  { command with join := command.join.map fun block =>
      { block with items := block.items.map (JoinItem.withKind .inner) } }

/-- The joins that are joins of the statement, too: the first one of a write is not. -/
def keptJoins (command : Command) : List JoinItem :=
  if command.kind = .select then command.joinItems else command.joinItems.tail

theorem joinItems_kindless (command : Command) :
    command.kindless.joinItems = command.joinItems.map (JoinItem.withKind .inner) := by
  cases present : command.join <;> simp [joinItems, kindless, present]

end Command

def CheckedCommand.kindless (checked : CheckedCommand) : CheckedCommand :=
  { checked with command := checked.command.kindless }

def Join.kindless (join : Join) : Join := { join with kind := .inner }

def Statement.withJoins (joins : List Join) : Statement → Statement
  | .select body => .select { body with joins }
  | .insert body => .insert body
  | .update body => .update { body with joins }
  | .delete body => .delete { body with joins }

def Statement.kindless (statement : Statement) : Statement :=
  statement.withJoins (statement.joins.map Join.kindless)

def BoundStatement.kindless (bound : BoundStatement) : BoundStatement :=
  { bound with statement := bound.statement.kindless }

def Lowered.kindless : Lowered → Lowered
  | .statement bound => .statement bound.kindless
  | .filter map => .filter map

namespace Command

theorem stepIf_kindless {α β : Type} (command : Command) (step : CheckStep) (block : Option β)
    (absent : α) (act : β → Task CheckError α) :
    command.kindless.stepIf step block absent act = command.stepIf step block absent act := rfl

theorem loadJoins_kindless (command : Command) (database : Database) (target : Relation)
    (start : JoinProgress) :
    (command.stepIf .loadJoins command.kindless.join start fun join =>
      join.items.foldlM (loadJoin database target) start) =
    command.stepIf .loadJoins command.join start fun join =>
      join.items.foldlM (loadJoin database target) start := by
  cases present : command.join with
  | none => simp [kindless, present]
  | some block =>
    simp only [kindless, present, Option.map_some, stepIf, List.foldlM_map]
    rfl

theorem bind_kindless (scope : Scope) (command : Command) :
    scope.bind command.kindless = scope.bind command := rfl

theorem check_kindless (database : Database) (command : Command) :
    command.kindless.check database = CheckedCommand.kindless <$> command.check database := by
  have joins := loadJoins_kindless command database
  simp only [check, stepIf_kindless, joins, bind_kindless, map_bind, map_pure]
  rfl

end Command

namespace Lowering

variable (lowering : Lowering)

def kindless (lowering : Lowering) : Lowering := ⟨lowering.checked.kindless, lowering.target⟩

theorem filter_kindless : lowering.kindless.filter = lowering.filter := rfl

theorem join_kindless (item : JoinItem) :
    lowering.kindless.join (item.withKind .inner) = Join.kindless <$> lowering.join item := rfl

theorem mapM_kindless (items : List JoinItem) :
    (items.map (JoinItem.withKind .inner)).mapM lowering.kindless.join =
      List.map Join.kindless <$> items.mapM lowering.join := by
  induction items with
  | nil => rfl
  | cons item items ih =>
    simp only [List.map_cons, List.mapM_cons, ih, join_kindless, map_bind, map_pure, bind_map_left]

theorem command_kindless : lowering.kindless.command = lowering.command.kindless := rfl

theorem sourceParts_kindless : lowering.kindless.sourceParts =
    (fun (source, joins, filter) => (source, joins.map Join.kindless, filter)) <$>
      lowering.sourceParts := by
  unfold sourceParts
  rw [command_kindless, Command.joinItems_kindless]
  cases lowering.command.joinItems with
  | nil => rfl
  | cons first rest =>
    simp only [List.map_cons, mapM_kindless, filter_kindless, map_bind, map_pure, bind_map_left]
    rfl

theorem select_kindless : Statement.select <$> lowering.kindless.select =
    Statement.kindless <$> Statement.select <$> lowering.select := by
  unfold select
  rw [command_kindless, Command.joinItems_kindless, mapM_kindless]
  simp only [map_bind, map_pure, bind_map_left]
  rfl

theorem insert_kindless (conflict : Option OnConflict) :
    Statement.insert <$> lowering.kindless.insert conflict =
      Statement.kindless <$> Statement.insert <$> lowering.insert conflict := rfl

theorem update_kindless : Statement.update <$> lowering.kindless.update =
    Statement.kindless <$> Statement.update <$> lowering.update := by
  simp only [update, sourceParts_kindless, map_bind, map_pure, bind_map_left]
  rfl

theorem delete_kindless : Statement.delete <$> lowering.kindless.delete =
    Statement.kindless <$> Statement.delete <$> lowering.delete := by
  simp only [delete, sourceParts_kindless, map_bind, map_pure, bind_map_left]
  rfl

theorem bound_kindless (build : Binding Statement) :
    lowering.kindless.bound (Statement.kindless <$> build) = (lowering.bound build).kindless := rfl

end Lowering

theorem CheckedCommand.lower_kindless (checked : CheckedCommand) :
    checked.kindless.lower = Lowered.kindless <$> checked.lower := by
  unfold lower
  have sameTarget : checked.kindless.target? = checked.target? := rfl
  rw [sameTarget]
  cases checked.target? with
  | none => rfl
  | some target =>
    let lowering : Lowering := ⟨checked, target⟩
    have sameKind : checked.kindless.command.kind = checked.command.kind := rfl
    dsimp only
    rw [sameKind]
    cases checked.command.kind with
    | insert =>
      change (lowering.conflictOf >>= fun conflict =>
        Except.ok (lowering.kindless.bound (Statement.insert <$> lowering.kindless.insert conflict))) = _
      simp only [lowering.insert_kindless, lowering.bound_kindless, map_bind]
      rfl
    | update =>
      change (if checked.writes.isEmpty then _ else
        Except.ok (lowering.kindless.bound (Statement.update <$> lowering.kindless.update))) = _
      rw [lowering.update_kindless, lowering.bound_kindless]
      split <;> rfl
    | select =>
      change (if checked.outputs.isEmpty then _ else
        Except.ok (lowering.kindless.bound (Statement.select <$> lowering.kindless.select))) = _
      rw [lowering.select_kindless, lowering.bound_kindless]
      split <;> rfl
    | delete =>
      change Except.ok (lowering.kindless.bound (Statement.delete <$> lowering.kindless.delete)) = _
      rw [lowering.delete_kindless, lowering.bound_kindless]
      rfl
    | filter => rfl

theorem Join.eq_of_kindless {one other : Join} (same : one.kindless = other.kindless)
    (kind : one.kind = other.kind) : one = other := by
  cases one
  cases other
  simp_all [Join.kindless]

theorem Join.eq_of_map_kindless {joins others : List Join}
    (same : joins.map Join.kindless = others.map Join.kindless)
    (kinds : joins.map Join.kind = others.map Join.kind) : joins = others := by
  induction joins generalizing others with
  | nil => simpa using same.symm
  | cons join joins ih =>
    cases others with
    | nil => cases same
    | cons other others =>
      have ⟨now, later⟩ := List.cons.inj same
      have ⟨kind, rest⟩ := List.cons.inj kinds
      rw [Join.eq_of_kindless now kind, ih later rest]

namespace Statement

theorem withJoins_joins (statement : Statement) : statement.withJoins statement.joins = statement := by
  cases statement <;> rfl

theorem withJoins_withJoins (statement : Statement) (joins others : List Join) :
    (statement.withJoins joins).withJoins others = statement.withJoins others := by
  cases statement <;> rfl

theorem joins_kindless (statement : Statement) :
    statement.kindless.joins = statement.joins.map Join.kindless := by
  cases statement <;> rfl

theorem eq_of_kindless {one other : Statement} (same : one.kindless = other.kindless)
    (kinds : one.joins.map Join.kind = other.joins.map Join.kind) : one = other := by
  have joins : one.joins = other.joins := by
    refine Join.eq_of_map_kindless ?_ kinds
    rw [← joins_kindless, ← joins_kindless, same]
  calc one = one.kindless.withJoins one.joins := by
        rw [kindless, withJoins_withJoins, withJoins_joins]
    _ = other.kindless.withJoins other.joins := by rw [same, joins]
    _ = other := by rw [kindless, withJoins_withJoins, withJoins_joins]

end Statement

/-- The commands are the same but for the kinds of their joins. -/
def Command.SameButKinds (one other : Command) : Prop := one.kindless = other.kindless

namespace Accepted

variable {naming naming' : ColumnNaming} {name name' : String} {fields fields' : List HostField}
  {database : Database} {command other : Command} {checked checked' : CheckedCommand}
  {bound bound' : BoundStatement}

/-- The joins of the statement have the kinds of those joins of the command that it keeps. -/
theorem kinds_of_joins (accepted : Accepted naming name fields database command checked bound) :
    bound.statement.joins.map Join.kind = command.keptJoins.map JoinItem.kind := by
  obtain ⟨lowering, gives, same⟩ := accepted.lowering
  obtain ⟨build, builds, ran⟩ := gives.builds
  have statement : bound.statement = (build.run []).1 := by rw [ran]
  have kinds (items : List JoinItem) (before : List ArgSource) :
      ((items.mapM lowering.join).run before).1.map Join.kind = items.map JoinItem.kind :=
    Binding.map_mapM (fun _ _ _ => rfl) before
  rw [statement, Command.keptJoins]
  cases builds with
  | select kind =>
    rw [same] at kind
    rw [if_pos kind, ← same]
    exact kinds _ _
  | insert kind =>
    rw [same] at kind
    rw [accepted.joinItems_of_insert kind]
    split <;> rfl
  | update kind =>
    obtain ⟨start, joins⟩ := Lowering.joins_of_builds (.update kind) rfl
    rw [same] at kind
    rw [if_neg (by simp [kind]), joins, same]
    exact kinds _ start
  | delete kind =>
    obtain ⟨start, joins⟩ := Lowering.joins_of_builds (.delete kind) rfl
    rw [same] at kind
    rw [if_neg (by simp [kind]), joins, same]
    exact kinds _ start

end Accepted

namespace AcceptedAfter

variable {before : Transcript} {naming naming' : ColumnNaming} {name name' : String}
  {fields fields' : List HostField} {database : Database} {command other : Command}
  {checked checked' : CheckedCommand} {bound bound' : BoundStatement}

theorem outcome_kindless
    (accepted : AcceptedAfter before naming name fields database command checked bound) :
    ((command.kindless.check database).outcome before).1 = .ok checked.kindless := by
  rw [Command.check_kindless, Task.outcome_map, accepted.ran]
  rfl

theorem kindless_eq (one : AcceptedAfter before naming name fields database command checked bound)
    (two : AcceptedAfter before naming' name' fields' database other checked' bound')
    (same : command.SameButKinds other) : bound.statement.kindless = bound'.statement.kindless := by
  have sameChecked : checked.kindless = checked'.kindless := by
    have outcomes := one.outcome_kindless
    rw [same, two.outcome_kindless] at outcomes
    exact (Except.ok.inj outcomes).symm
  have lowered : Lowered.kindless <$> checked.lower = Lowered.kindless <$> checked'.lower := by
    rw [← checked.lower_kindless, ← checked'.lower_kindless, sameChecked]
  rw [one.lower, two.lower] at lowered
  have bounds : bound.kindless = bound'.kindless := Lowered.statement.inj (Except.ok.inj lowered)
  exact congrArg BoundStatement.statement bounds

end AcceptedAfter

/-- Two commands that differ in the kinds of their joins alone have the same statement just where the
kinds are the same in all joins but the first one of a write. -/
theorem join_kinds_kept {before : Transcript} {naming naming' : ColumnNaming} {name name' : String}
    {fields fields' : List HostField} {database : Database} {command other : Command}
    {checked checked' : CheckedCommand} {bound bound' : BoundStatement}
    (one : AcceptedAfter before naming name fields database command checked bound)
    (two : AcceptedAfter before naming' name' fields' database other checked' bound')
    (same : command.SameButKinds other) :
    bound.statement = bound'.statement ↔
      command.keptJoins.map JoinItem.kind = other.keptJoins.map JoinItem.kind := by
  rw [← one.kinds_of_joins, ← two.kinds_of_joins]
  constructor
  · intro statements
    rw [statements]
  · exact Statement.eq_of_kindless (one.kindless_eq two same)

def deleteByPosts (first second : Directive) : List HostField :=
  [taggedField "User" "rel" "users:u" (recordOf []),
   { name := "Using"
     type := recordOf [taggedField "_" "sql" "posts:p, p.user_id = u.id" first.hostType,
       taggedField "_" "sql" "posts:q, q.user_id = p.user_id" second.hostType] },
   { name := "_", type := Directive.all.hostType }]

def Command.deletesByPosts (first second : JoinKind) : Command → Bool
  | ⟨name, .delete, ⟨field, none, shape, relation, []⟩,
      some ⟨block, [⟨kind, joined, [⟨.and, ⟨left, .compare .eq none (.column right)⟩⟩]⟩,
        ⟨kind', joined', [⟨.and, ⟨left', .compare .eq none (.column right')⟩⟩]⟩]⟩,
      none, none, none, none, none, none, none, none, none, none, none, none, true⟩ =>
    name == "DeleteUser" && field == "User" && shape == {} && relation == ⟨none, "users", some "u"⟩ &&
      block == "Using" && kind == first && joined == ⟨none, "posts", some "p"⟩ &&
      left == ⟨⟨some "p", "user_id"⟩, none⟩ && right == ⟨some "u", "id"⟩ &&
      kind' == second && joined' == ⟨none, "posts", some "q"⟩ &&
      left' == ⟨⟨some "q", "user_id"⟩, none⟩ && right' == ⟨some "p", "user_id"⟩
  | _ => false

theorem Command.deletesByPosts_sound {first second first' second' : JoinKind}
    {command other : Command} (one : command.deletesByPosts first second = true)
    (two : other.deletesByPosts first' second' = true) :
    command.SameButKinds other ∧ command.kind = .delete ∧ other.kind = .delete ∧
      command.joinItems.map JoinItem.kind = [first, second] ∧
      other.joinItems.map JoinItem.kind = [first', second'] := by
  unfold deletesByPosts at one two
  split at one
  · split at two
    · simp only [Bool.and_eq_true, beq_iff_eq] at one two
      simp_all [SameButKinds, kindless, joinItems, JoinItem.withKind]
    · cases two
  · cases one

theorem exists_innerJoins : ∃ command checked bound,
    AcceptedAfter {} .tagged "DeleteUser" (deleteByPosts .join .join) blog command checked bound ∧
      command.deletesByPosts .inner .inner = true :=
  exists_acceptedAfter (fun (command, _, _) => command.deletesByPosts .inner .inner) (by decide +kernel)

theorem join_kinds_kept_deleteByPosts :
    ∃ command other checked checked' bound bound',
      AcceptedAfter {} .tagged "DeleteUser" (deleteByPosts .join .join) blog command checked bound ∧
      AcceptedAfter {} .tagged "DeleteUser" (deleteByPosts .join .leftJoin) blog other checked' bound' ∧
      command.SameButKinds other ∧ bound.statement ≠ bound'.statement := by
  obtain ⟨command, checked, bound, one, declared⟩ := exists_innerJoins
  obtain ⟨other, checked', bound', two, declared'⟩ := exists_acceptedAfter
    (fun (command, _, _) => command.deletesByPosts .inner .left)
    (show (accepted? .tagged "DeleteUser" (deleteByPosts .join .leftJoin) blog).any _ = true by
      decide +kernel)
  have ⟨same, kind, kind', kinds, kinds'⟩ := Command.deletesByPosts_sound declared declared'
  refine ⟨command, other, checked, checked', bound, bound', one, two, same, ?_⟩
  intro statements
  have kept := (join_kinds_kept one two same).mp statements
  simp only [Command.keptJoins, kind, kind', List.map_tail, kinds, kinds', reduceCtorEq,
    if_false, List.tail_cons] at kept
  cases kept

/-- A first join that keeps all users is lowered as the one that does not. -/
theorem outer_join_lowered_as_inner :
    ∃ command other checked checked' bound bound',
      AcceptedAfter {} .tagged "DeleteUser" (deleteByPosts .join .join) blog command checked bound ∧
      AcceptedAfter {} .tagged "DeleteUser" (deleteByPosts .leftJoin .join) blog other checked' bound' ∧
      command.SameButKinds other ∧
      command.joinItems.map JoinItem.kind = [.inner, .inner] ∧
      other.joinItems.map JoinItem.kind = [.left, .inner] ∧
      bound.statement = bound'.statement := by
  obtain ⟨command, checked, bound, one, declared⟩ := exists_innerJoins
  obtain ⟨other, checked', bound', two, declared'⟩ := exists_acceptedAfter
    (fun (command, _, _) => command.deletesByPosts .left .inner)
    (show (accepted? .tagged "DeleteUser" (deleteByPosts .leftJoin .join) blog).any _ = true by
      decide +kernel)
  have ⟨same, kind, kind', kinds, kinds'⟩ := Command.deletesByPosts_sound declared declared'
  refine ⟨command, other, checked, checked', bound, bound', one, two, same, kinds, kinds', ?_⟩
  apply Statement.eq_of_kindless (one.kindless_eq two same)
  rw [one.kinds_of_joins, two.kinds_of_joins]
  simp only [Command.keptJoins, kind, kind', List.map_tail, kinds, kinds', reduceCtorEq,
    if_false, List.tail_cons]

end RecordSql
