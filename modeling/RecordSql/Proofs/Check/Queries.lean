import RecordSql.Proofs.Check.Mentions
import RecordSql.Proofs.Statement.Lowering

namespace RecordSql

def Transcript.account (transcript : Transcript) (known : LiteralTypes) : Account :=
  ⟨known.map Prod.fst, transcript.queries⟩

namespace Task

variable {ε α β : Type}

def Quiet (task : Task ε α) : Prop :=
  ∀ before, (task.outcome before).2.queries = before.queries

namespace Quiet

theorem pure (value : α) : Quiet (Pure.pure value : Task ε α) := fun _ => rfl

theorem ofExcept (result : Except ε α) : (Task.ofExcept result).Quiet := fun _ => rfl

theorem tell (event : TraceEvent) : (Task.tell event : Task ε Unit).Quiet := fun _ => rfl

theorem bind {task : Task ε α} {next : α → Task ε β} (first : task.Quiet)
    (later : ∀ value, (next value).Quiet) : (task >>= next).Quiet := by
  intro before
  rw [outcome_bind]
  have same := first before
  generalize task.outcome before = outcome at same ⊢
  obtain ⟨failure | value, between⟩ := outcome
  · exact same
  · exact (later value between).trans same

theorem stepIf {command : Command} {step : CheckStep} {block : Option β} {absent : α}
    {act : β → Task CheckError α} (acts : ∀ present, (act present).Quiet) :
    (command.stepIf step block absent act).Quiet := by
  cases block with
  | none => exact .pure absent
  | some present => exact (tell _).bind fun _ => acts present

theorem tested {command : Command} {step : CheckStep} {block : Option β} {absent : α}
    {test : β → Except CheckError α} :
    (command.stepIf step block absent fun present => Task.ofExcept (test present)).Quiet :=
  .stepIf fun present => .ofExcept (test present)

theorem queries_eq {task : Task ε α} (quiet : task.Quiet) {before after : Transcript} {result : Except ε α}
    (ran : task.outcome before = (result, after)) : after.queries = before.queries := by
  rw [← quiet before, ran]

end Quiet

/-- A task that returns has met the mentions. The literals that are known then are read off its value. -/
def Meets (task : Task ε α) (known : LiteralTypes) (mentions : List Mention)
    (read : α → LiteralTypes) : Prop :=
  ∀ before value after, task.outcome before = (.ok value, after) →
    after.account (read value) = (before.account known).meetAll mentions

namespace Meets

variable {known : LiteralTypes} {mentions more : List Mention} {read : α → LiteralTypes}
  {readNext : β → LiteralTypes}

theorem pure {value : α} (same : read value = known) :
    Meets (Pure.pure value : Task ε α) known [] read := by
  rintro before _ _ ⟨⟩
  rw [same]
  rfl

theorem bind {task : Task ε α} {next : α → Task ε β} (first : task.Meets known mentions read)
    (later : ∀ value, (next value).Meets (read value) more readNext) :
    (task >>= next).Meets known (mentions ++ more) readNext := by
  intro before value after ran
  obtain ⟨middle, between, now, next⟩ := outcome_bind_ok.mp ran
  rw [Account.meetAll_append, ← first _ _ _ now, later middle _ _ _ next]

theorem after_quiet {task : Task ε α} {next : α → Task ε β} (first : task.Quiet)
    (later : ∀ value, (next value).Meets known mentions readNext) :
    (task >>= next).Meets known mentions readNext := by
  intro before value after ran
  obtain ⟨middle, between, now, next⟩ := outcome_bind_ok.mp ran
  rw [later middle _ _ _ next, Transcript.account, first.queries_eq now, Transcript.account]

theorem require {condition : Prop} [Decidable condition] {failure : ε} {next : α → Task ε β}
    {rest : Task ε β} (meets : rest.Meets known mentions readNext) :
    Meets (if condition then rest else (MonadExcept.throw failure : Task ε α) >>= next)
      known mentions readNext := by
  split
  · exact meets
  · rintro before value after ⟨⟩

theorem account_eq {task : Task ε α} (meets : task.Meets known mentions read)
    {before after : Transcript} {value : α} (ran : task.outcome before = (.ok value, after)) :
    after.account (read value) = (before.account known).meetAll mentions :=
  meets before value after ran

theorem foldlM {step : LiteralTypes → α → Task ε LiteralTypes} {mentioned : α → List Mention}
    (each : ∀ known item, (step known item).Meets known (mentioned item) id)
    (items : List α) (known : LiteralTypes) :
    (items.foldlM step known).Meets known (items.flatMap mentioned) id := by
  induction items generalizing known with
  | nil => exact pure rfl
  | cons item items ih =>
    rw [List.foldlM_cons, List.flatMap_cons]
    exact (each known item).bind ih

end Meets

end Task

theorem Catalog.literalType_after (server : Server) (text : String) (before : Transcript) :
    ((literalType server text).outcome before).2 = before.asking [literalTypeQuery text] := by
  rw [literalType, askFirst, Task.outcome_bind, ask_outcome]
  rcases server.answer before.queries (literalTypeQuery text) with _ | _ | _ <;> rfl

namespace Scope

variable {server : Server} (scope : Scope) (known : LiteralTypes)

theorem meets_literalType (text : String) :
    (literalType server known text).Meets known [.literal text] Prod.snd := by
  unfold literalType
  intro before value after ran
  change after.account value.2 = (before.account known).meet (.literal text)
  cases found : known.lookup text with
  | some oid =>
    have member : text ∈ known.map Prod.fst := by
      obtain ⟨earlier, later, rfl, _⟩ := List.lookup_eq_some_iff.mp found
      simp
    rw [found] at ran
    cases ran
    exact (if_pos member).symm
  | none =>
    have fresh : text ∉ known.map Prod.fst := by
      intro member
      obtain ⟨entry, listed, rfl⟩ := List.mem_map.mp member
      simpa using List.lookup_eq_none_iff.mp found entry listed
    rw [found] at ran
    obtain ⟨oid, between, probed, returned⟩ := Task.outcome_bind_ok.mp ran
    cases returned
    have asked : after = before.asking [Catalog.literalTypeQuery text] :=
      (congrArg Prod.snd probed).symm.trans (Catalog.literalType_after server text before)
    subst asked
    rw [Transcript.account, List.map_append]
    exact (if_neg fresh).symm

theorem meets_operandType (operand : Operand) :
    (operandType server scope known operand).Meets known (operand.literals.map .literal) Prod.snd := by
  cases operand with
  | column ref => exact .after_quiet (.ofExcept _) fun _ => .pure rfl
  | literal text => exact meets_literalType known text
  | field field => exact .pure rfl

theorem meets_checkColumnTest (column : Column) (test : ColumnTest) :
    (checkColumnTest server scope known column test).Meets known (test.literals.map .literal) id := by
  obtain ⟨left, condition⟩ := test
  refine .after_quiet (.ofExcept _) fun type => ?_
  cases condition with
  | test op => exact .after_quiet (.ofExcept _) fun _ => .pure rfl
  | compare op quantifier right =>
    rw [← List.append_nil (List.map _ _)]
    exact (meets_operandType scope known right).bind fun _ =>
      .after_quiet (.ofExcept _) fun _ => .pure rfl

theorem meets_checkBound (test : BetweenTest) (column : Column) (bound : Operand) :
    (checkBound server scope test column known bound).Meets known (bound.literals.map .literal) id := by
  rw [← List.append_nil (List.map _ _)]
  cases bound with
  | field field => exact .after_quiet (.ofExcept _) fun _ => .pure rfl
  | column ref => exact (meets_operandType scope known (.column ref)).bind fun _ => .require (.pure rfl)
  | literal text => exact (meets_operandType scope known (.literal text)).bind fun _ => .require (.pure rfl)

theorem meets_checkBetween (test : BetweenTest) :
    (checkBetween server scope known test).Meets known
      ((test.low.literals ++ test.high.literals).map .literal) id := by
  rw [List.map_append]
  exact .after_quiet (.ofExcept _) fun _ =>
    (meets_checkBound scope known test _ test.low).bind fun _ => meets_checkBound scope _ test _ test.high

theorem meets_checkLeaf (leaf : Leaf) :
    (checkLeaf server scope known leaf).Meets known (leaf.literals.map .literal) id := by
  cases leaf with
  | field test => exact .after_quiet (.ofExcept _) fun _ => .pure rfl
  | column test => exact .after_quiet (.ofExcept _) fun _ => meets_checkColumnTest scope known _ test
  | between test => exact meets_checkBetween scope known test

theorem meets_checkEvent (command : String) (event : WalkEvent) :
    (checkEvent server scope command known event).Meets known
      (event.leaves.flatMap fun leaf => leaf.literals.map .literal) id := by
  cases event with
  | groupEnd => exact .pure rfl
  | entry entry depth =>
    refine .after_quiet (.tell _) fun _ => ?_
    cases entry with
    | leaf _ leaf =>
      rw [WalkEvent.leaves, List.flatMap_singleton]
      exact meets_checkLeaf scope known leaf
    | group => exact .pure rfl

theorem meets_checkEntries (command : String) (entries : List Entry) :
    (checkEntries server scope command known entries).Meets known
      ((Entry.leavesOf entries).flatMap fun leaf => leaf.literals.map .literal) id := by
  unfold checkEntries
  rw [walkEvents_eq_preorder, ← leaves_preorder 0 true entries, List.flatMap_assoc]
  exact .foldlM (fun known event => meets_checkEvent scope known command event) _ known

end Scope

theorem RelationSet.load_queries {database : Database} {set later : RelationSet} {ref : RelationRef}
    {relation : Relation} {before after : Transcript} (free : set.registered? ref.key = none)
    (ran : (set.load database ref).outcome before = (.ok (relation, later), after)) :
    later = set.push relation ∧ after.queries = before.queries ++ relation.queries := by
  unfold load at ran
  rw [free] at ran
  obtain ⟨found, between, read, told⟩ := Task.outcome_bind_ok.mp ran
  obtain ⟨facts, rfl⟩ := Relation.load_eq_ok.mp read
  cases told
  refine ⟨rfl, ?_⟩
  rw [Relation.queries, facts.name_eq, facts.space_eq]
  rfl

def JoinItem.mentions (item : JoinItem) (joined : Relation) : List Mention :=
  .relation joined :: item.literals.map .literal

namespace Command

/-- What join items mention, if the relations are those that were found for them. -/
def joinMentions (items : List JoinItem) (joined : List Relation) : List Mention :=
  (items.zip joined).flatMap fun (item, relation) => item.mentions relation

theorem joinMentions_cons (item : JoinItem) (items : List JoinItem) (first : Relation)
    (joined : List Relation) : joinMentions (item :: items) (first :: joined) =
      item.mentions first ++ joinMentions items joined :=
  rfl

def whereMentions (command : Command) : List Mention :=
  (command.whereLeaves.flatMap Leaf.literals).map .literal

def mentions (command : Command) (target : Relation) (joined : List Relation) : List Mention :=
  [.relation target] ++ joinMentions command.joinItems joined ++ command.whereMentions

variable {database : Database} {command : Command} {target : Relation} {before after : Transcript}

theorem meets_checkJoinCondition (server : Server) (scope : Scope) (joined : Relation)
    (known : LiteralTypes) (condition : JoinCondition) :
    (checkJoinCondition server scope joined known condition).Meets known
      (condition.test.literals.map .literal) id :=
  .after_quiet (.ofExcept _) fun _ => Scope.meets_checkColumnTest scope known _ condition.test

theorem loadJoin_asks {progress later : JoinProgress} {item : JoinItem}
    (ran : (loadJoin database target progress item).outcome before = (.ok later, after)) :
    ∃ joined, later.relations = progress.relations.push joined ∧
      after.account later.known = (before.account progress.known).meetAll (item.mentions joined) := by
  unfold loadJoin at ran
  obtain ⟨untaken, ran⟩ := Task.outcome_guard_ok.mp ran
  obtain ⟨⟨joined, relations⟩, between, loaded, ran⟩ := Task.outcome_bind_ok.mp ran
  obtain ⟨known, last, checked, returned⟩ := Task.outcome_bind_ok.mp ran
  cases returned
  obtain ⟨rfl, read⟩ := RelationSet.load_queries (by simpa using untaken) loaded
  have met := Task.Meets.foldlM (meets_checkJoinCondition database.server _ joined) _ _ _ _ _ checked
  refine ⟨joined, rfl, met.trans ?_⟩
  rw [Transcript.account, read, JoinItem.mentions, JoinItem.literals, List.map_flatMap]
  rfl

theorem loadJoins_ask {progress later : JoinProgress} {items : List JoinItem}
    (ran : (items.foldlM (loadJoin database target) progress).outcome before = (.ok later, after)) :
    ∃ joined, later.relations = ⟨progress.relations.relations ++ joined⟩ ∧
      after.account later.known = (before.account progress.known).meetAll (joinMentions items joined) := by
  induction items generalizing progress before with
  | nil =>
    cases ran
    exact ⟨[], by simp, rfl⟩
  | cons item items ih =>
    rw [List.foldlM_cons] at ran
    obtain ⟨middle, between, now, next⟩ := Task.outcome_bind_ok.mp ran
    obtain ⟨first, pushed, asked⟩ := loadJoin_asks now
    obtain ⟨joined, final, askedLater⟩ := ih next
    refine ⟨first :: joined, ?_, ?_⟩
    · rw [final, pushed]
      simp [RelationSet.push]
    · rw [askedLater, asked, ← Account.meetAll_append, joinMentions_cons]

theorem meets_checkWhere (scope : Scope) (known : LiteralTypes) :
    (command.stepIf .checkWhere command.whereBlock known fun block =>
      scope.checkEntries database.server command.name known block.entries).Meets known
        command.whereMentions id := by
  unfold stepIf whereMentions whereLeaves whereEntries
  rw [List.map_flatMap]
  cases command.whereBlock with
  | none => exact .pure rfl
  | some block =>
    exact .after_quiet (.tell _) fun _ => Scope.meets_checkEntries scope known command.name block.entries

theorem joins_ask {relations : RelationSet} {later : JoinProgress}
    (ran : (command.stepIf .loadJoins command.join { relations } fun join =>
      join.items.foldlM (loadJoin database target) { relations }).outcome before = (.ok later, after)) :
    ∃ joined, later.relations = ⟨relations.relations ++ joined⟩ ∧
      after.account later.known = (before.account []).meetAll (joinMentions command.joinItems joined) := by
  unfold stepIf at ran
  unfold joinItems
  cases present : command.join with
  | none =>
    rw [present] at ran
    cases ran
    exact ⟨[], by simp, rfl⟩
  | some join =>
    rw [present] at ran
    obtain ⟨_, between, told, ran⟩ := Task.outcome_bind_ok.mp ran
    cases told
    exact loadJoins_ask ran

theorem check_asks {checked : CheckedCommand}
    (ran : (command.check database).outcome before = (.ok checked, after)) :
    ∃ target joined, checked.relations = ⟨target :: joined⟩ ∧
      after.queries =
        ((before.account []).meetAll (command.mentions target joined)).queries := by
  unfold check at ran
  obtain ⟨_, started, told, ran⟩ := Task.outcome_bind_ok.mp ran
  obtain ⟨⟨target, first⟩, targetRead, targetLoaded, ran⟩ := Task.outcome_bind_ok.mp ran
  obtain ⟨progress, joinsRead, joinsLoaded, ran⟩ := Task.outcome_bind_ok.mp ran
  obtain ⟨_, conflictDone, conflictChecked, ran⟩ := Task.outcome_bind_ok.mp ran
  obtain ⟨known, whereDone, whereChecked, ran⟩ := Task.outcome_bind_ok.mp ran
  obtain ⟨_, orderDone, orderChecked, ran⟩ := Task.outcome_bind_ok.mp ran
  obtain ⟨_, defaultsDone, defaultsChecked, ran⟩ := Task.outcome_bind_ok.mp ran
  obtain ⟨_, forceDone, forceChecked, ran⟩ := Task.outcome_bind_ok.mp ran
  obtain ⟨returned, returningDone, returningChecked, ran⟩ := Task.outcome_bind_ok.mp ran
  obtain ⟨_, searchDone, searchChecked, ran⟩ := Task.outcome_bind_ok.mp ran
  obtain ⟨_, bindingsTold, toldBindings, ran⟩ := Task.outcome_bind_ok.mp ran
  obtain ⟨bindings, bound, bindingsFound, ran⟩ := Task.outcome_bind_ok.mp ran
  cases ran
  obtain ⟨rfl, read⟩ := RelationSet.load_queries (RelationSet.registered?_empty _) targetLoaded
  obtain ⟨joined, relations, joinsMet⟩ := joins_ask joinsLoaded
  -- what stands after the where block asks nothing
  have quiet : after.queries = whereDone.queries := by
    rw [(Task.Quiet.ofExcept _).queries_eq bindingsFound, (Task.Quiet.tell _).queries_eq toldBindings,
      Task.Quiet.tested.queries_eq searchChecked, Task.Quiet.tested.queries_eq returningChecked,
      Task.Quiet.tested.queries_eq forceChecked, Task.Quiet.tested.queries_eq defaultsChecked,
      Task.Quiet.tested.queries_eq orderChecked]
  rw [(Task.Quiet.tell _).queries_eq told] at read
  have met : whereDone.account known = (before.account []).meetAll (command.mentions target joined) := by
    calc whereDone.account known
      _ = (conflictDone.account progress.known).meetAll command.whereMentions :=
        (meets_checkWhere _ _).account_eq whereChecked
      _ = (joinsRead.account progress.known).meetAll command.whereMentions := by
        rw [Transcript.account, Task.Quiet.tested.queries_eq conflictChecked, Transcript.account]
      _ = (((before.account []).meet (.relation target)).meetAll
            (joinMentions command.joinItems joined)).meetAll command.whereMentions := by
        rw [joinsMet, Transcript.account, read]
        rfl
      _ = (before.account []).meetAll (command.mentions target joined) := by
        rw [mentions, Account.meetAll_append, Account.meetAll_append]
        rfl
  exact ⟨target, joined, relations, quiet.trans (congrArg Account.queries met)⟩

section Mentions

variable {R : JoinItem → Relation → Prop} {items : List JoinItem} {joined : List Relation}

theorem relations_joinMentions (related : List.Forall₂ R items joined) :
    Mention.relations (joinMentions items joined) = joined := by
  induction related with
  | nil => rfl
  | cons _ _ ih =>
    rw [joinMentions_cons, Mention.relations_append, ih]
    simp [JoinItem.mentions]

theorem literals_joinMentions (related : List.Forall₂ R items joined) :
    Mention.literals (joinMentions items joined) = items.flatMap JoinItem.literals := by
  induction related with
  | nil => rfl
  | cons _ _ ih =>
    rw [joinMentions_cons, Mention.literals_append, ih, List.flatMap_cons]
    simp [JoinItem.mentions]

theorem relations_mentions (related : List.Forall₂ R command.joinItems joined) :
    Mention.relations (command.mentions target joined) = target :: joined := by
  simp [mentions, whereMentions, relations_joinMentions related]

theorem literals_mentions (related : List.Forall₂ R command.joinItems joined) :
    Mention.literals (command.mentions target joined) = command.literals := by
  simp [mentions, whereMentions, literals, literals_joinMentions related]

end Mentions

end Command

/-- A check that succeeds has read the target and then each joined relation, by four queries each, and has
probed each distinct literal once, right where it came first; it has asked nothing else. -/
theorem check_asks_once {database : Database} {command : Command} {checked : CheckedCommand}
    {before after : Transcript}
    (ran : (command.check database).outcome before = (.ok checked, after)) :
    ∃ target joined asked, checked.relations = ⟨target :: joined⟩ ∧
      command.record.relation.Names database.space target ∧
      List.Forall₂ (fun item relation => item.relation.Names database.space relation)
        command.joinItems joined ∧
      after.queries = before.queries ++ asked ∧
      asked = (command.mentions target joined).eraseDups.flatMap Mention.queries ∧
      ((target :: joined).flatMap Relation.queries).Sublist asked ∧
      asked.Perm ((target :: joined).flatMap Relation.queries ++
        command.literals.eraseDups.map Catalog.literalTypeQuery) ∧
      ∀ text, asked.count (Catalog.literalTypeQuery text) = if text ∈ command.literals then 1 else 0 := by
  obtain ⟨target, joined, relations, queries⟩ := Command.check_asks ran
  obtain ⟨scope, first, known, fits⟩ := Command.fits_of_check ⟨before, congrArg Prod.fst ran⟩
  have named := fits.relations_named
  have distinct := fits.nodup_keys
  rw [relations] at named distinct
  obtain ⟨targetNamed, joinedNamed⟩ := List.forall₂_cons.mp named
  rw [List.forall₂_map_left_iff] at joinedNamed
  have read : Mention.relations (command.mentions target joined) = target :: joined :=
    Command.relations_mentions joinedNamed
  have probed : Mention.literals (command.mentions target joined) = command.literals :=
    Command.literals_mentions joinedNamed
  have apart : (target :: joined).Nodup := .of_map _ distinct
  rw [Transcript.account, List.map_nil, Account.meetAll_eq _ _ (read ▸ apart)] at queries
  have sublist := Mention.relation_queries_sublist (command.mentions target joined).eraseDups
  have perm := Mention.queries_perm (command.mentions target joined).eraseDups
  rw [Mention.relations_eraseDups, read, eraseDups_of_nodup apart] at sublist perm
  rw [Mention.literals_eraseDups, probed] at perm
  refine ⟨target, joined, _, relations, targetNamed, joinedNamed, queries, rfl, sublist, perm, ?_⟩
  intro text
  have elsewhere : Catalog.literalTypeQuery text ∉ (target :: joined).flatMap Relation.queries := by
    rw [List.mem_flatMap]
    rintro ⟨relation, _, member⟩
    exact relation.literalTypeQuery_notMem_queries text member
  rw [perm.count_eq, List.count_append, List.count_eq_zero_of_not_mem elsewhere, Nat.zero_add,
    List.count_map_of_injective _ _ Catalog.literalTypeQuery_injective, (nodup_eraseDups _).count]
  simp only [List.mem_eraseDups]

def usersByScore : List HostField :=
  [taggedField "Users" "rel" "users:u"
     (HostType.seq (recordOf [taggedField "Id" "sql" "u.id" (HostType.scalar .i32)])),
   { name := "Join"
     type := recordOf [taggedField "_" "sql" "posts:p, p.user_id = u.id, p.id > 10"
       Directive.join.hostType] },
   { name := "Where"
     type := recordOf [taggedField "_" "sql" "score <> 10" Directive.column.hostType,
       taggedField "Score" "sql" "score isbetween"
         (recordOf [taggedField "_" "sql" "10, x" Directive.column.hostType,
           taggedField "_" "sql" "20, y" Directive.column.hostType])] }]

theorem check_asks_once_usersByScore : ∃ command checked after,
    Command.read .tagged "SelectUsers" usersByScore = .ok command ∧
      (command.check blog).outcome {} = (.ok checked, after) ∧
      command.literals = ["10", "10", "10", "20"] ∧ after.queries.length = 10 ∧
      after.queries.count (Catalog.literalTypeQuery "10") = 1 ∧
      after.queries.count (Catalog.literalTypeQuery "30") = 0 := by
  obtain ⟨command, read, facts⟩ := exists_read
    (fun command => command.literals == ["10", "10", "10", "20"] &&
      failure? ((command.check blog).outcome {}).1 == none &&
      ((command.check blog).outcome {}).2.queries.length == 10)
    (show (Command.read .tagged "SelectUsers" usersByScore).toOption.any _ = true by decide +kernel)
  simp only [Bool.and_eq_true, beq_iff_eq] at facts
  obtain ⟨⟨literals, accepted⟩, ten⟩ := facts
  obtain ⟨checked, returned⟩ := failure?_eq_none.mp accepted
  have ran : (command.check blog).outcome {} = (.ok checked, ((command.check blog).outcome {}).2) :=
    Prod.ext returned rfl
  obtain ⟨_, _, asked, _, _, _, queries, _, _, _, counted⟩ := check_asks_once ran
  refine ⟨command, checked, _, read, ran, literals, ten, ?_, ?_⟩ <;>
    rw [queries, List.nil_append, counted, literals] <;> rfl

end RecordSql
