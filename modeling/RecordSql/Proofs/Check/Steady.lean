import RecordSql.Check.Command
import RecordSql.Memory.Database
import RecordSql.Proofs.Outcome

/-!
Checks against a server whose answers depend on the query alone. They come to the same whatever has been
asked before.
-/
namespace RecordSql

/-- The server answers a query the same whatever it has been asked before. -/
def Server.Memoryless (server : Server) : Prop :=
  ∀ asked others query, server.answer asked query = server.answer others query

theorem MemoryDatabase.server_memoryless (database : MemoryDatabase) : database.server.Memoryless :=
  fun _ _ _ => rfl

namespace Task

variable {ε ε' α β : Type}

/-- The task comes to the same whatever has been asked and told before. -/
def Steady (task : Task ε α) : Prop :=
  ∀ before other, (task.outcome before).1 = (task.outcome other).1

namespace Steady

theorem pure (value : α) : Steady (Pure.pure value : Task ε α) := fun _ _ => rfl

theorem throw (failure : ε) : Steady (MonadExcept.throw failure : Task ε α) := fun _ _ => rfl

theorem ofExcept (result : Except ε α) : (Task.ofExcept result).Steady := fun _ _ => rfl

theorem tell (event : TraceEvent) : (Task.tell event : Task ε Unit).Steady := fun _ _ => rfl

theorem ask {server : Server} (memoryless : server.Memoryless) (query : Query) :
    (Task.ask server query).Steady :=
  fun _ _ => memoryless _ _ query

theorem bind {task : Task ε α} {next : α → Task ε β} (first : task.Steady)
    (later : ∀ value, (next value).Steady) : (task >>= next).Steady := by
  intro before other
  rw [outcome_bind, outcome_bind]
  have same := first before other
  generalize task.outcome before = one at same ⊢
  generalize task.outcome other = another at same ⊢
  obtain ⟨result, between⟩ := one
  obtain ⟨_, elsewhere⟩ := another
  cases same
  cases result with
  | error failure => rfl
  | ok value => exact later value between elsewhere

theorem guard {condition : Prop} [Decidable condition] {failure : ε} {next : α → Task ε β}
    {rest : Task ε β} (steady : rest.Steady) :
    Steady (if condition then (MonadExcept.throw failure : Task ε α) >>= next else rest) := by
  split
  · exact fun _ _ => rfl
  · exact steady

theorem require {condition : Prop} [Decidable condition] {failure : ε} {next : α → Task ε β}
    {rest : Task ε β} (steady : rest.Steady) :
    Steady (if condition then rest else (MonadExcept.throw failure : Task ε α) >>= next) := by
  split
  · exact steady
  · exact fun _ _ => rfl

theorem mapError {f : ε → ε'} {task : Task ε α} (steady : task.Steady) : (task.mapError f).Steady :=
  fun before other => congrArg (Except.mapError f) (steady before other)

theorem foldlM {step : β → α → Task ε β} (each : ∀ state item, (step state item).Steady)
    (items : List α) (start : β) : (items.foldlM step start).Steady :=
  foldlM_closed .pure (fun _ _ => .bind) each items start

end Steady

end Task

section

variable {server : Server} (memoryless : server.Memoryless)

include memoryless

namespace Catalog

theorem steady_ask (query : Query) : (ask server query).Steady :=
  (Task.Steady.ask memoryless query).mapError

theorem steady_askEach {α : Type} (query : Query) (decode : Row → Except CatalogError α) :
    (askEach server query decode).Steady :=
  (steady_ask memoryless query).bind fun rows => .ofExcept (rows.mapM decode)

theorem steady_askFirst {α : Type} (query : Query) (label : String)
    (decode : Row → Except CatalogError α) : (askFirst server query label decode).Steady := by
  refine (steady_ask memoryless query).bind fun rows => ?_
  cases rows with
  | nil => exact .throw _
  | cons row rows => exact .ofExcept (decode row)

theorem steady_load : (load server).Steady :=
  (steady_askFirst memoryless _ _ _).bind fun version =>
    (steady_askEach memoryless typesQuery _).bind fun _ =>
      (steady_askEach memoryless operatorsQuery _).bind fun _ =>
        (steady_askEach memoryless castsQuery _).bind fun _ =>
          (steady_askEach memoryless (proceduresQueryFor version) _).bind fun _ => .pure _

end Catalog

namespace Relation

theorem steady_askEach {α : Type} (query : Query) (decode : Row → Except CheckError α) :
    (askEach server query decode).Steady :=
  (Catalog.steady_ask memoryless query).mapError.bind fun rows => .ofExcept (rows.mapM decode)

theorem steady_load (catalog : Catalog) (ref : RelationRef) (space : String) :
    (load server catalog ref space).Steady := by
  refine (Catalog.steady_ask memoryless _).mapError.bind fun rows => ?_
  cases rows with
  | nil => exact .throw _
  | cons row rows =>
    refine (Task.Steady.ofExcept _).bind fun head => ?_
    exact (steady_askEach memoryless (columnsQuery head.1) _).bind fun _ =>
      (steady_askEach memoryless (constraintsQuery head.1) _).bind fun _ =>
        (steady_askEach memoryless (indexesQuery head.1) _).bind fun _ => .pure _

end Relation

namespace Scope

variable (scope : Scope) (known : LiteralTypes)

theorem steady_literalType (text : String) : (literalType server known text).Steady := by
  unfold literalType
  split
  · exact .pure _
  · exact (Catalog.steady_askFirst memoryless _ _ _).mapError.bind fun _ => .pure _

theorem steady_operandType (operand : Operand) : (operandType server scope known operand).Steady := by
  cases operand with
  | column ref => exact (Task.Steady.ofExcept _).bind fun _ => .pure _
  | literal text => exact steady_literalType memoryless known text
  | field field => exact .pure _

theorem steady_checkColumnTest (column : Column) (test : ColumnTest) :
    (checkColumnTest server scope known column test).Steady := by
  refine (Task.Steady.ofExcept _).bind fun type => ?_
  split
  · exact (Task.Steady.ofExcept _).bind fun _ => .pure _
  · exact (steady_operandType memoryless scope known _).bind fun _ =>
      (Task.Steady.ofExcept _).bind fun _ => .pure _

theorem steady_checkBound (test : BetweenTest) (column : Column) (bound : Operand) :
    (checkBound server scope test column known bound).Steady := by
  cases bound with
  | field field => exact (Task.Steady.ofExcept _).bind fun _ => .pure _
  | column ref =>
    exact (steady_operandType memoryless scope known (.column ref)).bind fun _ => .require (.pure _)
  | literal text =>
    exact (steady_operandType memoryless scope known (.literal text)).bind fun _ => .require (.pure _)

theorem steady_checkBetween (test : BetweenTest) : (checkBetween server scope known test).Steady :=
  (Task.Steady.ofExcept _).bind fun _ =>
    (steady_checkBound memoryless scope known test _ test.low).bind fun _ =>
      steady_checkBound memoryless scope _ test _ test.high

theorem steady_checkLeaf (leaf : Leaf) : (checkLeaf server scope known leaf).Steady := by
  cases leaf with
  | field test => exact (Task.Steady.ofExcept _).bind fun _ => .pure _
  | column test =>
    exact (Task.Steady.ofExcept _).bind fun _ => steady_checkColumnTest memoryless scope known _ test
  | between test => exact steady_checkBetween memoryless scope known test

theorem steady_checkEvent (command : String) (event : WalkEvent) :
    (checkEvent server scope command known event).Steady := by
  cases event with
  | groupEnd => exact .pure _
  | entry entry depth =>
    refine (Task.Steady.tell _).bind fun _ => ?_
    cases entry with
    | leaf _ leaf => exact steady_checkLeaf memoryless scope known leaf
    | group => exact .pure _

end Scope

end

namespace RelationSet

theorem steady_load {database : Database} (memoryless : database.server.Memoryless)
    (set : RelationSet) (ref : RelationRef) : (load database set ref).Steady := by
  unfold load
  split
  · exact .pure _
  · exact (Relation.steady_load memoryless _ ref _).bind fun _ => (Task.Steady.tell _).bind fun _ => .pure _

end RelationSet

namespace Command

theorem steady_stepIf {α β : Type} {command : Command} {step : CheckStep} {block : Option β}
    {absent : α} {act : β → Task CheckError α} (acts : ∀ block, (act block).Steady) :
    (command.stepIf step block absent act).Steady := by
  cases block with
  | none => exact .pure absent
  | some block => exact (Task.Steady.tell _).bind fun _ => acts block

variable {database : Database} (memoryless : database.server.Memoryless)

include memoryless

theorem steady_loadJoin (target : Relation) (progress : JoinProgress) (item : JoinItem) :
    (loadJoin database target progress item).Steady := by
  unfold loadJoin
  refine .guard ((RelationSet.steady_load memoryless _ _).bind fun loaded => ?_)
  refine (Task.Steady.foldlM (fun known condition => ?_) _ _).bind fun known => .pure _
  exact (Task.Steady.ofExcept _).bind fun column =>
    Scope.steady_checkColumnTest memoryless _ known column condition.test

theorem steady_check (command : Command) : (command.check database).Steady := by
  refine (Task.Steady.tell _).bind fun _ => ?_
  refine (RelationSet.steady_load memoryless _ _).bind fun loaded => ?_
  refine (steady_stepIf fun join => .foldlM (steady_loadJoin memoryless _) _ _).bind fun joined => ?_
  refine (steady_stepIf fun block => .ofExcept _).bind fun _ => ?_
  refine (steady_stepIf fun block => .foldlM
    (fun known event => Scope.steady_checkEvent memoryless _ known _ event) _ _).bind fun _ => ?_
  refine (steady_stepIf fun items => .ofExcept _).bind fun _ => ?_
  refine (steady_stepIf fun columns => .ofExcept _).bind fun _ => ?_
  refine (steady_stepIf fun columns => .ofExcept _).bind fun _ => ?_
  refine (steady_stepIf fun columns => .ofExcept _).bind fun returned => ?_
  refine (steady_stepIf fun ref => .ofExcept _).bind fun _ => ?_
  refine (Task.Steady.tell _).bind fun _ => ?_
  exact (Task.Steady.ofExcept _).bind fun _ => .pure _

end Command

end RecordSql
