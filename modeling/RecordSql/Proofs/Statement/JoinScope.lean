import RecordSql.Proofs.Statement.References

/-!
The scope of join conditions in writes. The first join of an update or delete gives its condition to
the statement; the condition of a later one stands where the target cannot be named, and may name it.
-/
namespace RecordSql

def Join.Within (join : Join) (tables : List TableRef) : Prop :=
  ∀ ref ∈ join.columns, ∃ table ∈ tables, ref.qualifier = some table.key

instance (join : Join) (tables : List TableRef) : Decidable (join.Within tables) :=
  inferInstanceAs (Decidable (∀ ref ∈ join.columns, ∃ table ∈ tables, ref.qualifier = some table.key))

/-- A condition of the item compares with a column of the target, which it need not say. -/
def JoinItem.NamesTarget (item : JoinItem) (target : String) : Prop :=
  ∃ condition ∈ item.conditions, ∃ ref, condition.test.right? = some (.column ref) ∧
    (ref.qualifier = none ∨ ref.qualifier = some target)

namespace JoinItem

variable {item : JoinItem} {target : String}

theorem mem_uses {use : ColumnUse} : use ∈ item.uses target ↔ ∃ condition ∈ item.conditions,
    use = ⟨item.relation.key, condition.test.left.column⟩ ∨
      ∃ ref, condition.test.right? = some (.column ref) ∧ use = ⟨target, ref⟩ := by
  have right {operand : Option Operand} :
      use ∈ (operand.map (Operand.uses target)).getD [] ↔
        ∃ ref, operand = some (.column ref) ∧ use = ⟨target, ref⟩ := by
    rcases operand with _ | (ref | field | text) <;> simp [Operand.uses]
  simp only [uses, ColumnTest.uses, List.mem_flatMap, List.mem_cons, right]

theorem namesTarget_iff (apart : ∀ condition ∈ item.conditions,
      ColumnUse.relation ⟨item.relation.key, condition.test.left.column⟩ ≠ target) :
    item.NamesTarget target ↔ ∃ use ∈ item.uses target, use.relation = target := by
  have named (ref : ColumnRef) : ColumnUse.relation ⟨target, ref⟩ = target ↔
      ref.qualifier = none ∨ ref.qualifier = some target := by
    cases qualifier : ref.qualifier <;> simp [ColumnUse.relation, qualifier]
  constructor
  · rintro ⟨condition, inside, ref, right, ofTarget⟩
    exact ⟨⟨target, ref⟩, mem_uses.mpr ⟨condition, inside, .inr ⟨ref, right, rfl⟩⟩,
      (named ref).mpr ofTarget⟩
  · rintro ⟨use, used, same⟩
    obtain ⟨condition, inside, rfl | ⟨ref, right, rfl⟩⟩ := mem_uses.mp used
    · exact absurd same (apart condition inside)
    · exact ⟨condition, inside, ref, right, (named ref).mp same⟩

end JoinItem

namespace Lowering

variable {lowering : Lowering}

theorem joins_sourceParts (before : List ArgSource) : ∃ start,
    (lowering.sourceParts.run before).1.2.1 =
      ((lowering.command.joinItems.tail.mapM lowering.join).run start).1 := by
  unfold sourceParts
  cases lowering.command.joinItems with
  | nil => exact ⟨[], rfl⟩
  | cons first rest => exact ⟨_, rfl⟩

theorem joins_of_builds {build : Binding Statement} (builds : lowering.Builds build)
    (changes : (build.run []).1.changesRows = true) : ∃ start,
    (build.run []).1.joins = ((lowering.command.joinItems.tail.mapM lowering.join).run start).1 := by
  cases builds with
  | select => cases changes
  | insert => cases changes
  | update => exact lowering.joins_sourceParts _
  | delete => exact lowering.joins_sourceParts _

end Lowering

namespace Accepted

variable {naming : ColumnNaming} {name : String} {fields : List HostField} {database : Database}
  {command : Command} {checked : CheckedCommand} {bound : BoundStatement}

namespace Agrees

variable {scope : Scope} {first : RelationSet} {known : LiteralTypes} {lowering : Lowering}
  (facts : Agrees database command checked bound scope first known lowering)
include facts

theorem table_keys : bound.statement.tables.map TableRef.key =
    command.target :: command.joinItems.map fun item => item.relation.key := by
  rw [facts.tables, facts.fits.keys_eq]

theorem joins_of_write (changes : bound.statement.changesRows = true) : ∃ start,
    bound.statement.joins = ((command.joinItems.tail.mapM lowering.join).run start).1 := by
  obtain ⟨build, builds, ran⟩ := facts.builds
  have statement : (build.run []).1 = bound.statement := by rw [ran]
  rw [← statement] at changes ⊢
  rw [← facts.command_eq]
  exact Lowering.joins_of_builds builds changes

theorem length_joins_of_write (changes : bound.statement.changesRows = true) :
    bound.statement.joins.length = command.joinItems.length - 1 := by
  obtain ⟨start, joins⟩ := facts.joins_of_write changes
  rw [joins, ← (Binding.forall₂_mapM command.joinItems.tail start).length_eq, List.length_tail]

theorem item_of_write_join (changes : bound.statement.changesRows = true) {index : Nat} {join : Join}
    (found : bound.statement.joins[index]? = some join) :
    ∃ item, command.joinItems[index + 1]? = some item ∧ join.table.key = item.relation.key ∧
      join.columns = (item.uses command.target).map lowering.resolve := by
  obtain ⟨start, joins⟩ := facts.joins_of_write changes
  rw [joins] at found
  obtain ⟨item, atItem, key, columns⟩ := lowering.item_of_join facts.keyed found
  rw [List.getElem?_tail] at atItem
  rw [facts.command_eq] at columns
  exact ⟨item, atItem, key, columns⟩

/-- A join is of tables just where what its item uses is. -/
theorem within_iff {index : Nat} {item : JoinItem} {join : Join} {tables : List TableRef}
    (found : command.joinItems[index]? = some item)
    (columns : join.columns = (item.uses command.target).map lowering.resolve) :
    join.Within tables ↔
      ∀ use ∈ item.uses command.target, use.relation ∈ tables.map TableRef.key := by
  rw [Join.Within, columns, List.forall_mem_map]
  refine forall₂_congr fun use used => ?_
  rw [(facts.qualifier_of_join found use used).1, List.mem_map]
  simp only [Option.some.injEq, eq_comm]

end Agrees

/-- A write has all joins of its command but the first. The condition of each is of the target and the
other tables up to it, and of the others alone just where it does not compare with a column of the
target. -/
theorem join_conditions_within (accepted : Accepted naming name fields database command checked bound)
    (changes : bound.statement.changesRows = true) :
    bound.statement.joins.length = command.joinItems.length - 1 ∧
      ∀ index join, bound.statement.joins[index]? = some join →
        ∃ item, command.joinItems[index + 1]? = some item ∧ join.table.key = item.relation.key ∧
          join.Within (bound.statement.tables.take (index + 3)) ∧
          (join.Within (bound.statement.tables.tail.take (index + 2)) ↔
            ¬ item.NamesTarget command.target) := by
  obtain ⟨scope, first, known, lowering, facts⟩ := accepted.agrees
  refine ⟨facts.length_joins_of_write changes, ?_⟩
  intro index join found
  obtain ⟨item, atItem, key, columns⟩ := facts.item_of_write_join changes found
  have member := List.mem_of_getElem? atItem
  have reached : ∀ use ∈ item.uses command.target, use.relation ∈
      command.target :: (command.joinItems.map fun item => item.relation.key).take (index + 2) :=
    fun use used => (facts.qualifier_of_join atItem use used).2
  have distinct := facts.fits.nodup_keys
  rw [facts.fits.keys_eq, List.nodup_cons] at distinct
  refine ⟨item, atItem, key, ?_, ?_⟩
  · rw [facts.within_iff atItem columns, List.map_take, facts.table_keys]
    exact reached
  · rw [facts.within_iff atItem columns, List.map_take, List.map_tail, facts.table_keys,
      List.tail_cons, JoinItem.namesTarget_iff (facts.fits.join_left_ne_target member)]
    constructor
    · rintro within ⟨use, used, same⟩
      exact distinct.1 (List.mem_of_mem_take (same ▸ within use used))
    · intro free use used
      rcases List.mem_cons.mp (reached use used) with same | other
      · exact absurd ⟨use, used, same⟩ free
      · exact other

end Accepted

def renameByPosts (second : String) : List HostField :=
  [taggedField "User" "rel" "users:u"
     (recordOf [taggedField "Nickname" "sql" "nickname" { shape := .optional HostType.text }]),
   { name := "From"
     type := recordOf [taggedField "_" "sql" "posts:p, p.user_id = u.id" Directive.join.hostType,
       taggedField "_" "sql" second Directive.join.hostType] },
   { name := "Where", type := recordOf [taggedField "Title" "sql" "p.title" HostType.text] }]

theorem join_conditions_within_renameByPosts :
    ∃ command checked bound, Accepted .tagged "UpdateUser"
        (renameByPosts "posts:q, q.user_id = p.user_id") blog command checked bound ∧
      bound.statement.changesRows = true ∧
      ∃ join item, bound.statement.joins[0]? = some join ∧ command.joinItems[1]? = some item ∧
        join.Within (bound.statement.tables.tail.take 2) ∧ ¬ item.NamesTarget command.target := by
  obtain ⟨command, checked, bound, accepted, facts⟩ := exists_accepted
    (fun (_, _, bound) => bound.statement.changesRows && bound.statement.joins[0]?.any fun join =>
      decide (join.Within (bound.statement.tables.tail.take 2)))
    (show (accepted? .tagged "UpdateUser" (renameByPosts "posts:q, q.user_id = p.user_id") blog).any _ =
      true by decide +kernel)
  simp only [Bool.and_eq_true, Option.any_eq_true, decide_eq_true_eq] at facts
  obtain ⟨changes, join, found, within⟩ := facts
  obtain ⟨_, each⟩ := accepted.join_conditions_within changes
  obtain ⟨item, atItem, _, _, only⟩ := each 0 join found
  exact ⟨command, checked, bound, accepted, changes, join, item, found, atItem, within, only.mp within⟩

/-- A second join that compares with a column of the target does so in its own condition. -/
theorem target_named_in_join :
    ∃ command checked bound, Accepted .tagged "UpdateUser" (renameByPosts "posts:q, q.user_id = u.id")
        blog command checked bound ∧
      bound.statement.changesRows = true ∧ command.target = "u" ∧
      bound.statement.tables.map TableRef.key = ["u", "p", "q"] ∧
      bound.statement.joins.map Join.columns = [[⟨some "q", "user_id"⟩, ⟨some "u", "id"⟩]] := by
  obtain ⟨command, checked, bound, accepted, facts⟩ := exists_accepted
    (fun (command, _, bound) => bound.statement.changesRows && command.target == "u" &&
      bound.statement.tables.map TableRef.key == ["u", "p", "q"] &&
      bound.statement.joins.map Join.columns == [[⟨some "q", "user_id"⟩, ⟨some "u", "id"⟩]])
    (show (accepted? .tagged "UpdateUser" (renameByPosts "posts:q, q.user_id = u.id") blog).any _ =
      true by decide +kernel)
  simp only [Bool.and_eq_true, beq_iff_eq] at facts
  obtain ⟨⟨⟨changes, target⟩, tables⟩, columns⟩ := facts
  exact ⟨command, checked, bound, accepted, changes, target, tables, columns⟩

end RecordSql
