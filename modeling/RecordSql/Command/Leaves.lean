import RecordSql.Command.Basic

namespace RecordSql

/-- A column reference of a command, and the key of the relation of unqualified names there. -/
structure ColumnUse where
  home : String
  ref : ColumnRef
  deriving DecidableEq, Repr

def ColumnUse.relation (use : ColumnUse) : String := use.ref.qualifier.getD use.home

namespace Operand

def fields : Operand → List FieldRef
  | field source => [source]
  | _ => []

def uses (target : String) : Operand → List ColumnUse
  | column ref => [⟨target, ref⟩]
  | _ => []

def literals : Operand → List String
  | literal text => [text]
  | _ => []

end Operand

namespace ColumnTest

def right? (test : ColumnTest) : Option Operand :=
  match test.condition with
  | .test _ => none
  | .compare _ _ right => some right

/-- Unqualified names on the left belong to the relation of the key, all others to the target. -/
def uses (target key : String) (test : ColumnTest) : List ColumnUse :=
  ⟨key, test.left.column⟩ :: (test.right?.map (Operand.uses target)).getD []

def literals (test : ColumnTest) : List String := (test.right?.map Operand.literals).getD []

end ColumnTest

namespace Leaf

/-- The fields whose values are compared; the low bound of a range stands before the high one. -/
def fields : Leaf → List FieldRef
  | field test => [test.field]
  | column test => (test.right?.map Operand.fields).getD []
  | between test => test.low.fields ++ test.high.fields

def uses (target : String) : Leaf → List ColumnUse
  | field test => [⟨target, test.column.column⟩]
  | column test => test.uses target target
  | between test => ⟨target, test.column⟩ :: test.low.uses target ++ test.high.uses target

def literals : Leaf → List String
  | field _ => []
  | column test => test.literals
  | between test => test.low.literals ++ test.high.literals

def functions : Leaf → List String
  | field test => test.column.func.toList
  | column test => test.left.func.toList
  | between _ => []

end Leaf

namespace Entry

mutual
def leaves : Entry → List Leaf
  | leaf _ test => [test]
  | group _ _ entries => leavesOf entries

def leavesOf : List Entry → List Leaf
  | [] => []
  | entry :: entries => entry.leaves ++ leavesOf entries
end

mutual
def GroupsFilled : Entry → Prop
  | leaf .. => True
  | group _ _ entries => entries ≠ [] ∧ AllGroupsFilled entries

def AllGroupsFilled : List Entry → Prop
  | [] => True
  | entry :: entries => entry.GroupsFilled ∧ AllGroupsFilled entries
end

end Entry

def JoinItem.uses (target : String) (item : JoinItem) : List ColumnUse :=
  item.conditions.flatMap fun condition => condition.test.uses target item.relation.key

def JoinItem.literals (item : JoinItem) : List String :=
  item.conditions.flatMap fun condition => condition.test.literals

def JoinItem.functions (item : JoinItem) : List String :=
  item.conditions.flatMap fun condition => condition.test.left.func.toList

namespace Command

def target (command : Command) : String := command.record.relation.key

def whereLeaves (command : Command) : List Leaf := Entry.leavesOf command.whereEntries

def whereFields (command : Command) : List FieldRef := command.whereLeaves.flatMap Leaf.fields

def whereUses (command : Command) : List ColumnUse :=
  command.whereLeaves.flatMap (Leaf.uses command.target)

def literals (command : Command) : List String :=
  command.joinItems.flatMap JoinItem.literals ++ command.whereLeaves.flatMap Leaf.literals

def functions (command : Command) : List String :=
  command.joinItems.flatMap JoinItem.functions ++ command.whereLeaves.flatMap Leaf.functions

end Command

end RecordSql
