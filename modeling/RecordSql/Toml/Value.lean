/-!
TOML documents: tables of values. How a table came to be decides what may still be added to it, so
that nothing is defined twice.
-/
namespace RecordSql.Toml

inductive Origin where
  | header
  | path
  | dotted
  | inline
  deriving DecidableEq, Repr

inductive Value where
  | str (text : String)
  /-- A number, a truth value, a date or a time, as it is written. -/
  | scalar (text : String)
  | array (items : List Value)
  | table (origin : Origin) (members : List (String × Value))
  /-- Tables that share a header in double brackets. -/
  | tables (items : List (List (String × Value)))
  deriving Repr

abbrev Members := List (String × Value)

namespace Members

def replace (members : Members) (key : String) (value : Value) : Members :=
  members.map fun member => if member.1 = key then (key, value) else member

def add? (key : String) (value : Value) (members : Members) : Option Members :=
  if (members.lookup key).isSome then none else some (members ++ [(key, value)])

/-- Gives a value to a key with dots. It enters only tables that such keys have made. -/
def addPair? (value : Value) : List String → Members → Option Members
  | [], _ => none
  | [key], members => members.add? key value
  | key :: rest, members => match members.lookup key with
    | none => do
      let inner ← addPair? value rest []
      return members ++ [(key, .table .dotted inner)]
    | some (.table .dotted inner) => do
      let inner ← addPair? value rest inner
      return members.replace key (.table .dotted inner)
    | some _ => none

/-- Changes the members at the end of a path. Of tables that share a header it enters the last. -/
def changeAt? (change : Members → Option Members) : List String → Members → Option Members
  | [], members => change members
  | key :: rest, members => match members.lookup key with
    | none => do
      let inner ← changeAt? change rest []
      return members ++ [(key, .table .path inner)]
    | some (.table .inline _) => none
    | some (.table origin inner) => do
      let inner ← changeAt? change rest inner
      return members.replace key (.table origin inner)
    | some (.tables items) => do
      let inner ← changeAt? change rest (items.getLast?.getD [])
      return members.replace key (.tables (items.dropLast ++ [inner]))
    | some _ => none

/-- The table of a header, which may have been on the way to another one. -/
def openTable? (key : String) (members : Members) : Option Members :=
  match members.lookup key with
  | none => some (members ++ [(key, .table .header [])])
  | some (.table .path inner) => some (members.replace key (.table .header inner))
  | some _ => none

def openItem? (key : String) (members : Members) : Option Members :=
  match members.lookup key with
  | none => some (members ++ [(key, .tables [[]])])
  | some (.tables items) => some (members.replace key (.tables (items ++ [[]])))
  | some _ => none

end Members

end RecordSql.Toml
