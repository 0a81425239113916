import RecordSql.Command.Predicate

/-!
Walks over predicate lists. A walk meets every entry once, in the order of declaration, and tells
where a group ends. It is run with a stack of lists; `preorder` says the same by recursion.
-/
namespace RecordSql

inductive WalkEvent where
  | entry (entry : Entry) (depth : Nat) (first : Bool)
  | groupEnd (group : Entry) (depth : Nat)

/-- What is left of a list, whether it is untouched, and the group it belongs to. -/
structure WalkFrame where
  rest : List Entry
  fresh : Bool
  owner : Option Entry

structure Walk where
  stack : List WalkFrame

namespace Walk

def start (entries : List Entry) : Walk := ⟨[⟨entries, true, none⟩]⟩

/-- The next event, if there is one, and the walk after it. A list that is done is left, and so is the
outermost one, after which there are no more events. -/
def next (walk : Walk) : Option WalkEvent × Walk :=
  match walk.stack with
  | [] => (none, walk)
  | ⟨entry :: rest, fresh, owner⟩ :: outer =>
    let after : List WalkFrame := ⟨rest, false, owner⟩ :: outer
    let inside := match entry with
      | .leaf .. => after
      | .group _ _ entries => ⟨entries, true, some entry⟩ :: after
    (some (.entry entry outer.length fresh), ⟨inside⟩)
  | ⟨[], _, owner⟩ :: outer =>
    (owner.map fun group => .groupEnd group (outer.length - 1), ⟨outer⟩)

def take : Nat → Walk → List WalkEvent
  | 0, _ => []
  | n + 1, walk => match walk.next with
    | (some event, later) => event :: take n later
    | (none, _) => []

end Walk

def walkEvents (entries : List Entry) : List WalkEvent :=
  (Walk.start entries).take (Entry.stepsAll entries)

mutual
def preorderEntry (depth : Nat) (first : Bool) : Entry → List WalkEvent
  | .leaf connector leaf => [.entry (.leaf connector leaf) depth first]
  | .group connector name entries =>
    .entry (.group connector name entries) depth first ::
      preorder (depth + 1) true entries ++ [.groupEnd (.group connector name entries) depth]

def preorder (depth : Nat) (first : Bool) : List Entry → List WalkEvent
  | [] => []
  | entry :: entries => preorderEntry depth first entry ++ preorder depth false entries
end

end RecordSql
