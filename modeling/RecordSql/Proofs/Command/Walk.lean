import RecordSql.Command.Leaves
import RecordSql.Command.Walk

/-!
Walks with a stack of lists meet what the recursion over the list meets: what a walk has still to meet is
read off its stack, and each call takes the first event of it.
-/
namespace RecordSql

namespace Walk

variable {walk : Walk} {rest entries : List Entry} {fresh : Bool} {owner : Option Entry}
  {outer : List WalkFrame}

/-- The outermost list belongs to no group, and all others to one. -/
inductive Rooted : List WalkFrame → Prop
  | done : Rooted []
  | outermost (rest : List Entry) (fresh : Bool) : Rooted [⟨rest, fresh, none⟩]
  | inside (rest : List Entry) (fresh : Bool) (group : Entry) {frame : WalkFrame}
    {outer : List WalkFrame} : Rooted (frame :: outer) →
      Rooted (⟨rest, fresh, some group⟩ :: frame :: outer)

theorem Rooted.moved (rooted : Rooted (⟨rest, fresh, owner⟩ :: outer)) (later : List Entry)
    (now : Bool) : Rooted (⟨later, now, owner⟩ :: outer) := by
  cases rooted with
  | outermost => exact .outermost later now
  | inside _ _ group below => exact .inside later now group below

theorem Rooted.tail (rooted : Rooted (⟨rest, fresh, owner⟩ :: outer)) : Rooted outer := by
  cases rooted with
  | outermost => exact .done
  | inside _ _ _ below => exact below

def remaining : List WalkFrame → List WalkEvent
  | [] => []
  | ⟨rest, fresh, owner⟩ :: outer =>
    preorder outer.length fresh rest ++
      (owner.map fun group => .groupEnd group (outer.length - 1)).toList ++ remaining outer

theorem next_step (rooted : Rooted walk.stack) :
    walk.next.1 = (remaining walk.stack).head? ∧
      remaining walk.next.2.stack = (remaining walk.stack).tail ∧ Rooted walk.next.2.stack := by
  obtain ⟨stack⟩ := walk
  match stack, rooted with
  | [], _ => exact ⟨rfl, rfl, .done⟩
  | ⟨.leaf connector leaf :: rest, fresh, owner⟩ :: outer, rooted =>
    exact ⟨rfl, rfl, rooted.moved rest false⟩
  | ⟨.group connector name entries :: rest, fresh, owner⟩ :: outer, rooted =>
    refine ⟨rfl, ?_, .inside entries true _ (rooted.moved rest false)⟩
    simp [next, remaining, preorder, preorderEntry]
  | ⟨[], fresh, some group⟩ :: outer, rooted => exact ⟨rfl, rfl, rooted.tail⟩
  | [⟨[], fresh, none⟩], _ => exact ⟨rfl, rfl, .done⟩

def after (walk : Walk) : Nat → Walk
  | 0 => walk
  | calls + 1 => walk.next.2.after calls

theorem rooted_after (rooted : Rooted walk.stack) (calls : Nat) : Rooted (walk.after calls).stack := by
  induction calls generalizing walk with
  | zero => exact rooted
  | succ calls ih => exact ih (next_step rooted).2.2

theorem next_after (rooted : Rooted walk.stack) (calls : Nat) :
    (walk.after calls).next.1 = (remaining walk.stack)[calls]? := by
  obtain ⟨event, later, kept⟩ := next_step rooted
  induction calls generalizing walk with
  | zero => rw [after, event, List.head?_eq_getElem?]
  | succ calls ih =>
    obtain ⟨nextEvent, nextLater, nextKept⟩ := next_step kept
    rw [after, ih kept nextEvent nextLater nextKept, later, List.getElem?_tail]

theorem take_eq (rooted : Rooted walk.stack) (count : Nat) :
    walk.take count = (remaining walk.stack).take count := by
  induction count generalizing walk with
  | zero => rfl
  | succ count ih =>
    obtain ⟨first, rest, kept⟩ := next_step rooted
    have tail := ih kept
    rw [rest] at tail
    rw [take]
    cases result : walk.next with
    | mk event later =>
      rw [result] at first tail
      cases events : remaining walk.stack with
      | nil =>
        rw [events] at first
        cases first
        rfl
      | cons now more =>
        rw [events] at first tail
        cases first
        exact congrArg (now :: ·) tail

end Walk

mutual
theorem length_preorderEntry (depth : Nat) (first : Bool) (entry : Entry) :
    (preorderEntry depth first entry).length = entry.steps := by
  cases entry with
  | leaf connector leaf => rfl
  | group connector name entries => simp [preorderEntry, Entry.steps, length_preorder]

theorem length_preorder (depth : Nat) (first : Bool) (entries : List Entry) :
    (preorder depth first entries).length = Entry.stepsAll entries := by
  cases entries with
  | nil => rfl
  | cons entry entries => simp [preorder, Entry.stepsAll, length_preorderEntry, length_preorder]
end

namespace Walk

theorem rooted_start (entries : List Entry) : Rooted (start entries).stack := .outermost entries true

theorem remaining_start (entries : List Entry) :
    remaining (start entries).stack = preorder 0 true entries := by
  simp [start, remaining]

end Walk

theorem walkEvents_eq_preorder (entries : List Entry) : walkEvents entries = preorder 0 true entries := by
  rw [walkEvents, Walk.take_eq (Walk.rooted_start entries), Walk.remaining_start,
    ← length_preorder 0 true, List.take_length]

def Walk.LeavesInside (walk : Walk) : Prop :=
  ∀ fresh group outer, walk.stack = ⟨[], fresh, some group⟩ :: outer → 1 ≤ outer.length

theorem Walk.Rooted.leavesInside {walk : Walk} (rooted : Rooted walk.stack) : walk.LeavesInside := by
  intro fresh group outer same
  rw [same] at rooted
  cases rooted with
  | inside => exact Nat.succ_pos _

/-- The calls of a walk return the events of the recursion over the list, in order, and nothing after
the last one; the events that are gathered from a walk are all of them. The depth of a group that ends is
one less than that of its list, which is never the outermost one. -/
theorem walk_follows_preorder (entries : List Entry) :
    walkEvents entries = preorder 0 true entries ∧
      ∀ calls, ((Walk.start entries).after calls).next.1 = (preorder 0 true entries)[calls]? ∧
        ((Walk.start entries).after calls).LeavesInside := by
  refine ⟨walkEvents_eq_preorder entries, fun calls => ⟨?_, ?_⟩⟩
  · rw [Walk.next_after (Walk.rooted_start entries), Walk.remaining_start]
  · exact (Walk.rooted_after (Walk.rooted_start entries) calls).leavesInside

def WalkEvent.leaves : WalkEvent → List Leaf
  | .entry (.leaf _ leaf) _ _ => [leaf]
  | _ => []

theorem WalkEvent.mem_leaves {event : WalkEvent} {leaf : Leaf} : leaf ∈ event.leaves ↔
    ∃ connector below start, event = .entry (.leaf connector leaf) below start := by
  cases event with
  | groupEnd => simp [leaves]
  | entry entry below start => cases entry <;> simp [leaves, eq_comm]

mutual
theorem leaves_preorderEntry (depth : Nat) (first : Bool) (entry : Entry) :
    (preorderEntry depth first entry).flatMap WalkEvent.leaves = entry.leaves := by
  cases entry with
  | leaf connector leaf => rfl
  | group connector name entries =>
    simp [preorderEntry, WalkEvent.leaves, Entry.leaves, leaves_preorder]

theorem leaves_preorder (depth : Nat) (first : Bool) (entries : List Entry) :
    (preorder depth first entries).flatMap WalkEvent.leaves = Entry.leavesOf entries := by
  cases entries with
  | nil => rfl
  | cons entry entries => simp [preorder, Entry.leavesOf, leaves_preorderEntry, leaves_preorder]
end

theorem mem_leavesOf (depth : Nat) (first : Bool) {entries : List Entry} {leaf : Leaf} :
    leaf ∈ Entry.leavesOf entries ↔
      ∃ connector below start, .entry (.leaf connector leaf) below start ∈
        preorder depth first entries := by
  rw [← leaves_preorder depth first, List.mem_flatMap]
  simp only [WalkEvent.mem_leaves]
  constructor
  · rintro ⟨_, met, connector, below, start, rfl⟩
    exact ⟨connector, below, start, met⟩
  · rintro ⟨connector, below, start, met⟩
    exact ⟨_, met, connector, below, start, rfl⟩

end RecordSql
