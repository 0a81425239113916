import Mathlib.Data.List.Nodup
import RecordSql.Proofs.Check.Fits

namespace RecordSql

namespace RelationSet

def keys (set : RelationSet) : List String := set.relations.map Relation.key

theorem get?_eq_none {set : RelationSet} {key : String} : set.get? key = none ↔ key ∉ set.keys := by
  simp [get?, keys]

theorem registered?_empty (key : String) : ({} : RelationSet).registered? key = none := by
  simp [registered?, target?, get?]

theorem get?_eq_some {set : RelationSet} {key : String} {relation : Relation}
    (found : set.get? key = some relation) : relation ∈ set.relations ∧ relation.key = key :=
  ⟨List.mem_of_find?_eq_some found, by simpa using List.find?_some found⟩

theorem get?_of_registered?_eq_none {set : RelationSet} {key : String}
    (free : set.registered? key = none) : set.get? key = none := by
  unfold registered? at free
  split at free
  · rw [target?, List.head?_eq_none_iff] at free
    simp [get?, free]
  · exact free

theorem get?_of_mem {set : RelationSet} {relation : Relation} (distinct : set.keys.Nodup)
    (member : relation ∈ set.relations) : set.get? relation.key = some relation := by
  cases found : set.get? relation.key with
  | none => exact absurd (List.mem_map_of_mem member) (get?_eq_none.mp found)
  | some other =>
    obtain ⟨otherMember, sameKey⟩ := get?_eq_some found
    rw [List.inj_on_of_nodup_map distinct otherMember member sameKey]

theorem keys_push (set : RelationSet) (relation : Relation) :
    (set.push relation).keys = set.keys ++ [relation.key] := by
  simp [keys, push]

theorem nodup_keys_push {set : RelationSet} {relation : Relation} (distinct : set.keys.Nodup)
    (free : set.get? relation.key = none) : (set.push relation).keys.Nodup := by
  rw [keys_push]
  have fresh := get?_eq_none.mp free
  refine List.nodup_append.mpr ⟨distinct, by simp, ?_⟩
  intro key member other single same
  rw [List.mem_singleton] at single
  exact fresh (single ▸ same ▸ member)

end RelationSet

namespace Scope

/-- The target is the relation that was loaded first. -/
def Headed (scope : Scope) : Prop := scope.relations.target? = some scope.target

theorem get?_target {scope : Scope} (headed : scope.Headed) :
    scope.relations.get? scope.target.key = some scope.target := by
  unfold Headed RelationSet.target? at headed
  unfold RelationSet.get?
  cases relations : scope.relations.relations with
  | nil => simp [relations] at headed
  | cons first rest =>
    rw [relations, List.head?_cons, Option.some.injEq] at headed
    simp [headed]

end Scope

structure JoinItem.Fits (server : Server) (scope : Scope) (joined : Relation) (item : JoinItem) :
    Prop where
  key_eq : joined.key = item.relation.key
  conditions : ∀ condition ∈ item.conditions, ∃ column,
    joined.ownColumn condition.test.left.column = .ok column ∧
    ∃ before after, (Scope.checkColumnTest server scope before column condition.test).Returns after

/-- Each item fits its relation when no later one has been loaded. -/
def JoinsFit (database : Database) (target : Relation) (earlier : List Relation)
    (items : List JoinItem) (joined : List Relation) : Prop :=
  ∀ (index : Nat) (item : JoinItem) (relation : Relation),
    items[index]? = some item → joined[index]? = some relation →
      item.Fits database.server
        ⟨database.catalog, target, ⟨earlier ++ joined.take (index + 1)⟩⟩ relation

namespace Command

variable {database : Database} {target : Relation}

theorem fits_of_loadJoin {before after : JoinProgress} {item : JoinItem}
    (loaded : (loadJoin database target before item).Returns after) :
    ∃ joined, before.relations.registered? item.relation.key = none ∧
      after.relations = before.relations.push joined ∧ item.relation.Names database.space joined ∧
      item.Fits database.server ⟨database.catalog, target, after.relations⟩ joined := by
  unfold loadJoin at loaded
  obtain ⟨taken, loaded⟩ := loaded.guard
  have free : before.relations.registered? item.relation.key = none := by simpa using taken
  obtain ⟨⟨joined, relations⟩, joinedLoaded, loaded⟩ := loaded.bind
  obtain ⟨known, checked, loaded⟩ := loaded.bind
  cases Task.returns_pure.mp loaded
  obtain ⟨rfl, names⟩ := RelationSet.push_of_load free joinedLoaded
  refine ⟨joined, free, rfl, names, names.key_eq, ?_⟩
  intro condition member
  obtain ⟨known, later, conditionChecked⟩ := checked.foldlM_mem member
  obtain ⟨column, found, tested⟩ := Task.Returns.bind conditionChecked
  exact ⟨column, Task.returns_ofExcept.mp found, known, later, tested⟩

theorem fits_of_loadJoins {items : List JoinItem} {before after : JoinProgress}
    (distinct : before.relations.keys.Nodup)
    (loaded : (items.foldlM (loadJoin database target) before).Returns after) :
    ∃ joined, after.relations = ⟨before.relations.relations ++ joined⟩ ∧
      List.Forall₂ (fun item relation => item.relation.Names database.space relation) items joined ∧
      after.relations.keys.Nodup ∧
      JoinsFit database target before.relations.relations items joined := by
  induction items generalizing before with
  | nil =>
    cases Task.returns_pure.mp loaded
    exact ⟨[], by simp, .nil, distinct, by simp [JoinsFit]⟩
  | cons item items ih =>
    obtain ⟨middle, now, later⟩ := loaded.foldlM_cons
    obtain ⟨first, free, pushed, names, fits⟩ := fits_of_loadJoin now
    have middleDistinct : middle.relations.keys.Nodup := by
      rw [pushed]
      refine RelationSet.nodup_keys_push distinct ?_
      rw [names.key_eq]
      exact RelationSet.get?_of_registered?_eq_none free
    obtain ⟨joined, final, allNames, finalDistinct, rest⟩ := ih middleDistinct later
    refine ⟨first :: joined, ?_, .cons names allNames, finalDistinct, ?_⟩
    · rw [final, pushed]
      simp [RelationSet.push]
    · intro index other relation atItems atJoined
      cases index with
      | zero =>
        simp only [List.getElem?_cons_zero, Option.some.injEq] at atItems atJoined
        subst atItems atJoined
        simpa [pushed, RelationSet.push] using fits
      | succ index =>
        have tail := rest index other relation (by simpa using atItems) (by simpa using atJoined)
        simpa [pushed, RelationSet.push] using tail

theorem keys_of_names {space : String} {refs : List RelationRef} {relations : List Relation}
    (named : List.Forall₂ (fun ref relation => ref.Names space relation) refs relations) :
    relations.map Relation.key = refs.map RelationRef.key := by
  induction named with
  | nil => rfl
  | cons names _ ih => rw [List.map_cons, List.map_cons, names.key_eq, ih]

namespace Fits

variable {command : Command} {checked : CheckedCommand} {scope : Scope} {first : RelationSet}
  {known : LiteralTypes} (fits : Fits database command checked scope first known)
include fits

theorem target_loaded : first = ⟨[scope.target]⟩ ∧
    command.record.relation.Names database.space scope.target :=
  RelationSet.push_of_load (RelationSet.registered?_empty _) fits.target

theorem first_eq : first = ⟨[scope.target]⟩ ∧ scope.target.key = command.target :=
  ⟨fits.target_loaded.1, fits.target_loaded.2.key_eq⟩

theorem relations_of_joins : ∃ joined, checked.relations = ⟨scope.target :: joined⟩ ∧
    List.Forall₂ (fun item relation => item.relation.Names database.space relation)
      command.joinItems joined ∧
    checked.relations.keys.Nodup ∧
    JoinsFit database scope.target [scope.target] command.joinItems joined := by
  have loaded := fits.joins
  rw [fits.first_eq.1] at loaded
  obtain ⟨joined, final, names, distinct, each⟩ :=
    fits_of_loadJoins (by simp [RelationSet.keys]) loaded
  rw [fits.relations_eq]
  exact ⟨joined, final, names, distinct, each⟩

theorem target?_eq : checked.target? = some scope.target := by
  obtain ⟨joined, relations, _⟩ := fits.relations_of_joins
  simp [CheckedCommand.target?, RelationSet.target?, relations]

theorem relations_named : List.Forall₂ (fun ref relation => ref.Names database.space relation)
    (command.record.relation :: command.joinItems.map JoinItem.relation) checked.relations.relations := by
  obtain ⟨joined, relations, names, _⟩ := fits.relations_of_joins
  rw [relations]
  exact .cons fits.target_loaded.2 (List.forall₂_map_left_iff.mpr names)

theorem keys_eq : checked.relations.keys =
    command.target :: command.joinItems.map (fun item => item.relation.key) := by
  rw [RelationSet.keys, keys_of_names fits.relations_named, List.map_cons, List.map_map]
  rfl

theorem size_eq : checked.relations.size = command.joinItems.length + 1 := by
  have lengths := congrArg List.length fits.keys_eq
  simpa [RelationSet.keys, RelationSet.size] using lengths

theorem nodup_keys : checked.relations.keys.Nodup := by
  obtain ⟨joined, _, _, distinct, _⟩ := fits.relations_of_joins
  exact distinct

theorem headed : scope.Headed := by
  have target := fits.target?_eq
  rwa [CheckedCommand.target?, fits.relations_eq] at target

theorem nodup_scope_keys : scope.relations.keys.Nodup := fits.relations_eq ▸ fits.nodup_keys

theorem leaf_checked {leaf : Leaf} (member : leaf ∈ command.whereLeaves) :
    ∃ before after, (Scope.checkLeaf database.server scope before leaf).Returns after := by
  cases present : command.whereBlock with
  | none => simp [whereLeaves, whereEntries, present, Entry.leavesOf] at member
  | some block =>
    obtain ⟨after, entriesChecked⟩ := fits.whereBlock block present
    have inBlock : leaf ∈ Entry.leavesOf block.entries := by
      simpa [whereLeaves, whereEntries, present] using member
    obtain ⟨connector, below, start, met⟩ := (mem_leavesOf 0 true).mp inBlock
    unfold Scope.checkEntries at entriesChecked
    rw [walkEvents_eq_preorder] at entriesChecked
    obtain ⟨before, later, eventChecked⟩ := entriesChecked.foldlM_mem met
    obtain ⟨_, _, leafChecked⟩ := Task.Returns.bind eventChecked
    exact ⟨before, later, leafChecked⟩

end Fits

end Command

end RecordSql
