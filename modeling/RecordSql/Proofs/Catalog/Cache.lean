import Mathlib.Data.Set.Card
import RecordSql.Catalog.Cache
import RecordSql.Proofs.Catalog.Loading

namespace RecordSql

theorem lookup_map_value {κ α β : Type} [BEq κ] [LawfulBEq κ] {f : κ → α → β} {entries : List (κ × α)}
    {key : κ} : (entries.map fun entry => (entry.1, f entry.1 entry.2)).lookup key =
      (entries.lookup key).map (f key) := by
  induction entries with
  | nil => rfl
  | cons entry entries ih =>
    obtain ⟨stored, value⟩ := entry
    simp only [List.map_cons, List.lookup_cons]
    split
    · rename_i same
      rw [eq_of_beq same, Option.map_some]
    · exact ih

namespace SessionTask

variable {ε ε' α β : Type}

theorem outcome_bind (task : SessionTask ε α) (next : α → SessionTask ε β) (before : Session) :
    (task >>= next).outcome before =
      match task.outcome before with
      | (.ok value, between) => (next value).outcome between
      | (.error failure, between) => (.error failure, between) := by
  rcases ran : task.outcome before with ⟨failure | value, between⟩
  · exact run_bind_of_error next ran
  · exact run_bind_of_ok next ran

theorem outcome_ofTask (task : Task ε α) (before : Session) :
    (ofTask task).outcome before =
      ((task.outcome before.transcript).1, { before with transcript := (task.outcome before.transcript).2 }) :=
  rfl

@[simp] theorem outcome_pure (value : α) (before : Session) :
    (pure value : SessionTask ε α).outcome before = (.ok value, before) := rfl

@[simp] theorem outcome_get (before : Session) :
    (get : SessionTask ε Session).outcome before = (.ok before, before) := rfl

@[simp] theorem outcome_updateCache (change : CatalogCache → CatalogCache) (before : Session) :
    (updateCache change : SessionTask ε Unit).outcome before =
      (.ok (), { before with cache := change before.cache }) := rfl

@[simp] theorem outcome_tell (event : TraceEvent) (before : Session) :
    (ofTask (Task.tell event) : SessionTask ε Unit).outcome before =
      (.ok (), { before with transcript := before.transcript.telling event }) := rfl

end SessionTask

namespace CatalogCache

variable {cache : CatalogCache} {identity other : CatalogIdentity} {catalog : Catalog}

theorem lookup_eq_some {held : Option Catalog} :
    cache.slots.lookup identity = some held ↔ (identity, held) ∈ cache.slots := by
  rw [List.lookup_eq_some_iff]
  constructor
  · rintro ⟨earlier, later, split, _⟩
    rw [split]
    exact List.mem_append_right _ List.mem_cons_self
  · intro member
    obtain ⟨earlier, later, split⟩ := List.append_of_mem member
    refine ⟨earlier, later, split, ?_⟩
    intro slot inside
    have distinct := cache.distinct
    rw [split, List.map_append, List.nodup_append] at distinct
    have apart := distinct.2.2 slot.1 (List.mem_map_of_mem inside) identity (by simp)
    simpa using apart.symm

theorem get?_eq_some : cache.get? identity = some catalog ↔ (identity, some catalog) ∈ cache.slots := by
  rw [get?, Option.join_eq_some_iff, lookup_eq_some]

@[simp] theorem get?_reserve : (cache.reserve identity).get? other = cache.get? other := by
  unfold reserve
  split
  · rfl
  · rename_i fresh
    simp only [get?, List.lookup_append]
    cases held : cache.slots.lookup other with
    | some slot => rfl
    | none => simp only [Option.none_or, List.lookup_cons]; split <;> rfl

theorem lookup_reserve (cache : CatalogCache) (identity : CatalogIdentity) :
    ((cache.reserve identity).slots.lookup identity).isSome = true := by
  rw [List.lookup_isSome_iff]
  unfold reserve
  split
  · rename_i taken
    obtain ⟨slot, member, rfl⟩ := List.mem_map.mp taken
    exact ⟨slot, member, beq_self_eq_true _⟩
  · exact ⟨(identity, none), List.mem_append_right _ List.mem_cons_self, beq_self_eq_true _⟩

theorem get?_insert : (cache.insert identity catalog).get? other =
    if other = identity then some catalog else cache.get? other := by
  have found : (cache.insert identity catalog).get? other =
      (((cache.reserve identity).slots.lookup other).map
        fun held => if other = identity then some catalog else held).join :=
    congrArg Option.join (lookup_map_value (f := fun key held => if key = identity then _ else held))
  rw [found]
  split
  · rename_i same
    obtain ⟨held, reserved⟩ := Option.isSome_iff_exists.mp (cache.lookup_reserve identity)
    rw [same, reserved]
    rfl
  · rw [Option.map_id']
    exact get?_reserve

theorem encard_held (cache : CatalogCache) :
    {identity | (cache.get? identity).isSome}.encard = cache.size := by
  let full := (cache.slots.filter fun slot => slot.2.isSome).map Prod.fst
  have distinct : full.Nodup := cache.distinct.sublist (List.filter_sublist.map _)
  have members : {identity | (cache.get? identity).isSome} = (full.toFinset : Set CatalogIdentity) := by
    ext identity
    simp [full, Option.isSome_iff_exists, get?_eq_some]
  rw [members, Set.encard_coe_eq_coe_finsetCard, List.toFinset_card_of_nodup distinct, List.length_map,
    size, List.countP_eq_length_filter]

theorem size_congr {one another : CatalogCache}
    (same : ∀ identity, one.get? identity = another.get? identity) : one.size = another.size := by
  have sizes : (one.size : ℕ∞) = another.size := by
    simp only [← encard_held, same]
  exact_mod_cast sizes

theorem size_insert (absent : cache.get? identity = none) :
    (cache.insert identity catalog).size = cache.size + 1 := by
  have sizes : ((cache.insert identity catalog).size : ℕ∞) = cache.size + 1 := by
    rw [← encard_held, ← encard_held, ← Set.encard_insert_of_notMem (a := identity) (by simp [absent])]
    congr 1
    ext other
    by_cases same : other = identity <;> simp [get?_insert, same]
  exact_mod_cast sizes

theorem load_of_held {server : Server} {before : Session}
    (held : before.cache.get? identity = some catalog) :
    (load server identity).outcome before =
      (.ok catalog, ⟨before.cache.reserve identity,
        before.transcript.telling (.catalogHit identity.database)⟩) := by
  simp only [load, SessionTask.outcome_bind, SessionTask.outcome_updateCache,
    SessionTask.outcome_get, get?_reserve, held, SessionTask.outcome_tell, SessionTask.outcome_pure]

theorem load_of_absent {server : Server} {before : Session}
    (absent : before.cache.get? identity = none) :
    (load server identity).outcome before =
      match (Catalog.load server).outcome before.transcript with
      | (.ok catalog, after) => (.ok catalog, ⟨(before.cache.reserve identity).insert identity catalog,
          after.telling (.catalogLoaded identity.database catalog.counts)⟩)
      | (.error failure, after) => (.error failure, ⟨before.cache.reserve identity, after⟩) := by
  simp only [load, SessionTask.outcome_bind, SessionTask.outcome_updateCache,
    SessionTask.outcome_get, get?_reserve, absent, SessionTask.outcome_ofTask]
  rcases (Catalog.load server).outcome before.transcript with ⟨failure | catalog, after⟩ <;> rfl

end CatalogCache

end RecordSql
