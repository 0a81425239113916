import Mathlib.Data.List.Forall2
import RecordSql.Server.Task

namespace RecordSql

variable {ε ε' α β : Type}

theorem bind_eq_ok {result : Except ε α} {next : α → Except ε β} {value : β} :
    (result >>= next) = .ok value ↔ ∃ middle, result = .ok middle ∧ next middle = .ok value := by
  cases result with
  | error failure => simp [bind, Except.bind]
  | ok middle => simp [bind, Except.bind]

theorem bind_eq_error {result : Except ε α} {next : α → Except ε β} {failure : ε} :
    (result >>= next) = .error failure ↔
      result = .error failure ∨ ∃ middle, result = .ok middle ∧ next middle = .error failure := by
  cases result with
  | error other => simp [bind, Except.bind]
  | ok middle => simp [bind, Except.bind]

theorem exists_ok_of_any {result : Except ε α} (test : α → Bool) (passed : result.toOption.any test = true) :
    ∃ value, result = .ok value ∧ test value = true := by
  cases result with
  | error failure => simp [Except.toOption] at passed
  | ok value => exact ⟨value, rfl, by simpa [Except.toOption] using passed⟩

theorem map_eq_ok {result : Except ε α} {f : α → β} {value : β} :
    (f <$> result) = .ok value ↔ ∃ middle, result = .ok middle ∧ f middle = value := by
  cases result with
  | error failure => simp [Functor.map, Except.map]
  | ok middle => simp [Functor.map, Except.map]

theorem pure_eq_ok {result value : α} : (pure result : Except ε α) = .ok value ↔ result = value := by
  simp [pure, Except.pure]

theorem throw_ne_ok {failure : ε} {value : α} : (throw failure : Except ε α) ≠ .ok value := by
  intro same
  cases same

def failure? : Except ε α → Option ε
  | .error failure => some failure
  | .ok _ => none

theorem failure?_eq_some {result : Except ε α} {failure : ε} :
    failure? result = some failure ↔ result = .error failure := by
  cases result <;> simp [failure?]

theorem failure?_eq_none {result : Except ε α} :
    failure? result = none ↔ ∃ value, result = .ok value := by
  cases result <;> simp [failure?]

section

variable {value : α} {failure : ε} {results : List (Except ε α)}

theorem filterMap_failure?_ok :
    (Except.ok value :: results).filterMap failure? = results.filterMap failure? :=
  List.filterMap_cons_none rfl

theorem filterMap_failure?_error :
    (Except.error failure :: results).filterMap failure? = failure :: results.filterMap failure? :=
  List.filterMap_cons_some rfl

theorem filterMap_toOption_ok :
    (Except.ok value :: results).filterMap Except.toOption = value :: results.filterMap Except.toOption :=
  List.filterMap_cons_some rfl

theorem filterMap_toOption_error :
    (Except.error failure :: results).filterMap Except.toOption = results.filterMap Except.toOption :=
  List.filterMap_cons_none rfl

theorem length_values_add_length_failures (results : List (Except ε α)) :
    (results.filterMap Except.toOption).length + (results.filterMap failure?).length =
      results.length := by
  induction results with
  | nil => rfl
  | cons result results ih =>
    cases result with
    | ok value =>
      rw [filterMap_toOption_ok, filterMap_failure?_ok, List.length_cons, List.length_cons]
      omega
    | error failure =>
      rw [filterMap_toOption_error, filterMap_failure?_error, List.length_cons, List.length_cons]
      omega

end

theorem guard_eq_ok {condition : Prop} [Decidable condition] {failure : ε} {next : α → Except ε β}
    {rest : Except ε β} {value : β} :
    (if condition then (throw failure : Except ε α) >>= next else rest) = .ok value ↔
      ¬ condition ∧ rest = .ok value := by
  split
  · simp_all [throw, throwThe, MonadExceptOf.throw, bind, Except.bind]
  · simp_all

theorem require_eq_ok {condition : Prop} [Decidable condition] {failure : ε}
    {next : α → Except ε β} {rest : Except ε β} {value : β} :
    (if condition then rest else (throw failure : Except ε α) >>= next) = .ok value ↔
      condition ∧ rest = .ok value := by
  split
  · simp_all
  · simp_all [throw, throwThe, MonadExceptOf.throw, bind, Except.bind]

theorem ite_throw_left {condition : Prop} [Decidable condition] {failure : ε} {rest : Except ε β}
    {value : β} : (if condition then throw failure else rest) = .ok value ↔
      ¬ condition ∧ rest = .ok value := by
  split <;> simp_all [throw_ne_ok]

theorem ite_throw_right {condition : Prop} [Decidable condition] {failure : ε} {rest : Except ε β}
    {value : β} : (if condition then rest else throw failure) = .ok value ↔
      condition ∧ rest = .ok value := by
  split <;> simp_all [throw_ne_ok]

theorem mapError_eq_ok {result : Except ε α} {f : ε → ε'} {value : α} :
    result.mapError f = .ok value ↔ result = .ok value := by
  cases result <;> simp [Except.mapError]

theorem mapM_eq_ok {step : α → Except ε β} {items : List α} {values : List β} :
    items.mapM step = .ok values ↔
      List.Forall₂ (fun item value => step item = .ok value) items values := by
  induction items generalizing values with
  | nil => cases values <;> simp [pure_eq_ok]
  | cons item items ih =>
    rw [List.mapM_cons]
    cases values with
    | nil => simp [bind_eq_ok, map_eq_ok]
    | cons value values =>
      simp only [bind_eq_ok, pure_eq_ok, ih, List.cons.injEq, List.forall₂_cons]
      constructor
      · rintro ⟨_, now, _, later, rfl, rfl⟩
        exact ⟨now, later⟩
      · rintro ⟨now, later⟩
        exact ⟨value, now, values, later, rfl, rfl⟩

theorem exists_left_of_forall₂ {R : α → β → Prop} {items : List α} {values : List β}
    (related : List.Forall₂ R items values) {value : β} (member : value ∈ values) :
    ∃ item ∈ items, R item value := by
  induction related with
  | nil => cases member
  | @cons item found items values now later ih =>
    rcases List.mem_cons.mp member with rfl | member
    · exact ⟨item, List.mem_cons_self, now⟩
    · obtain ⟨earlier, inside, same⟩ := ih member
      exact ⟨earlier, List.mem_cons_of_mem _ inside, same⟩

theorem exists_right_of_forall₂ {R : α → β → Prop} {items : List α} {values : List β}
    (related : List.Forall₂ R items values) {item : α} (member : item ∈ items) :
    ∃ value ∈ values, R item value :=
  exists_left_of_forall₂ related.flip member

theorem exists_forall₂ {R : α → β → Prop} {items : List α} (each : ∀ item ∈ items, ∃ value, R item value) :
    ∃ values, List.Forall₂ R items values := by
  induction items with
  | nil => exact ⟨[], .nil⟩
  | cons item items ih =>
    obtain ⟨now, later⟩ := List.forall_mem_cons.mp each
    obtain ⟨value, related⟩ := now
    obtain ⟨values, allRelated⟩ := ih later
    exact ⟨value :: values, .cons related allRelated⟩

theorem getElem?_left_of_forall₂ {R : α → β → Prop} {items : List α} {values : List β}
    (related : List.Forall₂ R items values) {index : Nat} {value : β}
    (found : values[index]? = some value) : ∃ item, items[index]? = some item ∧ R item value := by
  induction related generalizing index with
  | nil => cases found
  | cons now _ ih =>
    cases index with
    | zero =>
      cases found
      exact ⟨_, rfl, now⟩
    | succ index => exact ih found

theorem eq_nil_iff_of_forall₂ {R : α → β → Prop} {items : List α} {values : List β}
    (related : List.Forall₂ R items values) : values = [] ↔ items = [] := by
  rw [← List.length_eq_zero_iff, ← List.length_eq_zero_iff, related.length_eq]

theorem forall₂_filterMap {γ : Type} {R : γ → β → Prop} {leads : α → Option γ} {items : List α}
    {values : List β}
    (related : List.Forall₂ (fun item value => ∃ led, leads item = some led ∧ R led value) items values) :
    List.Forall₂ R (items.filterMap leads) values := by
  induction related with
  | nil => exact .nil
  | cons now _ ih =>
    obtain ⟨led, found, same⟩ := now
    rw [List.filterMap_cons_some found]
    exact .cons same ih

theorem forall₂_filter_isSome {γ : Type} {R : γ → β → Prop} {leads : α → Option γ} {items : List α}
    {values : List β} (related : List.Forall₂ R (items.filterMap leads) values) :
    List.Forall₂ (fun item value => ∃ led, leads item = some led ∧ R led value)
      (items.filter fun item => (leads item).isSome) values := by
  induction items generalizing values with
  | nil => cases related with | nil => exact .nil
  | cons item items ih =>
    cases found : leads item with
    | none =>
      rw [List.filterMap_cons_none found] at related
      simpa [found] using ih related
    | some led =>
      rw [List.filterMap_cons_some found] at related
      cases related with
      | cons now later => simpa [found] using ⟨now, ih later⟩

theorem step_of_mem_mapM {step : α → Except ε β} {items : List α} {values : List β}
    (run : items.mapM step = .ok values) {value : β} (member : value ∈ values) :
    ∃ item ∈ items, step item = .ok value :=
  exists_left_of_forall₂ (mapM_eq_ok.mp run) member

theorem step_of_mapM_mem {step : α → Except ε β} {items : List α} {values : List β}
    (run : items.mapM step = .ok values) {item : α} (member : item ∈ items) :
    ∃ value ∈ values, step item = .ok value :=
  exists_right_of_forall₂ (mapM_eq_ok.mp run) member

/-- What holds at the start and is kept by every step holds at the end. It may depend on the items that
the steps have seen. -/
theorem foldlM_prefix_induction {motive : List α → β → Prop} {step : β → α → Except ε β}
    {items : List α} {start value : β} (run : items.foldlM step start = .ok value)
    (initial : motive [] start)
    (keep : ∀ seen before after, ∀ item ∈ items, motive seen before → step before item = .ok after →
      motive (seen ++ [item]) after) : motive items value := by
  have extended : ∀ seen, motive seen start → motive (seen ++ items) value := by
    clear initial
    induction items generalizing start with
    | nil =>
      intro seen holds
      rw [List.append_nil]
      exact pure_eq_ok.mp run ▸ holds
    | cons item items ih =>
      intro seen holds
      rw [List.foldlM_cons, bind_eq_ok] at run
      obtain ⟨middle, now, later⟩ := run
      rw [List.append_cons]
      refine ih later ?_ _ (keep seen start middle item List.mem_cons_self holds now)
      intro seen before after next member
      exact keep seen before after next (List.mem_cons_of_mem _ member)
  exact extended [] initial

theorem foldlM_induction {motive : β → Prop} {step : β → α → Except ε β} {items : List α}
    {start value : β} (run : items.foldlM step start = .ok value) (initial : motive start)
    (keep : ∀ before after, ∀ item ∈ items, motive before → step before item = .ok after →
      motive after) : motive value :=
  foldlM_prefix_induction (motive := fun _ => motive) run initial fun _ => keep

theorem foldlM_perm {step : β → α → Except ε β}
    (swap : ∀ before one other between after, step before one = .ok between →
      step between other = .ok after →
      ∃ middle, step before other = .ok middle ∧ step middle one = .ok after)
    {items reordered : List α} (perm : items.Perm reordered) {start value : β}
    (run : items.foldlM step start = .ok value) : reordered.foldlM step start = .ok value := by
  induction perm generalizing start with
  | nil => exact run
  | cons item _ ih =>
    rw [List.foldlM_cons, bind_eq_ok] at run ⊢
    obtain ⟨middle, now, later⟩ := run
    exact ⟨middle, now, ih later⟩
  | swap one other rest =>
    simp only [List.foldlM_cons, bind_eq_ok] at run ⊢
    obtain ⟨between, first, after, second, later⟩ := run
    obtain ⟨middle, now, next⟩ := swap start other one between after first second
    exact ⟨middle, now, after, next, later⟩
  | trans _ _ ih ih' => exact ih' (ih run)

theorem foldlM_congr_mem {m : Type → Type} [Monad m] {α β : Type} {one other : β → α → m β}
    {items : List α} (same : ∀ item ∈ items, ∀ state, one state item = other state item) (start : β) :
    items.foldlM one start = items.foldlM other start := by
  induction items generalizing start with
  | nil => rfl
  | cons item items ih =>
    obtain ⟨now, later⟩ := List.forall_mem_cons.mp same
    rw [List.foldlM_cons, List.foldlM_cons, now start]
    exact bind_congr fun state => ih later state

/-- A predicate that is closed under sequence holds of a run if it holds of the steps. -/
theorem foldlM_closed {m : Type → Type} [Monad m] {α β : Type} {closed : m β → Prop}
    (initial : ∀ state, closed (pure state))
    (sequence : ∀ (first : m β) (next : β → m β), closed first → (∀ state, closed (next state)) →
      closed (first >>= next))
    {step : β → α → m β} (each : ∀ state item, closed (step state item)) (items : List α) (start : β) :
    closed (items.foldlM step start) := by
  induction items generalizing start with
  | nil => exact initial start
  | cons item items ih =>
    rw [List.foldlM_cons]
    exact sequence _ _ (each start item) ih

section

variable {σ : Type} {task : ExceptT ε (StateM σ) α} {before between : σ}

theorem run_bind_of_ok (next : α → ExceptT ε (StateM σ) β) {value : α}
    (ran : (ExceptT.run task).run before = (.ok value, between)) :
    (ExceptT.run (task >>= next)).run before = (ExceptT.run (next value)).run between := by
  rw [ExceptT.run_bind, StateT.run_bind, ran]
  rfl

theorem run_bind_of_error (next : α → ExceptT ε (StateM σ) β) {failure : ε}
    (ran : (ExceptT.run task).run before = (.error failure, between)) :
    (ExceptT.run (task >>= next)).run before = (.error failure, between) := by
  rw [ExceptT.run_bind, StateT.run_bind, ran]
  rfl

end

namespace Task

/-- The task can return the value: it does so from some transcript. -/
def Returns (task : Task ε α) (value : α) : Prop :=
  ∃ before, (task.outcome before).1 = .ok value

theorem outcome_bind (task : Task ε α) (next : α → Task ε β) (before : Transcript) :
    (task >>= next).outcome before =
      match task.outcome before with
      | (.ok value, between) => (next value).outcome between
      | (.error failure, between) => (.error failure, between) := by
  rcases ran : task.outcome before with ⟨failure | value, between⟩
  · exact run_bind_of_error next ran
  · exact run_bind_of_ok next ran

theorem outcome_bind_ok {task : Task ε α} {next : α → Task ε β} {before after : Transcript} {value : β} :
    (task >>= next).outcome before = (.ok value, after) ↔
      ∃ middle between, task.outcome before = (.ok middle, between) ∧
        (next middle).outcome between = (.ok value, after) := by
  rw [outcome_bind]
  rcases task.outcome before with ⟨failure | middle, between⟩ <;> simp

theorem outcome_bind_error {task : Task ε α} {next : α → Task ε β} {before after : Transcript}
    {failure : ε} :
    (task >>= next).outcome before = (.error failure, after) ↔
      task.outcome before = (.error failure, after) ∨
        ∃ middle between, task.outcome before = (.ok middle, between) ∧
          (next middle).outcome between = (.error failure, after) := by
  rw [outcome_bind]
  rcases task.outcome before with ⟨failure | middle, between⟩ <;> simp

theorem outcome_guard_ok {condition : Prop} [Decidable condition] {failure : ε} {next : α → Task ε β}
    {rest : Task ε β} {before after : Transcript} {value : β} :
    (if condition then (throw failure : Task ε α) >>= next else rest).outcome before = (.ok value, after) ↔
      ¬ condition ∧ rest.outcome before = (.ok value, after) := by
  split
  · rename_i failed
    simp only [failed, not_true_eq_false, false_and, iff_false]
    rintro ⟨⟩
  · simp_all

theorem outcome_map (f : α → β) (task : Task ε α) (before : Transcript) :
    (f <$> task).outcome before = (f <$> (task.outcome before).1, (task.outcome before).2) := by
  rw [map_eq_pure_bind, outcome_bind]
  rcases task.outcome before with ⟨failure | value, between⟩ <;> rfl

theorem Returns.bind {task : Task ε α} {next : α → Task ε β} {value : β}
    (returned : (task >>= next).Returns value) :
    ∃ middle, task.Returns middle ∧ (next middle).Returns value := by
  obtain ⟨before, result⟩ := returned
  rw [outcome_bind] at result
  cases outcome : task.outcome before with
  | mk first between =>
    rw [outcome] at result
    cases first with
    | error failure => cases result
    | ok middle => exact ⟨middle, ⟨before, by rw [outcome]⟩, between, result⟩

theorem returns_pure {result value : α} :
    Returns (pure result : Task ε α) value ↔ result = value := by
  constructor
  · rintro ⟨before, same⟩
    exact Except.ok.inj same
  · rintro rfl
    exact ⟨{}, rfl⟩

theorem returns_ofExcept {result : Except ε α} {value : α} :
    Returns (ofExcept result) value ↔ result = .ok value :=
  ⟨fun ⟨_, same⟩ => same, fun same => ⟨{}, same⟩⟩

theorem not_returns_throw {failure : ε} {value : α} :
    ¬ Returns (throw failure : Task ε α) value := by
  rintro ⟨before, same⟩
  cases same

theorem fails_of_not_returns {task : Task ε α} (never : ∀ value, ¬ task.Returns value)
    (before : Transcript) : ∃ failure, (task.outcome before).1 = .error failure := by
  cases result : (task.outcome before).1 with
  | error failure => exact ⟨failure, rfl⟩
  | ok value => exact absurd ⟨before, result⟩ (never value)

theorem Returns.guard {condition : Prop} [Decidable condition] {failure : ε} {next : α → Task ε β}
    {rest : Task ε β} {value : β}
    (returned : (if condition then (throw failure : Task ε α) >>= next else rest).Returns value) :
    ¬ condition ∧ rest.Returns value := by
  split at returned
  · obtain ⟨middle, thrown, _⟩ := returned.bind
    exact absurd thrown not_returns_throw
  · exact ⟨by assumption, returned⟩

theorem Returns.foldlM_cons {step : β → α → Task ε β} {first : α} {rest : List α} {start value : β}
    (returned : ((first :: rest).foldlM step start).Returns value) :
    ∃ middle, (step start first).Returns middle ∧ (rest.foldlM step middle).Returns value := by
  rw [List.foldlM_cons] at returned
  exact returned.bind

theorem Returns.foldlM_mem {step : β → α → Task ε β} {items : List α} {start value : β}
    (returned : (items.foldlM step start).Returns value) {item : α} (member : item ∈ items) :
    ∃ before after, (step before item).Returns after := by
  induction items generalizing start with
  | nil => cases member
  | cons first rest ih =>
    obtain ⟨middle, now, later⟩ := returned.foldlM_cons
    rcases List.mem_cons.mp member with rfl | member
    · exact ⟨start, middle, now⟩
    · exact ih later member

end Task

end RecordSql
