import RecordSql.Compile.Session
import RecordSql.Proofs.Catalog.Cache
import RecordSql.Proofs.Check.Steady

/-!
Sessions that offer the same catalogues, whether they hold them or would read them. On a server without
memory a compilation cannot tell such sessions apart, and does not change what is offered.
-/
namespace RecordSql

namespace Session

def offers (server : Server) (session : Session) (identity : CatalogIdentity) :
    Except CatalogError Catalog :=
  match session.cache.get? identity with
  | some catalog => .ok catalog
  | none => ((Catalog.load server).outcome session.transcript).1

/-- The sessions offer the same for every identity, whether they hold it or would read it. -/
def Alike (server : Server) (one other : Session) : Prop :=
  ∀ identity, one.offers server identity = other.offers server identity

variable {server : Server} {one other third : Session}

theorem Alike.symm (alike : one.Alike server other) : other.Alike server one :=
  fun identity => (alike identity).symm

theorem Alike.trans (first : one.Alike server other) (second : other.Alike server third) :
    one.Alike server third :=
  fun identity => (first identity).trans (second identity)

theorem offers_congr (memoryless : server.Memoryless) {identity : CatalogIdentity}
    (same : one.cache.get? identity = other.cache.get? identity) :
    one.offers server identity = other.offers server identity := by
  simp only [offers, same]
  split
  · rfl
  · exact Catalog.steady_load memoryless _ _

/-- A load gives what is offered. -/
theorem load_eq_offers (identity : CatalogIdentity) :
    ((CatalogCache.load server identity).outcome one).1 = one.offers server identity := by
  unfold offers
  cases held : one.cache.get? identity with
  | some catalog => rw [CatalogCache.load_of_held held]
  | none =>
    rw [CatalogCache.load_of_absent held]
    rcases (Catalog.load server).outcome one.transcript with ⟨failure | catalog, after⟩ <;> rfl

theorem alike_load (memoryless : server.Memoryless) (identity : CatalogIdentity) :
    one.Alike server ((CatalogCache.load server identity).outcome one).2 := by
  intro another
  have reserved : (one.cache.reserve identity).get? another = one.cache.get? another :=
    CatalogCache.get?_reserve
  cases held : one.cache.get? identity with
  | some catalog =>
    rw [CatalogCache.load_of_held held]
    exact offers_congr memoryless reserved.symm
  | none =>
    rw [CatalogCache.load_of_absent held]
    cases outcome : (Catalog.load server).outcome one.transcript with
    | mk result after =>
      cases result with
      | error failure => exact offers_congr memoryless reserved.symm
      | ok catalog =>
        by_cases same : another = identity
        · simp [offers, CatalogCache.get?_insert, same, held, outcome]
        · refine offers_congr memoryless ?_
          rw [CatalogCache.get?_insert, if_neg same, reserved]

end Session

namespace SessionTask

variable {ε ε' α β : Type} {server : Server}

/-- The task comes to the same in sessions that offer the same, and leaves a session that offers the same
as before. -/
structure Neutral (server : Server) (task : SessionTask ε α) : Prop where
  same {before other : Session} :
    before.Alike server other → (task.outcome before).1 = (task.outcome other).1
  keeps (before : Session) : before.Alike server (task.outcome before).2

namespace Neutral

theorem pure (value : α) : Neutral server (Pure.pure value : SessionTask ε α) :=
  ⟨fun _ => rfl, fun _ _ => rfl⟩

theorem bind {task : SessionTask ε α} {next : α → SessionTask ε β} (first : Neutral server task)
    (later : ∀ value, Neutral server (next value)) : Neutral server (task >>= next) := by
  constructor
  · intro before other alike
    have agree := first.same alike
    have kept := first.keeps before
    have keptThere := first.keeps other
    rw [outcome_bind, outcome_bind]
    generalize task.outcome before = here at agree kept ⊢
    generalize task.outcome other = there at agree keptThere ⊢
    obtain ⟨result, after⟩ := here
    obtain ⟨_, elsewhere⟩ := there
    cases agree
    cases result with
    | error failure => rfl
    | ok value => exact (later value).same (kept.symm.trans (alike.trans keptThere))
  · intro before
    have kept := first.keeps before
    rw [outcome_bind]
    generalize task.outcome before = here at kept ⊢
    obtain ⟨result, after⟩ := here
    cases result with
    | error failure => exact kept
    | ok value => exact kept.trans ((later value).keeps after)

theorem mapError {f : ε → ε'} {task : SessionTask ε α} (neutral : Neutral server task) :
    Neutral server (task.mapError f) :=
  ⟨fun alike => congrArg (Except.mapError f) (neutral.same alike), neutral.keeps⟩

theorem throw (failure : ε) : Neutral server (MonadExcept.throw failure : SessionTask ε α) :=
  ⟨fun _ => rfl, fun _ _ => rfl⟩

theorem attempt {task : SessionTask ε α} (neutral : Neutral server task) :
    Neutral server (SessionTask.attempt task) :=
  ⟨fun alike => congrArg Except.ok (neutral.same alike), neutral.keeps⟩

theorem foldlM {step : β → α → SessionTask ε β} (each : ∀ state item, Neutral server (step state item))
    (items : List α) (start : β) : Neutral server (items.foldlM step start) :=
  foldlM_closed .pure (fun _ _ => .bind) each items start

theorem ofTask (memoryless : server.Memoryless) {task : Task ε α} (steady : task.Steady) :
    Neutral server (SessionTask.ofTask task) :=
  ⟨fun _ => steady _ _, fun _ _ => Session.offers_congr memoryless rfl⟩

theorem load (memoryless : server.Memoryless) (identity : CatalogIdentity) :
    Neutral server (CatalogCache.load server identity) where
  same alike := by rw [Session.load_eq_offers, Session.load_eq_offers, alike identity]
  keeps _ := Session.alike_load memoryless identity

end Neutral

end SessionTask

namespace Compiler

variable {compiler : Compiler} (memoryless : compiler.server.Memoryless)

include memoryless

theorem neutral_ofTask {ε α : Type} (failure : ε → Failure) {task : Task ε α} (steady : task.Steady) :
    SessionTask.Neutral compiler.server (Compilation.ofTask failure task) :=
  (SessionTask.Neutral.ofTask memoryless steady).mapError

theorem neutral_identity : SessionTask.Neutral compiler.server compiler.identity := by
  unfold identity
  split
  · exact .pure _
  · exact neutral_ofTask memoryless _
      ((Catalog.steady_askFirst memoryless _ _ _).bind fun _ => .pure _)

theorem neutral_catalog : SessionTask.Neutral compiler.server compiler.catalog :=
  (neutral_identity memoryless).bind fun identity =>
    (SessionTask.Neutral.load memoryless identity).mapError

theorem neutral_compile (source : CommandSource) :
    SessionTask.Neutral compiler.server (compiler.compile source) := by
  refine SessionTask.Neutral.mapError ?_
  refine (neutral_ofTask memoryless _ (.ofExcept _)).bind fun command => ?_
  refine (neutral_catalog memoryless).bind fun catalog => ?_
  refine (neutral_ofTask memoryless _ (Command.steady_check memoryless command)).bind fun checked => ?_
  refine (neutral_ofTask memoryless _ (.ofExcept _)).bind fun lowered => ?_
  exact (neutral_ofTask memoryless _ (.tell _)).bind fun _ => .pure _

end Compiler

end RecordSql
