import RecordSql.Proofs.Catalog.Cache
import RecordSql.Proofs.Memory.Catalog

/-!
The cache of catalogues through any sequence of calls. What it holds for a database is what was put there
last, or what the first load read that succeeded. A load that fails leaves nothing behind that a later
call could tell, although its slot stays.
-/
namespace RecordSql

inductive CacheCall where
  | load (server : Server) (identity : CatalogIdentity)
  | insert (identity : CatalogIdentity) (catalog : Catalog)
  | get (identity : CatalogIdentity)
  | size

inductive CacheReply where
  | loaded (result : Except CatalogError Catalog)
  | inserted (catalog : Catalog)
  | found (held : Option Catalog)
  | counted (size : Nat)

def CacheCall.run : CacheCall → Session → CacheReply × Session
  | load server identity, before =>
    let (result, after) := (CatalogCache.load server identity).outcome before
    (.loaded result, after)
  | insert identity catalog, before =>
    (.inserted catalog, { before with cache := before.cache.insert identity catalog })
  | get identity, before => (.found (before.cache.get? identity), before)
  | size, before => (.counted before.cache.size, before)

/-- The calls that were made, with their replies, and the session after them. -/
structure CacheRun where
  history : List (CacheCall × CacheReply) := []
  session : Session := {}

/-- What a call publishes for an identity for which something or nothing was published before. Of loads only
the first counts, and only if it succeeds. -/
def CacheCall.publish (identity : CatalogIdentity) (held : Option Catalog) :
    CacheCall × CacheReply → Option Catalog
  | (load _ target, .loaded (.ok catalog)) => if target = identity then held.or catalog else held
  | (insert target catalog, _) => if target = identity then some catalog else held
  | _ => held

namespace CacheRun

def step (run : CacheRun) (call : CacheCall) : CacheRun where
  history := run.history ++ [(call, (call.run run.session).1)]
  session := (call.run run.session).2

def ofCalls (transcript : Transcript) (calls : List CacheCall) : CacheRun :=
  calls.foldl step { session := { transcript } }

/-- The catalogue that the calls so far have published for an identity. -/
def published (run : CacheRun) (identity : CatalogIdentity) : Option Catalog :=
  run.history.foldl (CacheCall.publish identity) none

theorem ofCalls_concat (transcript : Transcript) (calls : List CacheCall) (call : CacheCall) :
    ofCalls transcript (calls ++ [call]) = (ofCalls transcript calls).step call := by
  simp [ofCalls]

theorem published_step (run : CacheRun) (call : CacheCall) (identity : CatalogIdentity) :
    (run.step call).published identity =
      CacheCall.publish identity (run.published identity) (call, (call.run run.session).1) := by
  simp [published, step]

end CacheRun

/-- How a load goes, by what is held for the identity: a hit asks nothing and changes nothing; a read
asks the five queries and keeps the whole catalogue; a failed read changes nothing. -/
inductive CatalogCache.Loads (server : Server) (identity : CatalogIdentity) (before : Session) :
    Option Catalog → Except CatalogError Catalog → Session → Prop
  | hit {catalog : Catalog} {cache : CatalogCache}
      (kept : ∀ other, cache.get? other = before.cache.get? other)
      (sameSize : cache.size = before.cache.size) :
      Loads server identity before (some catalog) (.ok catalog)
        ⟨cache, before.transcript.telling (.catalogHit identity.database)⟩
  | read {version : Int} {catalog : Catalog} {cache : CatalogCache}
      (told : Catalog.Tells server before.transcript.queries version catalog)
      (published : ∀ other, cache.get? other =
        if other = identity then some catalog else before.cache.get? other)
      (oneMore : cache.size = before.cache.size + 1) :
      Loads server identity before none (.ok catalog)
        ⟨cache, (before.transcript.asking (Catalog.loadQueries version)).telling
          (.catalogLoaded identity.database catalog.counts)⟩
  | failed {version : Int} {count : Nat} {failure : CatalogError} {cache : CatalogCache}
      (untold : ∀ version catalog, ¬ Catalog.Tells server before.transcript.queries version catalog)
      (kept : ∀ other, cache.get? other = before.cache.get? other)
      (sameSize : cache.size = before.cache.size) :
      Loads server identity before none (.error failure)
        ⟨cache, before.transcript.asking ((Catalog.loadQueries version).take (count + 1))⟩

namespace CatalogCache

variable {server : Server} {identity : CatalogIdentity} {before : Session}

theorem load_loads (server : Server) (identity : CatalogIdentity) (before : Session) :
    Loads server identity before (before.cache.get? identity)
      ((load server identity).outcome before).1 ((load server identity).outcome before).2 := by
  have kept (other : CatalogIdentity) :
      (before.cache.reserve identity).get? other = before.cache.get? other := get?_reserve
  cases found : before.cache.get? identity with
  | some catalog =>
    rw [load_of_held found]
    exact .hit kept (size_congr kept)
  | none =>
    rw [load_of_absent found]
    cases outcome : (Catalog.load server).outcome before.transcript with
    | mk result after =>
      cases result with
      | ok catalog =>
        obtain ⟨version, told, rfl⟩ := Catalog.load_eq_ok.mp outcome
        refine .read told (fun other => ?_) ?_
        · rw [get?_insert, kept]
        · rw [size_insert (get?_reserve.trans found), size_congr kept]
      | error failure =>
        obtain ⟨version, count, rfl⟩ := Catalog.load_eq_error outcome
        refine .failed (fun version catalog told => ?_) kept (size_congr kept)
        have read := Catalog.load_eq_ok.mpr ⟨version, told, rfl⟩
        rw [outcome] at read
        cases read

theorem get?_call (call : CacheCall) (before : Session) (identity : CatalogIdentity) :
    (call.run before).2.cache.get? identity =
      CacheCall.publish identity (before.cache.get? identity) (call, (call.run before).1) := by
  cases call with
  | load server target =>
    have loads := load_loads server target before
    simp only [CacheCall.run]
    generalize (load server target).outcome before = outcome at loads ⊢
    obtain ⟨result, after⟩ := outcome
    generalize found : before.cache.get? target = held at loads
    cases loads with
    | hit kept _ =>
      by_cases same : target = identity
      · subst same
        simp [CacheCall.publish, kept, found]
      · simp [CacheCall.publish, kept, same]
    | read _ published _ =>
      by_cases same : target = identity
      · subst same
        simp [CacheCall.publish, published, found]
      · simp [CacheCall.publish, published, same, Ne.symm same]
    | failed _ kept _ => exact kept identity
  | insert target catalog =>
    simp only [CacheCall.run, get?_insert, CacheCall.publish, eq_comm (a := identity)]
  | get target => rfl
  | size => rfl

theorem get?_ofCalls (transcript : Transcript) (calls : List CacheCall) (identity : CatalogIdentity) :
    (CacheRun.ofCalls transcript calls).session.cache.get? identity =
      (CacheRun.ofCalls transcript calls).published identity := by
  induction calls using List.reverseRecOn with
  | nil => rfl
  | append_singleton calls call ih =>
    rw [CacheRun.ofCalls_concat, CacheRun.published_step, ← ih]
    exact get?_call call _ identity

namespace Loads

variable {result : Except CatalogError Catalog} {after : Session} {catalog : Catalog}

theorem error_of_untold (loads : Loads server identity before none result after)
    (untold : ∀ version catalog, ¬ Catalog.Tells server before.transcript.queries version catalog) :
    ∃ failure, result = .error failure := by
  cases loads with
  | read told _ _ => exact absurd told (untold _ _)
  | failed _ _ _ => exact ⟨_, rfl⟩

theorem ok_of_tells {version : Int} (loads : Loads server identity before none result after)
    (tells : Catalog.Tells server before.transcript.queries version catalog) :
    result = .ok catalog ∧
      after.transcript.queries = before.transcript.queries ++ Catalog.loadQueries version := by
  cases loads with
  | read told _ _ =>
    obtain ⟨rfl, queries⟩ := tells.unique told
    exact ⟨rfl, by simp [Transcript.telling, queries]⟩
  | failed untold _ _ => exact absurd tells (untold _ _)

theorem ok_of_held (loads : Loads server identity before (some catalog) result after) :
    result = .ok catalog ∧ after.transcript.queries = before.transcript.queries := by
  cases loads with
  | hit _ _ => exact ⟨rfl, rfl⟩

end Loads

/-- Through any calls, a cache answers from what was published: it finds that, it counts the identities
that have it, and a load returns it or else reads a whole catalogue or fails. -/
theorem answers_from_published (transcript : Transcript) (calls : List CacheCall) :
    let run := CacheRun.ofCalls transcript calls
    (∀ identity, (CacheCall.get identity).run run.session =
      (.found (run.published identity), run.session)) ∧
    (∃ count : Nat, {identity | (run.published identity).isSome}.encard = count ∧
      CacheCall.size.run run.session = (.counted count, run.session)) ∧
    ∀ server identity, ∃ result after,
      (CacheCall.load server identity).run run.session = (.loaded result, after) ∧
        Loads server identity run.session (run.published identity) result after := by
  have holds := get?_ofCalls transcript calls
  intro run
  refine ⟨fun identity => ?_, ⟨run.session.cache.size, ?_, rfl⟩, fun server identity => ?_⟩
  · rw [← holds]
    rfl
  · simp only [run, ← holds]
    exact encard_held _
  · refine ⟨_, _, rfl, ?_⟩
    rw [← holds]
    exact load_loads server identity run.session

def standardServer : Server := ({} : MemoryDatabase).server

theorem standardServer_tells (asked : List Query) :
    Catalog.Tells standardServer asked 160002 Standard.catalog :=
  MemoryDatabase.tells_catalog ⟨by decide, by decide +kernel⟩ (fun _ _ _ failing => by cases failing) asked

def failingServer : Server := ({ failing := some "SELECT o.oprname" } : MemoryDatabase).server

def crookedServer : Server where
  answer asked query :=
    if query = Catalog.castsQuery then .ok [⟨[.oid Oid.int8, .oid Oid.int4, .text "x"]⟩]
    else standardServer.answer asked query

theorem failingServer_untold (asked : List Query) (version : Int) (catalog : Catalog) :
    ¬ Catalog.Tells failingServer asked version catalog := by
  intro tells
  obtain ⟨rows, answered, _⟩ := tells.operators
  cases answered

theorem crookedServer_untold (asked : List Query) (version : Int) (catalog : Catalog) :
    ¬ Catalog.Tells crookedServer asked version catalog := by
  intro tells
  obtain ⟨rows, answered, each⟩ := tells.casts
  cases answered
  obtain ⟨cast, _, told⟩ := exists_right_of_forall₂ each List.mem_cons_self
  obtain ⟨c, code, context⟩ := told.context
  have spelled : "x" = String.singleton c := by simpa using code
  have same : 'x' = c := by simpa using congrArg String.toList spelled
  rw [← same] at context
  cases context

def appIdentity : CatalogIdentity := ⟨"localhost:5432", "app"⟩

def faultyLoads : List CacheCall := [.load failingServer appIdentity, .load crookedServer appIdentity]

theorem answers_from_published_faultyLoads :
    let faulty := CacheRun.ofCalls {} faultyLoads
    let run := faulty.step (.load standardServer appIdentity)
    (∀ identity, faulty.published identity = none) ∧
      CacheCall.size.run faulty.session = (.counted 0, faulty.session) ∧
      run.published appIdentity = some Standard.catalog ∧
      run.session.transcript.queries = faulty.session.transcript.queries ++ Catalog.loadQueries 160002 ∧
      ∃ after, (CacheCall.load crookedServer appIdentity).run run.session =
          (.loaded (.ok Standard.catalog), after) ∧
        after.transcript.queries = run.session.transcript.queries := by
  have fails (server : Server) (untold : ∀ asked version catalog, ¬ Catalog.Tells server asked version catalog)
      (calls : List CacheCall) (silent : ∀ identity, (CacheRun.ofCalls {} calls).published identity = none)
      (identity : CatalogIdentity) :
      (CacheRun.ofCalls {} (calls ++ [.load server appIdentity])).published identity = none := by
    obtain ⟨result, after, replied, loads⟩ := (answers_from_published {} calls).2.2 server appIdentity
    rw [silent] at loads
    obtain ⟨failure, rfl⟩ := loads.error_of_untold (untold _)
    rw [CacheRun.ofCalls_concat, CacheRun.published_step, silent, replied]
    rfl
  have silent : ∀ identity, (CacheRun.ofCalls {} faultyLoads).published identity = none :=
    fails crookedServer crookedServer_untold [.load failingServer appIdentity]
      (fails failingServer failingServer_untold [] fun _ => rfl)
  obtain ⟨-, ⟨count, size, counted⟩, loads⟩ := answers_from_published {} faultyLoads
  obtain ⟨-, -, again⟩ := answers_from_published {} (faultyLoads ++ [.load standardServer appIdentity])
  rw [CacheRun.ofCalls_concat] at again
  generalize CacheRun.ofCalls {} faultyLoads = faulty at silent size counted loads again ⊢
  have empty : count = 0 := by simpa [silent, eq_comm] using size
  obtain ⟨result, after, replied, read⟩ := loads standardServer appIdentity
  rw [silent] at read
  obtain ⟨rfl, queries⟩ := read.ok_of_tells (standardServer_tells _)
  intro _ run
  have published : run.published appIdentity = some Standard.catalog := by
    rw [CacheRun.published_step, replied, silent]
    rfl
  have session : run.session = after := congrArg Prod.snd replied
  obtain ⟨result, kept, answered, held⟩ := again crookedServer appIdentity
  rw [published] at held
  obtain ⟨rfl, quiet⟩ := held.ok_of_held
  exact ⟨silent, empty ▸ counted, published, session ▸ queries, kept, answered, quiet⟩

end CatalogCache

end RecordSql
