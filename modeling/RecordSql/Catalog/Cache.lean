import RecordSql.Catalog.Load

namespace RecordSql

structure CatalogIdentity where
  address : String
  database : String
  deriving DecidableEq, Repr

namespace CatalogIdentity

def text (identity : CatalogIdentity) : String := identity.database ++ "@" ++ identity.address

def probe (server : Server) (address : String) : Task CatalogError CatalogIdentity := do
  return ⟨address, ← Catalog.currentDatabase server⟩

end CatalogIdentity

/-- The catalogues of databases. A database has a slot from the first time that its catalogue is asked
for, and the slot is empty until the catalogue has been read or put there. -/
structure CatalogCache where
  slots : List (CatalogIdentity × Option Catalog) := []
  distinct : (slots.map Prod.fst).Nodup := by simp
  deriving Repr

namespace CatalogCache

def get? (cache : CatalogCache) (identity : CatalogIdentity) : Option Catalog :=
  (cache.slots.lookup identity).join

def reserve (cache : CatalogCache) (identity : CatalogIdentity) : CatalogCache :=
  if taken : identity ∈ cache.slots.map Prod.fst then cache
  else
    { slots := cache.slots ++ [(identity, none)]
      distinct := by
        rw [List.map_append, List.nodup_append]
        refine ⟨cache.distinct, by simp, ?_⟩
        intro key held other single same
        rw [same, List.mem_singleton.mp single] at held
        exact taken held }

def insert (cache : CatalogCache) (identity : CatalogIdentity) (catalog : Catalog) : CatalogCache where
  slots := (cache.reserve identity).slots.map fun slot =>
    (slot.1, if slot.1 = identity then some catalog else slot.2)
  distinct := by
    rw [List.map_map]
    exact (cache.reserve identity).distinct

def size (cache : CatalogCache) : Nat := cache.slots.countP fun slot => slot.2.isSome

end CatalogCache

structure Session where
  cache : CatalogCache := {}
  transcript : Transcript := {}
  deriving Repr

/-- A task that may read catalogues. One that was read stays with the session, whatever fails after. -/
abbrev SessionTask (ε α : Type) := ExceptT ε (StateM Session) α

namespace SessionTask

variable {ε ε' α : Type}

def outcome (task : SessionTask ε α) (before : Session) : Except ε α × Session :=
  (ExceptT.run task).run before

def mapError (f : ε → ε') (task : SessionTask ε α) : SessionTask ε' α :=
  ExceptT.mk do return (← ExceptT.run task).mapError f

def ofTask (task : Task ε α) : SessionTask ε α := ExceptT.mk do
  let session ← get
  let (result, transcript) := task.outcome session.transcript
  set { session with transcript }
  return result

/-- The outcome as a value, so that a failure does not end what comes after. -/
def attempt (task : SessionTask ε α) : SessionTask ε (Except ε α) := ExceptT.mk do
  return .ok (← ExceptT.run task)

def updateCache (change : CatalogCache → CatalogCache) : SessionTask ε Unit :=
  modify fun session => { session with cache := change session.cache }

end SessionTask

/-- The catalogue of an identity, which is read from the server only if none is held. It is held from
then on; nothing is kept of a catalogue that cannot be read but its empty slot. -/
def CatalogCache.load (server : Server) (identity : CatalogIdentity) :
    SessionTask CatalogError Catalog := do
  SessionTask.updateCache fun cache => cache.reserve identity
  match (← get).cache.get? identity with
  | some catalog =>
    SessionTask.ofTask (Task.tell (.catalogHit identity.database))
    return catalog
  | none =>
    let catalog ← SessionTask.ofTask (Catalog.load server)
    SessionTask.ofTask (Task.tell (.catalogLoaded identity.database catalog.counts))
    SessionTask.updateCache fun cache => cache.insert identity catalog
    return catalog

end RecordSql
