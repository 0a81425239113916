import RecordSql.Proofs.Check.Joins
import RecordSql.Proofs.Statement.Lowering

namespace RecordSql

namespace RelationSet

variable {set : RelationSet} {key : String} {relation added : Relation}

/-- The keys are distinct, and each leads to its relation. -/
structure WellKeyed (set : RelationSet) : Prop where
  distinct : set.keys.Nodup
  found : ∀ relation ∈ set.relations, set.registered? relation.key = some relation

theorem wellKeyed_empty : WellKeyed {} := ⟨by simp [keys], by simp⟩

theorem target?_isSome_of_registered (found : set.registered? key = some relation) :
    set.target?.isSome = true := by
  unfold registered? at found
  split at found
  · rw [found]
    rfl
  · have member := (get?_eq_some found).1
    cases first : set.target? with
    | some target => rfl
    | none =>
      rw [target?, List.head?_eq_none_iff] at first
      rw [first] at member
      cases member

theorem target?_push : (set.push added).target? = (set.target? <|> some added) := by
  cases set with
  | mk relations => cases relations <;> rfl

theorem registered?_push (key : String) : (set.push added).registered? key =
    (set.registered? key <|> (some added).filter fun relation => key.isEmpty || relation.key == key) := by
  unfold registered?
  split
  · rename_i empty
    rw [target?_push, Option.filter_some, empty]
    rfl
  · rename_i filled
    rw [get?, push, List.find?_append, Option.or_eq_orElse, List.find?_singleton, Option.filter_some,
      eq_false_of_ne_true filled, Bool.false_or]
    rfl

theorem WellKeyed.push (keyed : set.WellKeyed) (free : set.registered? added.key = none) :
    (set.push added).WellKeyed where
  distinct := nodup_keys_push keyed.distinct (get?_of_registered?_eq_none free)
  found relation member := by
    rcases List.mem_append.mp member with earlier | last
    · rw [registered?_push, keyed.found relation earlier]
      rfl
    · rw [List.mem_singleton.mp last, registered?_push, free]
      simp

end RelationSet

namespace RelationLoader

variable {loader last : RelationLoader} {server : Server} {ref : RelationRef} {before after : Transcript}
  {relation : Relation}

/-- Nothing is asked for a key that is registered. -/
theorem load_of_registered (server : Server) (before : Transcript)
    (found : loader.relations.registered? ref.key = some relation) :
    loader.load server ref before = (.ok relation, loader, before) := by
  unfold load RelationSet.load
  rw [found]
  rfl

inductive Loads (loader : RelationLoader) (ref : RelationRef) :
    Except CheckError Relation × RelationLoader × Transcript → Prop
  | refused (failure : CheckError) (after : Transcript) : Loads loader ref (.error failure, loader, after)
  | registered {relation : Relation} (after : Transcript) : ref.Names loader.space relation →
    Loads loader ref (.ok relation, { loader with relations := loader.relations.push relation }, after)

theorem loads_of_free (server : Server) (before : Transcript)
    (free : loader.relations.registered? ref.key = none) :
    loader.Loads ref (loader.load server ref before) := by
  unfold load
  split
  · rename_i relation relations after ran
    have returns : (loader.relations.load ⟨server, loader.catalog, loader.space⟩ ref).Returns
        (relation, relations) := ⟨before, by rw [ran]⟩
    obtain ⟨rfl, names⟩ := RelationSet.push_of_load free returns
    exact .registered after names
  · exact .refused _ _

theorem load_of_error {failure : CheckError}
    (failed : (loader.load server ref before).1 = .error failure) :
    (loader.load server ref before).2.1 = loader := by
  cases found : loader.relations.registered? ref.key with
  | some relation =>
    rw [load_of_registered server before found] at failed
    cases failed
  | none =>
    have loads := loads_of_free server before found
    revert failed loads
    generalize loader.load server ref before = outcome
    intro failed loads
    cases loads with
    | refused => rfl
    | registered => cases failed

theorem load_keeps (keyed : loader.relations.WellKeyed) (server : Server) (ref : RelationRef)
    (before : Transcript) :
    (loader.load server ref before).2.1.relations.WellKeyed ∧
      (loader.load server ref before).2.1.relations.target? =
        (loader.relations.target? <|> (loader.load server ref before).1.toOption) := by
  cases found : loader.relations.registered? ref.key with
  | some relation =>
    rw [load_of_registered server before found]
    obtain ⟨target, first⟩ := Option.isSome_iff_exists.mp (RelationSet.target?_isSome_of_registered found)
    exact ⟨keyed, by simp [first]⟩
  | none =>
    have loads := loads_of_free server before found
    generalize loader.load server ref before = outcome at loads
    cases loads with
    | refused failure after => exact ⟨keyed, by simp [Except.toOption]⟩
    | registered after names => exact ⟨keyed.push (names.key_eq ▸ found), RelationSet.target?_push⟩

theorem run_keeps {calls : List (Server × RelationRef)} {results : List (Except CheckError Relation)}
    (keyed : loader.relations.WellKeyed) (ran : loader.run before calls = (results, last, after)) :
    last.relations.WellKeyed ∧
      last.relations.target? = (loader.relations.target? <|> (results.filterMap Except.toOption).head?) := by
  induction calls generalizing loader before results with
  | nil =>
    cases ran
    exact ⟨keyed, by simp⟩
  | cons call calls ih =>
    obtain ⟨server, ref⟩ := call
    obtain ⟨nextKeyed, nextTarget⟩ := load_keeps keyed server ref before
    simp only [run, Prod.mk.injEq] at ran
    obtain ⟨rfl, rfl, rfl⟩ := ran
    obtain ⟨lastKeyed, lastTarget⟩ := ih nextKeyed rfl
    refine ⟨lastKeyed, ?_⟩
    rw [lastTarget, nextTarget]
    cases (loader.load server ref before).1 with
    | error failure =>
      rw [filterMap_toOption_error]
      cases loader.relations.target? <;> rfl
    | ok relation =>
      rw [filterMap_toOption_ok]
      cases loader.relations.target? <;> rfl

end RelationLoader

/-- After any loads the keys are distinct, each is that of the relation found under it, and the target is
what the first success gave. From there a load that fails changes nothing, and one of a registered key
asks nothing. A command that was checked has loaded its target and its joins, in this order. -/
theorem relations_registered :
    (∀ (catalog : Catalog) (space : String) (before : Transcript) (calls : List (Server × RelationRef))
      results loader after,
      RelationLoader.run { catalog, space } before calls = (results, loader, after) →
        loader.relations.keys.Nodup ∧
        (∀ relation ∈ loader.relations.relations,
          loader.relations.registered? relation.key = some relation) ∧
        loader.relations.target? = (results.filterMap Except.toOption).head? ∧
        (∀ server ref asked failure, (loader.load server ref asked).1 = .error failure →
          (loader.load server ref asked).2.1 = loader) ∧
        ∀ server ref asked relation, loader.relations.registered? ref.key = some relation →
          loader.load server ref asked = (.ok relation, loader, asked)) ∧
    ∀ (database : Database) (command : Command) (checked : CheckedCommand),
      (command.check database).Returns checked →
        checked.relations.size = 1 + command.joinItems.length ∧
        List.Forall₂ (fun ref relation => ref.Names database.space relation)
          (command.record.relation :: command.joinItems.map JoinItem.relation)
          checked.relations.relations := by
  constructor
  · intro catalog space before calls results loader after ran
    obtain ⟨keyed, target⟩ := RelationLoader.run_keeps RelationSet.wellKeyed_empty ran
    refine ⟨keyed.distinct, keyed.found, target.trans ?_, ?_, ?_⟩
    · simp [RelationSet.target?]
    · exact fun server ref asked failure failed => RelationLoader.load_of_error failed
    · exact fun server ref asked relation found => RelationLoader.load_of_registered server asked found
  · intro database command checked returned
    obtain ⟨scope, first, known, fits⟩ := Command.fits_of_check returned
    exact ⟨by rw [fits.size_eq, Nat.add_comm], fits.relations_named⟩

def refusingServer : Server where
  answer _ _ := .error (.connect "connection refused")

def mixedLoads : List (Server × RelationRef) :=
  [(refusingServer, { name := "users" }), (blog.server, { name := "users", aliasName := some "u" }),
   (blog.server, { name := "comments" }), (refusingServer, { name := "posts", aliasName := some "u" }),
   (blog.server, { qualifier := some "public", name := "posts" })]

theorem relations_registered_mixedLoads :
    ∃ results loader after, ∃ (command : Command) (checked : CheckedCommand),
      RelationLoader.run { catalog := Standard.catalog } {} mixedLoads = (results, loader, after) ∧
      results.map (fun result => result.toOption.map Relation.name) =
        [none, some "users", none, some "users", some "posts"] ∧
      after.queries.length = 10 ∧ loader.relations.keys = ["u", "posts"] ∧
      loader.relations.keys.Nodup ∧
      loader.relations.target? = (results.filterMap Except.toOption).head? ∧
      (command.check blog).Returns checked ∧ checked.relations.size = 1 + command.joinItems.length := by
  have facts : (fun ran : List (Except CheckError Relation) × RelationLoader × Transcript =>
      ran.1.map (fun result => result.toOption.map Relation.name) =
          [none, some "users", none, some "users", some "posts"] ∧
        ran.2.2.queries.length = 10 ∧ ran.2.1.relations.keys = ["u", "posts"])
      (RelationLoader.run { catalog := Standard.catalog } {} mixedLoads) := by decide +kernel
  obtain ⟨command, checked, _, _, _, _, accepted, _⟩ := renameAuthors_accepted
  cases ran : RelationLoader.run { catalog := Standard.catalog } {} mixedLoads with
  | mk results rest =>
    obtain ⟨loader, after⟩ := rest
    rw [ran] at facts
    obtain ⟨names, queries, keys⟩ := facts
    obtain ⟨distinct, _, target, _⟩ := relations_registered.1 _ _ _ _ results loader after ran
    exact ⟨results, loader, after, command, checked, rfl, names, queries, keys, distinct, target,
      accepted.check, (relations_registered.2 blog command checked accepted.check).1⟩

end RecordSql
