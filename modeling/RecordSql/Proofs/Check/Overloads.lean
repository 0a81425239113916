import RecordSql.Proofs.Check.Comparisons

/-!
The choice among the overloads of a function. The first one listed that takes a value of the type is
chosen, an exact one as well as one that needs a cast; so the choice is the same in every order just
where all of them have the same result.
-/
namespace RecordSql

namespace Catalog

variable {catalog : Catalog} {rows : List (String × CatalogProcedure)} {func : String} {arg result : Oid}
  {procedure : CatalogProcedure}

def listing (catalog : Catalog) (rows : List (String × CatalogProcedure)) : Catalog :=
  { catalog with procedureRows := rows }

def overloads (catalog : Catalog) (func : String) (arg : Oid) : List CatalogProcedure :=
  (catalog.procedures func).filter fun procedure => catalog.accepts procedure arg

/-- All overloads that take a value of the type have the same result. -/
def Unambiguous (catalog : Catalog) (func : String) (arg : Oid) : Prop :=
  ∀ one ∈ catalog.overloads func arg, ∀ other ∈ catalog.overloads func arg, one.result = other.result

instance (func : String) (arg : Oid) : Decidable (catalog.Unambiguous func arg) :=
  inferInstanceAs (Decidable (∀ one ∈ catalog.overloads func arg,
    ∀ other ∈ catalog.overloads func arg, one.result = other.result))

theorem accepts_listing : (catalog.listing rows).accepts procedure arg = catalog.accepts procedure arg :=
  rfl

theorem mem_procedures : procedure ∈ catalog.procedures func ↔ (func, procedure) ∈ catalog.procedureRows := by
  simp [procedures]

theorem procedures_listing_cons : (catalog.listing ((func, procedure) :: rows)).procedures func =
    procedure :: (catalog.listing rows).procedures func := by
  simp [procedures, listing]

theorem mem_overloads : procedure ∈ catalog.overloads func arg ↔
    (func, procedure) ∈ catalog.procedureRows ∧ catalog.accepts procedure arg = true := by
  rw [overloads, List.mem_filter, mem_procedures]

theorem procedureResult?_eq_head? : catalog.procedureResult? func arg =
    (catalog.overloads func arg).head?.map CatalogProcedure.result := by
  rw [procedureResult?, overloads, List.head?_filter]

theorem procedureResult?_eq_none :
    catalog.procedureResult? func arg = none ↔ catalog.overloads func arg = [] := by
  rw [procedureResult?_eq_head?, Option.map_eq_none_iff, List.head?_eq_none_iff]

theorem mem_overloads_of_procedureResult? (chosen : catalog.procedureResult? func arg = some result) :
    ∃ procedure ∈ catalog.overloads func arg, procedure.result = result := by
  rw [procedureResult?_eq_head?] at chosen
  obtain ⟨procedure, first, same⟩ := Option.map_eq_some_iff.mp chosen
  exact ⟨procedure, List.mem_of_head? first, same⟩

theorem mem_overloads_listing (reordered : rows.Perm catalog.procedureRows) :
    procedure ∈ (catalog.listing rows).overloads func arg ↔ procedure ∈ catalog.overloads func arg := by
  rw [mem_overloads, mem_overloads]
  exact and_congr_left fun _ => reordered.mem_iff

theorem procedureResult?_listing_isSome (reordered : rows.Perm catalog.procedureRows) :
    ((catalog.listing rows).procedureResult? func arg).isSome =
      (catalog.procedureResult? func arg).isSome := by
  have none_iff : (catalog.listing rows).procedureResult? func arg = none ↔
      catalog.procedureResult? func arg = none := by
    simp only [procedureResult?_eq_none, List.eq_nil_iff_forall_not_mem,
      mem_overloads_listing reordered]
  rw [Bool.eq_iff_iff, Option.isSome_iff_ne_none, Option.isSome_iff_ne_none, ne_eq, ne_eq, none_iff]

/-- Every overload that takes the type is the first of them in some order. -/
theorem exists_listing_chooses (member : procedure ∈ catalog.overloads func arg) :
    ∃ rows, rows.Perm catalog.procedureRows ∧
      (catalog.listing rows).procedureResult? func arg = some procedure.result := by
  obtain ⟨listed, accepted⟩ := mem_overloads.mp member
  refine ⟨(func, procedure) :: catalog.procedureRows.erase (func, procedure),
    (List.perm_cons_erase listed).symm, ?_⟩
  simp [procedureResult?, procedures_listing_cons, accepts_listing, accepted]

theorem chosen_in_every_order_iff : (∀ rows, rows.Perm catalog.procedureRows →
      (catalog.listing rows).procedureResult? func arg = some result) ↔
    catalog.overloads func arg ≠ [] ∧
      ∀ procedure ∈ catalog.overloads func arg, procedure.result = result := by
  constructor
  · intro every
    constructor
    · intro none
      have here := every catalog.procedureRows (List.Perm.refl _)
      exact absurd (here.symm.trans (procedureResult?_eq_none.mpr none)) (by simp)
    · intro procedure member
      obtain ⟨rows, reordered, chosen⟩ := exists_listing_chooses member
      rw [every rows reordered] at chosen
      exact (Option.some.inj chosen).symm
  · rintro ⟨present, only⟩ rows reordered
    obtain ⟨procedure, member⟩ := List.exists_mem_of_ne_nil _ present
    have found : (catalog.listing rows).procedureResult? func arg ≠ none := by
      rw [ne_eq, procedureResult?_eq_none]
      exact List.ne_nil_of_mem ((mem_overloads_listing reordered).mpr member)
    obtain ⟨other, chosen⟩ := Option.ne_none_iff_exists'.mp found
    obtain ⟨taken, inside, same⟩ := mem_overloads_of_procedureResult? chosen
    rw [chosen, ← same, only taken ((mem_overloads_listing reordered).mp inside)]

theorem same_in_every_order_iff : (∀ rows, rows.Perm catalog.procedureRows →
      (catalog.listing rows).procedureResult? func arg = catalog.procedureResult? func arg) ↔
    catalog.Unambiguous func arg := by
  cases chosen : catalog.procedureResult? func arg with
  | none =>
    have empty := procedureResult?_eq_none.mp chosen
    refine iff_of_true ?_ (by simp [Unambiguous, empty])
    intro rows reordered
    have found : ((catalog.listing rows).procedureResult? func arg).isSome =
        (catalog.procedureResult? func arg).isSome := procedureResult?_listing_isSome reordered
    rwa [chosen, Option.isSome_none, Option.isSome_eq_false_iff, Option.isNone_iff_eq_none] at found
  | some result =>
    obtain ⟨taken, member, same⟩ := mem_overloads_of_procedureResult? chosen
    rw [chosen_in_every_order_iff]
    constructor
    · rintro ⟨_, only⟩ one oneMember other otherMember
      rw [only one oneMember, only other otherMember]
    · intro agree
      refine ⟨List.ne_nil_of_mem member, ?_⟩
      intro procedure inside
      rw [agree procedure inside taken member, same]

end Catalog

end RecordSql
