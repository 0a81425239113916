import Mathlib.Algebra.Group.Int.Defs
import RecordSql.Proofs.Outcome
import RecordSql.Relation.Load

namespace RecordSql

def HasBits (bits : Nat) (value : Int) : Prop := -2 ^ (bits - 1) ≤ value ∧ value < 2 ^ (bits - 1)

instance (bits : Nat) (value : Int) : Decidable (HasBits bits value) :=
  inferInstanceAs (Decidable (_ ∧ _))

theorem liftConnection_eq_ok {α : Type} {result : Except ConnectionError α} {value : α} :
    (liftM result : Except CatalogError α) = .ok value ↔ result = .ok value := mapError_eq_ok

theorem liftCatalog_eq_ok {α : Type} {result : Except CatalogError α} {value : α} :
    (liftM result : Except CheckError α) = .ok value ↔ result = .ok value := mapError_eq_ok

def Cell.number? : Cell → Option Int
  | int value => some value
  | oid value => some value
  | _ => none

namespace Row

variable {row : Row} {index : Nat}

def number? (row : Row) (index : Nat) : Option Int := row.cells[index]?.bind Cell.number?

def Holds (row : Row) (index bits : Nat) (value : Int) : Prop :=
  row.number? index = some value ∧ HasBits bits value

/-- The cell holds the number of an object. As an integer it must be one of 32 bits without a sign. -/
def HoldsOid (row : Row) (index : Nat) (oid : Oid) : Prop :=
  row.cells[index]? = some (.oid oid) ∨ row.cells[index]? = some (.int oid) ∧ oid < 4294967296

/-- The cell holds the numbers, each of 16 bits. A missing array holds none. -/
def HoldsOrdinals (row : Row) (index : Nat) (values : List Int) : Prop :=
  (row.cells[index]? = some (.intArray values) ∨ row.cells[index]? = some .null ∧ values = []) ∧
    ∀ value ∈ values, HasBits 16 value

theorem cell_eq_ok {cell : Cell} : row.cell index = .ok cell ↔ row.cells[index]? = some cell := by
  unfold Row.cell
  cases row.cells[index]? <;> simp

theorem bool_eq_ok {value : Bool} :
    row.bool index = .ok value ↔ row.cells[index]? = some (.bool value) := by
  unfold Row.bool
  simp only [bind_eq_ok, cell_eq_ok]
  constructor
  · rintro ⟨cell, found, read⟩
    cases cell <;> cases read
    exact found
  · exact fun found => ⟨_, found, rfl⟩

theorem text_eq_ok {value : String} :
    row.text index = .ok value ↔ row.cells[index]? = some (.text value) := by
  unfold Row.text
  simp only [bind_eq_ok, cell_eq_ok]
  constructor
  · rintro ⟨cell, found, read⟩
    cases cell <;> cases read
    exact found
  · exact fun found => ⟨_, found, rfl⟩

theorem char_eq_ok {value : Char} :
    row.char index = .ok value ↔ row.cells[index]? = some (.text (String.singleton value)) := by
  unfold Row.char
  simp only [bind_eq_ok, text_eq_ok]
  constructor
  · rintro ⟨text, found, read⟩
    split at read
    · rename_i c only
      cases pure_eq_ok.mp read
      rw [found, ← String.ofList_toList (s := text), only, String.singleton_eq_ofList]
    · cases read
  · intro found
    refine ⟨_, found, ?_⟩
    rw [String.toList_singleton]
    rfl

theorem int_eq_ok {value : Int} : row.int index = .ok value ↔ row.number? index = some value := by
  unfold Row.int number?
  simp only [bind_eq_ok, cell_eq_ok, Option.bind_eq_some_iff]
  refine exists_congr fun cell => and_congr_right fun _ => ?_
  cases cell <;> simp [Cell.number?, mismatch, pure_eq_ok]

theorem oid_eq_ok {value : Oid} : row.oid index = .ok value ↔ row.HoldsOid index value := by
  unfold Row.oid HoldsOid
  simp only [bind_eq_ok, cell_eq_ok]
  constructor
  · rintro ⟨cell, found, read⟩
    cases cell with
    | oid other =>
      cases pure_eq_ok.mp read
      exact .inl found
    | int number =>
      dsimp only at read
      split at read
      · rename_i within
        cases pure_eq_ok.mp read
        have small : number.toNat < 4294967296 := by omega
        exact .inr ⟨by rw [found, Int.toNat_of_nonneg within.1], small⟩
      · cases read
    | _ => cases read
  · rintro (found | ⟨found, within⟩)
    · exact ⟨_, found, rfl⟩
    · have fits : 0 ≤ (value : Int) ∧ (value : Int) < 4294967296 :=
        ⟨Int.natCast_nonneg value, Int.ofNat_lt.mpr within⟩
      refine ⟨_, found, ?_⟩
      dsimp only
      rw [if_pos fits]
      rfl

theorem ranged_eq_ok {bits : Nat} {low high value : Int} {failure : Int → CatalogError}
    (lowest : low = -2 ^ (bits - 1)) (highest : high = 2 ^ (bits - 1)) :
    ((liftM (row.int index) : Except CatalogError Int) >>= fun number =>
      if low ≤ number ∧ number < high then pure number else throw (failure number)) = .ok value ↔
      row.Holds index bits value := by
  unfold Holds HasBits
  rw [← lowest, ← highest]
  simp only [bind_eq_ok, liftConnection_eq_ok, int_eq_ok, ite_throw_right, pure_eq_ok]
  constructor
  · rintro ⟨_, held, within, rfl⟩
    exact ⟨held, within⟩
  · rintro ⟨held, within⟩
    exact ⟨value, held, within, rfl⟩

theorem smallInt_eq_ok {query field : String} {value : Int} :
    row.smallInt index query field = .ok value ↔ row.Holds index 16 value :=
  ranged_eq_ok (by decide) (by decide)

theorem columnInt_eq_ok {value : Int} : row.columnInt index = .ok value ↔ row.Holds index 32 value :=
  ranged_eq_ok (by decide) (by decide)

theorem intArray_eq_ok {values : List Int} : row.intArray index = .ok values ↔
    row.cells[index]? = some (.intArray values) ∨ row.cells[index]? = some .null ∧ values = [] := by
  unfold Row.intArray
  simp only [bind_eq_ok, cell_eq_ok]
  constructor
  · rintro ⟨cell, found, read⟩
    cases cell with
    | intArray others =>
      cases pure_eq_ok.mp read
      exact .inl found
    | null =>
      cases pure_eq_ok.mp read
      exact .inr ⟨found, rfl⟩
    | _ => cases read
  · rintro (found | ⟨found, rfl⟩) <;> exact ⟨_, found, rfl⟩

theorem ordinalOf_eq_ok {field : String} {value ordinal : Int} :
    ordinalOf field value = .ok ordinal ↔ HasBits 16 value ∧ value = ordinal := by
  unfold ordinalOf HasBits
  split
  · simp only [Except.ok.injEq]
    exact ⟨fun same => ⟨by omega, same⟩, And.right⟩
  · simp only [reduceCtorEq, false_iff]
    omega

theorem ordinals_eq_ok {field : String} {values : List Int} :
    row.ordinals index field = .ok values ↔ row.HoldsOrdinals index values := by
  unfold ordinals HoldsOrdinals
  simp only [bind_eq_ok, liftConnection_eq_ok, mapM_eq_ok, ordinalOf_eq_ok, List.forall₂_and_left,
    List.forall₂_eq_eq_eq, intArray_eq_ok]
  constructor
  · rintro ⟨_, held, within, rfl⟩
    exact ⟨held, within⟩
  · rintro ⟨held, within⟩
    exact ⟨values, held, within, rfl⟩

end Row

end RecordSql
