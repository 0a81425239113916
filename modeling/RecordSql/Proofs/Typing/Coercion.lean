import RecordSql.Memory.Standard
import RecordSql.Typing.Assignment

/-!
The adapter that leaves the conversion to the server. In both directions it is chosen where values of the
field are converted to the type of the column, which says nothing of the way back.
-/
namespace RecordSql

def BoundField.valueType (field : BoundField) : HostType := field.type.required.required

/-- Every value is taken for a column of texts, and for one whose type is not looked into. -/
def Column.TakesAll (column : Column) : Prop :=
  column.type.category = .string ∨ column.type.kind = .domain ∨ column.type.kind = .composite

instance (column : Column) : Decidable column.TakesAll := inferInstanceAs (Decidable (_ ∨ _ ∨ _))

namespace Catalog

/-- Values of the host type are converted to that of the column: as they are, each element to that of an
array, or as any sequence to an array of texts. -/
inductive ConvertsTo (catalog : Catalog) (column : Column) (type : HostType) : Prop
  | whole {candidate : Oid} : candidate ∈ fieldCandidates catalog type →
    coercible catalog column.type.oid candidate = true → ConvertsTo catalog column type
  | elements {target : CatalogType} {elem : HostType} {candidate : Oid} :
    arrayElement? catalog column.type = some target → type.elem? = some elem →
    candidate ∈ fieldCandidates catalog elem → coercible catalog target.oid candidate = true →
    ConvertsTo catalog column type
  | texts {target : CatalogType} : arrayElement? catalog column.type = some target →
    target.category = .string → type.isSequence = true → ConvertsTo catalog column type

def Becomes (catalog : Catalog) (source target : Oid) : Prop :=
  source = target ∨ catalog.castsOnAssignment target source = true

inductive ConvertsFrom (catalog : Catalog) (column : Column) (type : HostType) : Prop
  | whole {candidate : Oid} : candidate ∈ fieldCandidates catalog type →
    catalog.Becomes column.type.oid candidate → ConvertsFrom catalog column type
  | elements {source : CatalogType} {elem : HostType} {candidate : Oid} :
    arrayElement? catalog column.type = some source → type.elem? = some elem →
    candidate ∈ fieldCandidates catalog elem → catalog.Becomes source.oid candidate →
    ConvertsFrom catalog column type

/-- Values are taken for the column that it does not give back. -/
structure OneWay (catalog : Catalog) (column : Column) (type : HostType) : Prop where
  taken : column.TakesAll ∨ catalog.ConvertsTo column type
  kept : ¬ catalog.ConvertsFrom column type

end Catalog

variable {catalog : Catalog} {column : Column} {field : BoundField} {type : HostType} {direction : Direction}

theorem elementsCoercible_iff {element : Option CatalogType} :
    elementsCoercible catalog element type = true ↔ ∃ target elem, element = some target ∧
      type.elem? = some elem ∧ ∃ candidate ∈ fieldCandidates catalog elem,
        coercible catalog target.oid candidate = true := by
  unfold elementsCoercible
  cases element with
  | none => simp
  | some target =>
    cases type.elem? with
    | none => simp
    | some elem => simp

theorem canCoerce_iff :
    canCoerce catalog column type = true ↔ column.TakesAll ∨ catalog.ConvertsTo column type.required := by
  simp only [canCoerce, Bool.or_eq_true, Bool.and_eq_true, beq_iff_eq, List.any_eq_true, Option.any_eq_true,
    elementsCoercible_iff]
  constructor
  · rintro (((((string | domain) | composite) | ⟨⟨target, element, texts⟩, sequence⟩) |
      ⟨candidate, listed, fits⟩) | ⟨target, elem, element, elemType, candidate, listed, fits⟩)
    · exact .inl (.inl string)
    · exact .inl (.inr (.inl domain))
    · exact .inl (.inr (.inr composite))
    · exact .inr (.texts element texts sequence)
    · exact .inr (.whole listed fits)
    · exact .inr (.elements element elemType listed fits)
  · rintro ((string | domain | composite) | converted)
    · simp [string]
    · simp [domain]
    · simp [composite]
    · cases converted with
      | whole listed fits => exact .inl (.inr ⟨_, listed, fits⟩)
      | elements element elemType listed fits => exact .inr ⟨_, _, element, elemType, _, listed, fits⟩
      | texts element texts sequence => exact .inl (.inl (.inr ⟨⟨_, element, texts⟩, sequence⟩))

def ownAdapter? (column : Column) (field : BoundField) (direction : Direction) : Option Adapter :=
  let type := field.type.required
  if type.traits.converts direction then some .self
  else (documentAdapterFor? column field.options type direction).or
    (tableAdapter? column type.signature direction)

theorem documentAdapter?_ne_coerce {options : FieldOptions} {json : Bool} :
    documentAdapter? options direction json type ≠ some .coerce := by
  unfold documentAdapter?
  split <;> split <;> simp

theorem documentAdapterFor?_ne_coerce {options : FieldOptions} :
    documentAdapterFor? column options type direction ≠ some .coerce := by
  have elements : ∀ json, (type.elem?.bind fun elem => documentAdapter? options direction json elem.required) ≠
      some .coerce := by
    intro json
    cases type.elem? with
    | none => exact nofun
    | some elem => exact documentAdapter?_ne_coerce
  unfold documentAdapterFor?
  dsimp only
  split
  · exact documentAdapter?_ne_coerce
  · split
    · exact documentAdapter?_ne_coerce
    · split
      · exact elements true
      · split
        · exact elements false
        · exact nofun

theorem tableAdapter?_ne_coerce {signature : String} :
    tableAdapter? column signature direction ≠ some .coerce := by
  unfold tableAdapter?
  split
  · simp
  · split <;> simp

theorem ownAdapter?_ne_coerce : ownAdapter? column field direction ≠ some .coerce := by
  unfold ownAdapter?
  dsimp only
  split
  · exact nofun
  · intro chosen
    rcases Option.or_eq_some_iff.mp chosen with document | ⟨_, table⟩
    · exact documentAdapterFor?_ne_coerce document
    · exact tableAdapter?_ne_coerce table

theorem assignAdapter?_eq : assignAdapter? catalog column field direction =
    (ownAdapter? column field direction).or
      (if field.options.cast && canCoerce catalog column field.type.required then some .coerce else none) := by
  unfold assignAdapter? ownAdapter?
  dsimp only
  cases field.type.required.traits.converts direction with
  | true => rfl
  | false =>
    cases documentAdapterFor? column field.options field.type.required direction with
    | some adapter => rfl
    | none => cases tableAdapter? column field.type.required.signature direction <;> rfl

theorem assignAdapter?_eq_coerce (cast : field.options.cast = true) :
    assignAdapter? catalog column field direction = some .coerce ↔
      ownAdapter? column field direction = none ∧
        (column.TakesAll ∨ catalog.ConvertsTo column field.valueType) := by
  rw [assignAdapter?_eq, cast, Bool.true_and, BoundField.valueType, ← canCoerce_iff, Option.or_eq_some_iff]
  constructor
  · rintro (own | ⟨none, converted⟩)
    · exact absurd own ownAdapter?_ne_coerce
    · split at converted
      · rename_i taken
        exact ⟨none, taken⟩
      · cases converted
  · rintro ⟨none, taken⟩
    exact .inr ⟨none, if_pos taken⟩

/-- Where no rule of its own direction serves a field, the server is to convert just where values are taken
for the column. So a write is converted to the type of the column; but a read that nothing converts is
certified too, just where the values are taken and not given back. -/
theorem coercion_decided_as_written (cast : field.options.cast = true) :
    (∀ direction, assignAdapter? catalog column field direction = some .coerce ↔
      ownAdapter? column field direction = none ∧
        (column.TakesAll ∨ catalog.ConvertsTo column field.valueType)) ∧
    (assignAdapter? catalog column field .write = some .coerce → ¬ column.TakesAll →
      catalog.ConvertsTo column field.valueType) ∧
    (assignAdapter? catalog column field .read = some .coerce ∧
        ¬ catalog.ConvertsFrom column field.valueType ↔
      ownAdapter? column field .read = none ∧ catalog.OneWay column field.valueType) := by
  refine ⟨fun direction => assignAdapter?_eq_coerce cast, ?_, ?_⟩
  · intro chosen selective
    exact ((assignAdapter?_eq_coerce cast).mp chosen).2.resolve_left selective
  · rw [assignAdapter?_eq_coerce cast]
    constructor
    · rintro ⟨⟨none, taken⟩, kept⟩
      exact ⟨none, taken, kept⟩
    · rintro ⟨none, taken, kept⟩
      exact ⟨⟨none, taken⟩, kept⟩

def columnOf (type : CatalogType) : Column where
  ordinal := 1
  name := "amount"
  dims := 0
  typmod := -1
  notNull := true
  hasDefault := false
  isPrimary := false
  type

def castField (kind : Scalar) : BoundField where
  path := ["Amount"]
  column := ⟨none, "amount"⟩
  type := .scalar kind
  options := { cast := true }

def smallColumn : Column := columnOf ⟨Oid.int2, "int2", "smallint", 2, .base, .numeric, 0, false⟩

theorem coercion_decided_as_written_small :
    (castField .i64).options.cast = true ∧ ¬ smallColumn.TakesAll ∧
      assignAdapter? Standard.catalog smallColumn (castField .i64) .write = some .coerce ∧
      Standard.catalog.ConvertsTo smallColumn (castField .i64).valueType ∧
      assignAdapter? Standard.catalog smallColumn (castField .i64) .read = some (.table "int2" "i64") := by
  have chosen : assignAdapter? Standard.catalog smallColumn (castField .i64) .write = some .coerce := by
    decide +kernel
  have selective : ¬ smallColumn.TakesAll := by decide
  exact ⟨rfl, selective, chosen, (coercion_decided_as_written rfl).2.1 chosen selective, by decide +kernel⟩

def moneyColumn : Column := columnOf ⟨Oid.money, "money", "money", 8, .base, .numeric, 0, false⟩

def moneyCatalog : Catalog :=
  { Standard.catalog with casts := Standard.casts ++ [⟨Oid.money, Oid.int4, .assignment⟩] }

/-- Amounts are read into integers as if they were cast, because integers are cast to amounts. -/
theorem money_read_without_cast :
    (castField .i32).options.cast = true ∧ ¬ moneyColumn.TakesAll ∧
      assignAdapter? moneyCatalog moneyColumn (castField .i32) .read = some .coerce ∧
      ¬ moneyCatalog.ConvertsFrom moneyColumn (castField .i32).valueType := by
  refine ⟨rfl, by decide, by decide +kernel, ?_⟩
  intro converted
  cases converted with
  | whole listed becomes =>
    have only : fieldCandidates moneyCatalog (castField .i32).valueType = [Oid.int4] := by decide +kernel
    rw [only, List.mem_singleton] at listed
    rw [listed] at becomes
    rcases becomes with same | casts
    · exact absurd same (by decide)
    · exact absurd casts (by decide +kernel)
  | elements element => cases element

end RecordSql
