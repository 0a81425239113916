import RecordSql.Proofs.Memory.Answers
import RecordSql.Proofs.Relation.Loading
import RecordSql.Proofs.Text.Number

namespace RecordSql.MemoryDatabase

theorem typeRow_tells {type : CatalogType} (sized : HasBits 16 type.length) :
    type.ToldBy (typeRow type) where
  oid := .inl rfl
  name := rfl
  formattedName := rfl
  length := ⟨rfl, sized⟩
  kind := ⟨_, rfl, TypeClass.ofChar?_toChar type.kind⟩
  category := ⟨_, rfl, TypeCategory.ofChar?_toChar type.category⟩
  element := .inl rfl
  preferred := rfl

theorem operatorRow_tells (op : CatalogOperator) : op.ToldBy (operatorRow op) :=
  ⟨rfl, .inl rfl, .inl rfl, .inl rfl⟩

theorem castRow_tells (cast : CatalogCast) : cast.ToldBy (castRow cast) :=
  ⟨.inl rfl, .inl rfl, _, rfl, CastContext.ofChar?_toChar cast.context⟩

theorem procedureRow_tells (procedure : String × CatalogProcedure) :
    CatalogProcedure.ToldBy (procedureRow procedure) procedure :=
  ⟨rfl, .inl rfl, .inl rfl, rfl⟩

/-- What is stored in few bits has no more of them. -/
structure Sized (database : MemoryDatabase) : Prop where
  version : HasBits 64 database.version
  lengths : ∀ type ∈ database.types, HasBits 16 type.length

def catalog (database : MemoryDatabase) : Catalog where
  types := database.types
  operators := database.operators
  casts := database.casts
  procedureRows := database.procedures

theorem versionRow_tells {version : Int} (sized : HasBits 64 version) :
    (⟨[.text (toString version)]⟩ : Row).HoldsVersion version := by
  have numeral := Text.numeral_toString version
  refine ⟨_, rfl, ?_, sized⟩
  rw [Text.trim_of_no_blank numeral.no_blank]
  exact numeral

theorem lists_map {α : Type} {database : MemoryDatabase} {asked : List Query} {query : Query}
    {told : Row → α → Prop} {encode : α → Row} {values : List α}
    (serves : database.Serves query) (answered : database.answerQuery query = .ok (values.map encode))
    (tells : ∀ value ∈ values, told (encode value) value) :
    database.server.Lists asked query told values := by
  refine ⟨values.map encode, (answer_of_serves serves).trans answered, ?_⟩
  rw [List.forall₂_map_left_iff, List.forall₂_same]
  exact tells

theorem tells_catalog {database : MemoryDatabase} (sized : database.Sized)
    (serves : ∀ query ∈ Catalog.loadQueries database.version, database.Serves query) (asked : List Query) :
    Catalog.Tells database.server asked database.version database.catalog := by
  have answers := database.answersByText
  simp only [Catalog.loadQueries, List.forall_mem_cons] at serves
  obtain ⟨version, types, operators, casts, procedures, _⟩ := serves
  constructor
  · exact ⟨_, [], (answer_of_serves version).trans answers.version, versionRow_tells sized.version⟩
  · exact lists_map types answers.types fun type member => typeRow_tells (sized.lengths type member)
  · exact lists_map operators answers.operators fun op _ => operatorRow_tells op
  · exact lists_map casts answers.casts fun cast _ => castRow_tells cast
  · exact lists_map procedures (answers.procedures _) fun procedure _ => procedureRow_tells procedure

theorem load_catalog {database : MemoryDatabase} (sized : database.Sized)
    (serves : ∀ query ∈ Catalog.loadQueries database.version, database.Serves query) (before : Transcript) :
    (Catalog.load database.server).outcome before =
      (.ok database.catalog, before.asking (Catalog.loadQueries database.version)) :=
  Catalog.load_eq_ok.mpr ⟨database.version, tells_catalog sized serves before.queries, rfl⟩

end RecordSql.MemoryDatabase
