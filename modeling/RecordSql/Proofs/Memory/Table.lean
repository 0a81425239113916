import Mathlib.Data.List.ReduceOption
import RecordSql.Proofs.Memory.Answers
import RecordSql.Proofs.Relation.Loading

namespace RecordSql

structure MemoryColumn.ReadAs (catalog : Catalog) (declared : MemoryColumn) (column : Column) : Prop where
  name : column.name = declared.name
  typmod : column.typmod = declared.typmod
  dims : column.dims = declared.dims
  notNull : column.notNull = declared.notNull
  hasDefault : column.hasDefault = declared.hasDefault
  isPrimary : column.isPrimary = declared.primary
  type : catalog.typeByOid? declared.type = some column.type

namespace MemoryTable

variable {table : MemoryTable} {catalog : Catalog}

def has (table : MemoryTable) (name : String) : Bool :=
  table.columns.any fun column => column.name == name

/-- Keys refer to columns by their places, counted from one. Zero stands for all that is no column. -/
def Refers (table : MemoryTable) (name : Option String) (ordinal : Int) : Prop :=
  (∃ (index : Nat) (column : MemoryColumn), table.columns[index]? = some column ∧
    name = some column.name ∧ ordinal = index + 1) ∨
  (∀ column ∈ table.columns, name ≠ some column.name) ∧ ordinal = 0

end MemoryTable

structure MemoryConstraint.ReadAs (table : MemoryTable) (relation : Relation)
    (declared : MemoryConstraint) (constraint : Constraint) : Prop where
  oid : constraint.oid = declared.oid
  name : constraint.name = declared.name
  kind : ConstraintKind.ofChar? declared.kind = some constraint.kind
  deferrable : constraint.deferrable = false
  deferred : constraint.deferred = false
  foreignKey : constraint.foreignKey = []
  key : List.Forall₂ table.Refers (declared.key.map some) constraint.key
  keyColumns : relation.keyColumns constraint.key = declared.key.filter table.has

structure MemoryIndex.ReadAs (table : MemoryTable) (relation : Relation) (declared : MemoryIndex)
    (index : Index) : Prop where
  name : index.name = declared.name
  attributeCount : index.attributeCount = declared.key.length
  unique : index.unique = declared.unique
  primary : index.primary = declared.primary
  exclusion : index.exclusion = false
  immediate : index.immediate = true
  ready : index.ready = true
  definition : index.definition = table.indexDefinition declared
  key : List.Forall₂ table.Refers declared.key index.key
  keyColumns : relation.keyColumns index.key = declared.key.reduceOption.filter table.has

/-- A table as it was declared, with its columns counted from one. -/
structure MemoryTable.ReadAs (catalog : Catalog) (table : MemoryTable) (relation : Relation) : Prop where
  oid : relation.oid = table.oid
  name : relation.name = table.name
  space : relation.space = table.space
  kind : relation.kind = RelationKind.ofChar table.kind
  ordinals : relation.columns.map Column.ordinal =
    (List.range' 1 table.columns.length).map fun place : Nat => (place : Int)
  columns : List.Forall₂ (MemoryColumn.ReadAs catalog) table.columns relation.columns
  constraints : List.Forall₂ (MemoryConstraint.ReadAs table relation) table.constraints
    relation.constraints
  indexes : List.Forall₂ (MemoryIndex.ReadAs table relation) table.indexes relation.indexes

namespace MemoryTable

variable {table : MemoryTable} {catalog : Catalog} {relation : Relation}

def keyOrdinal (table : MemoryTable) (name : Option String) : Int := ((name.map table.ordinal).getD 0 : Nat)

theorem refers_keyOrdinal (name : Option String) : table.Refers name (table.keyOrdinal name) := by
  cases name with
  | none => exact .inr ⟨by simp, rfl⟩
  | some name =>
    cases found : table.columns.findIdx? fun column => column.name == name with
    | none =>
      rw [List.findIdx?_eq_none_iff] at found
      refine .inr ⟨fun column member same => ?_, by simp [keyOrdinal, ordinal, List.findIdx?_eq_none_iff.mpr found]⟩
      cases same
      simpa using found column member
    | some index =>
      obtain ⟨within, named, _⟩ := List.findIdx?_eq_some_iff_getElem.mp found
      refine .inl ⟨index, table.columns[index], List.getElem?_eq_getElem within, ?_, ?_⟩
      · rw [beq_iff_eq.mp named]
      · simp [keyOrdinal, ordinal, found]

theorem Refers.hasBits {name : Option String} {ordinal : Int} (refers : table.Refers name ordinal)
    (narrow : table.columns.length ≤ 32767) : HasBits 16 ordinal := by
  unfold HasBits
  rcases refers with ⟨index, column, found, _, rfl⟩ | ⟨_, rfl⟩
  · have within := (List.getElem?_eq_some_iff.mp found).1
    omega
  · decide

theorem find?_ordinal {columns : List Column} {start : Nat} (index : Nat)
    (ordinals : columns.map Column.ordinal = (List.range' start columns.length).map fun place : Nat => (place : Int)) :
    columns.find? (fun column => column.ordinal == ((start + index : Nat) : Int)) = columns[index]? := by
  induction columns generalizing start index with
  | nil => rfl
  | cons column columns ih =>
    simp only [List.map_cons, List.length_cons, List.range'_succ, List.cons.injEq] at ordinals
    obtain ⟨first, rest⟩ := ordinals
    cases index with
    | zero => simp [first]
    | succ index =>
      have other : ¬ column.ordinal = ((start + (index + 1) : Nat) : Int) := by
        rw [first]
        omega
      have same : start + (index + 1) = start + 1 + index := by omega
      rw [List.find?_cons_of_neg (by simpa using other), List.getElem?_cons_succ, same]
      exact ih index rest

theorem forall₂_refers (key : List (Option String)) :
    List.Forall₂ table.Refers key (key.map table.keyOrdinal) := by
  rw [List.forall₂_map_right_iff, List.forall₂_same]
  exact fun name _ => refers_keyOrdinal name

theorem hasBits_keyOrdinals (narrow : table.columns.length ≤ 32767) (key : List (Option String)) :
    ∀ ordinal ∈ key.map table.keyOrdinal, HasBits 16 ordinal := by
  intro ordinal member
  obtain ⟨name, _, rfl⟩ := List.mem_map.mp member
  exact (refers_keyOrdinal name).hasBits narrow

/-- What is stored in few bits has no more of them, and what is looked up is known. -/
structure Sound (catalog : Catalog) (table : MemoryTable) : Prop where
  columns : table.columns.length ≤ 32767
  keys : ∀ index ∈ table.indexes, index.key.length ≤ 32767
  typmods : ∀ column ∈ table.columns, HasBits 32 column.typmod
  dims : ∀ column ∈ table.columns, HasBits 32 column.dims
  types : ∀ column ∈ table.columns, (catalog.typeByOid? column.type).isSome = true
  kinds : ∀ constraint ∈ table.constraints, (ConstraintKind.ofChar? constraint.kind).isSome = true

theorem columnRow_tells {declared : MemoryColumn} {type : CatalogType} {place : Nat}
    (small : HasBits 16 place) (typmod : HasBits 32 declared.typmod) (dims : HasBits 32 declared.dims)
    (found : catalog.typeByOid? declared.type = some type) :
    ∃ column : Column, column.ordinal = place ∧ declared.ReadAs catalog column ∧
      column.ToldBy catalog (columnRow declared place) :=
  ⟨{ ordinal := place, name := declared.name, dims := declared.dims, typmod := declared.typmod,
     notNull := declared.notNull, hasDefault := declared.hasDefault, isPrimary := declared.primary, type },
   rfl, ⟨rfl, rfl, rfl, rfl, rfl, rfl, found⟩,
   ⟨⟨rfl, small⟩, rfl, ⟨rfl, typmod⟩, ⟨rfl, dims⟩, rfl, rfl, rfl, declared.type, .inl rfl, found⟩⟩

theorem columnRows_tell {declared : List MemoryColumn} (start : Nat)
    (narrow : start + declared.length ≤ 32768) (typmods : ∀ column ∈ declared, HasBits 32 column.typmod)
    (dims : ∀ column ∈ declared, HasBits 32 column.dims)
    (types : ∀ column ∈ declared, (catalog.typeByOid? column.type).isSome = true) :
    ∃ columns : List Column,
      columns.map Column.ordinal = (List.range' start declared.length).map (fun place : Nat => (place : Int)) ∧
      List.Forall₂ (MemoryColumn.ReadAs catalog) declared columns ∧
      List.Forall₂ (fun row column => column.ToldBy catalog row)
        ((declared.zipIdx start).map fun (column, ordinal) => columnRow column ordinal) columns := by
  induction declared generalizing start with
  | nil => exact ⟨[], rfl, .nil, .nil⟩
  | cons first declared ih =>
    rw [List.length_cons] at narrow
    obtain ⟨typmod, typmods⟩ := List.forall_mem_cons.mp typmods
    obtain ⟨dim, dims⟩ := List.forall_mem_cons.mp dims
    obtain ⟨known, types⟩ := List.forall_mem_cons.mp types
    obtain ⟨type, found⟩ := Option.isSome_iff_exists.mp known
    have small : HasBits 16 start := by
      unfold HasBits
      omega
    obtain ⟨column, place, readAs, told⟩ := columnRow_tells small typmod dim found
    obtain ⟨columns, places, allReadAs, allTold⟩ := ih (start + 1) (by omega) typmods dims types
    refine ⟨column :: columns, ?_, .cons readAs allReadAs, ?_⟩
    · rw [List.map_cons, place, places, List.length_cons, List.range'_succ, List.map_cons]
    · rw [List.zipIdx_cons, List.map_cons]
      exact .cons told allTold

def readConstraint (table : MemoryTable) (declared : MemoryConstraint) (kind : ConstraintKind) :
    Constraint where
  oid := declared.oid
  name := declared.name
  kind := kind
  deferrable := false
  deferred := false
  key := (declared.key.map some).map table.keyOrdinal
  foreignKey := []

theorem constraintRow_tells {declared : MemoryConstraint} {kind : ConstraintKind}
    (narrow : table.columns.length ≤ 32767) (read : ConstraintKind.ofChar? declared.kind = some kind) :
    (table.readConstraint declared kind).ToldBy (table.constraintRow declared) where
  oid := .inl rfl
  name := rfl
  kind := ⟨_, rfl, read⟩
  deferrable := rfl
  deferred := rfl
  key := by
    refine ⟨.inl ?_, hasBits_keyOrdinals narrow _⟩
    simp [constraintRow, readConstraint, keyOrdinal]
  foreignKey := ⟨.inr ⟨rfl, rfl⟩, by simp [readConstraint]⟩

def readIndex (table : MemoryTable) (declared : MemoryIndex) : Index where
  name := declared.name
  attributeCount := declared.key.length
  unique := declared.unique
  primary := declared.primary
  exclusion := false
  immediate := true
  ready := true
  key := declared.key.map table.keyOrdinal
  definition := table.indexDefinition declared

theorem indexRow_tells {declared : MemoryIndex} (narrow : table.columns.length ≤ 32767)
    (short : declared.key.length ≤ 32767) :
    (table.readIndex declared).ToldBy (table.indexRow declared) where
  name := rfl
  attributeCount := by
    refine ⟨rfl, ?_⟩
    show HasBits 16 (declared.key.length : Nat)
    unfold HasBits
    omega
  unique := rfl
  primary := rfl
  exclusion := rfl
  immediate := rfl
  ready := rfl
  key := ⟨.inl rfl, hasBits_keyOrdinals narrow _⟩
  definition := rfl

section

variable (ordinals : relation.columns.map Column.ordinal =
    (List.range' 1 table.columns.length).map fun place : Nat => (place : Int))
  (columns : List.Forall₂ (MemoryColumn.ReadAs catalog) table.columns relation.columns)
include ordinals columns

theorem keyColumn_eq (name : Option String) :
    (relation.columnAt? (table.keyOrdinal name)).map Column.name = name.filter table.has := by
  rw [columns.length_eq] at ordinals
  rcases table.refers_keyOrdinal name with ⟨index, declared, found, rfl, same⟩ | ⟨unknown, same⟩
  · have place : ((1 + index : Nat) : Int) = index + 1 := by omega
    obtain ⟨column, atColumns, readAs⟩ := getElem?_left_of_forall₂ columns.flip found
    have known : table.has declared.name = true :=
      List.any_eq_true.mpr ⟨declared, List.mem_of_getElem? found, by simp⟩
    rw [same, Relation.columnAt?, ← place, find?_ordinal index ordinals, atColumns]
    simp [Option.filter, known, readAs.name]
  · have counted : ∀ column ∈ relation.columns, ¬ column.ordinal = 0 := by
      intro column member
      have counted := List.mem_map_of_mem (f := Column.ordinal) member
      rw [ordinals, List.mem_map] at counted
      obtain ⟨place, inRange, same⟩ := counted
      have counts := (List.mem_range'_1.mp inRange).1
      omega
    have missing : relation.columnAt? 0 = none := by
      rw [Relation.columnAt?, List.find?_eq_none]
      simpa using counted
    rw [same, missing, Option.map_none, eq_comm, Option.filter_eq_none_iff]
    rintro name rfl known
    obtain ⟨column, member, named⟩ := List.any_eq_true.mp known
    exact unknown column member (by rw [beq_iff_eq.mp named])

theorem keyColumns_eq (key : List (Option String)) :
    relation.keyColumns (key.map table.keyOrdinal) = key.reduceOption.filter table.has := by
  unfold Relation.keyColumns List.reduceOption
  rw [List.filterMap_map, List.map_filterMap, List.filter_filterMap]
  exact List.filterMap_congr fun name _ => keyColumn_eq ordinals columns name

theorem readConstraint_readAs {declared : MemoryConstraint} {kind : ConstraintKind}
    (read : ConstraintKind.ofChar? declared.kind = some kind) :
    declared.ReadAs table relation (table.readConstraint declared kind) where
  oid := rfl
  name := rfl
  kind := read
  deferrable := rfl
  deferred := rfl
  foreignKey := rfl
  key := forall₂_refers _
  keyColumns := by
    have plain : (declared.key.map some).reduceOption = declared.key := by
      simp [List.reduceOption, List.filterMap_map]
    rw [readConstraint, keyColumns_eq ordinals columns, plain]

theorem readIndex_readAs (declared : MemoryIndex) :
    declared.ReadAs table relation (table.readIndex declared) :=
  ⟨rfl, rfl, rfl, rfl, rfl, rfl, rfl, rfl, forall₂_refers _, keyColumns_eq ordinals columns _⟩

end

theorem exists_readAs (sound : table.Sound catalog) (key : String) : ∃ relation : Relation,
    table.ReadAs catalog relation ∧ relation.key = key ∧
      List.Forall₂ (fun row column => column.ToldBy catalog row) table.columnRows relation.columns ∧
      List.Forall₂ (fun row constraint => constraint.ToldBy row) table.constraintRows
        relation.constraints ∧
      List.Forall₂ (fun row index => index.ToldBy row) table.indexRows relation.indexes := by
  have narrow := sound.columns
  obtain ⟨columns, ordinals, columnsRead, columnsTold⟩ :=
    columnRows_tell 1 (by omega) sound.typmods sound.dims sound.types
  have eachKind : ∀ declared ∈ table.constraints, ∃ constraint, ∃ kind,
      ConstraintKind.ofChar? declared.kind = some kind ∧ constraint = table.readConstraint declared kind := by
    intro declared member
    obtain ⟨kind, read⟩ := Option.isSome_iff_exists.mp (sound.kinds declared member)
    exact ⟨_, kind, read, rfl⟩
  obtain ⟨constraints, eachRead⟩ := exists_forall₂ eachKind
  let relation : Relation :=
    { oid := table.oid, name := table.name, space := table.space, key := key
      kind := RelationKind.ofChar table.kind, columns := columns, constraints := constraints
      indexes := table.indexes.map table.readIndex }
  have places : relation.columns.map Column.ordinal =
      (List.range' 1 table.columns.length).map fun place : Nat => (place : Int) := ordinals
  refine ⟨relation, ⟨rfl, rfl, rfl, rfl, places, columnsRead, ?_, ?_⟩, rfl, columnsTold, ?_, ?_⟩
  · refine eachRead.imp fun declared constraint read => ?_
    obtain ⟨kind, read, rfl⟩ := read
    exact readConstraint_readAs places columnsRead read
  · rw [List.forall₂_map_right_iff, List.forall₂_same]
    exact fun declared _ => readIndex_readAs places columnsRead declared
  · rw [constraintRows, List.forall₂_map_left_iff]
    refine eachRead.imp fun declared constraint read => ?_
    obtain ⟨kind, read, rfl⟩ := read
    exact constraintRow_tells narrow read
  · rw [indexRows, List.forall₂_map_left_iff, List.forall₂_map_right_iff, List.forall₂_same]
    exact fun declared member => indexRow_tells narrow (sound.keys declared member)

end MemoryTable

namespace MemoryDatabase

variable {database : MemoryDatabase} {table : MemoryTable} {catalog : Catalog}

/-- The database has the table, and no other of its name in its namespace or of its number. -/
structure Holds (database : MemoryDatabase) (table : MemoryTable) : Prop where
  member : table ∈ database.tables
  named : ∀ other ∈ database.tables, other.name = table.name → other.space = table.space → other = table
  numbered : ∀ other ∈ database.tables, other.oid = table.oid → other = table

theorem relationRows_of_holds (holds : database.Holds table) : ∃ rows,
    (database.tables.filter fun other => other.name == table.name && other.space == table.space).map
      MemoryTable.relationRow = table.relationRow :: rows := by
  have member : table ∈ database.tables.filter fun other =>
      other.name == table.name && other.space == table.space :=
    List.mem_filter.mpr ⟨holds.member, by simp⟩
  obtain ⟨first, rest, listed⟩ := List.exists_cons_of_ne_nil (List.ne_nil_of_mem member)
  obtain ⟨isListed, named⟩ := List.mem_filter.mp (listed ▸ List.mem_cons_self : first ∈ _)
  simp only [Bool.and_eq_true, beq_iff_eq] at named
  rw [listed, holds.named first isListed named.1 named.2]
  exact ⟨_, rfl⟩

theorem tableRows_of_holds (holds : database.Holds table) (rows : MemoryTable → List Row) :
    database.tableRows [.oid table.oid] rows = rows table := by
  unfold tableRows tableByOid?
  cases found : database.tables.find? fun other => other.oid == table.oid with
  | none => simpa using List.find?_eq_none.mp found table holds.member
  | some other =>
    have numbered := List.find?_some found
    rw [holds.numbered other (List.mem_of_find?_eq_some found) (beq_iff_eq.mp numbered)] at found
    dsimp only
    rw [found]
    rfl

theorem load_table (sound : table.Sound catalog) (holds : database.Holds table) {ref : RelationRef}
    (named : ref.name = table.name)
    (serves : ∀ query ∈ Relation.loadQueries ref table.space table.oid, database.Serves query)
    (before : Transcript) :
    ∃ relation, (Relation.load database.server catalog ref table.space).outcome before =
        (.ok relation, before.asking (Relation.loadQueries ref table.space table.oid)) ∧
      relation.key = ref.key ∧ table.ReadAs catalog relation := by
  have answers := database.answersByText
  simp only [Relation.loadQueries, List.forall_mem_cons] at serves
  obtain ⟨heads, columns, constraints, indexes, _⟩ := serves
  obtain ⟨relation, readAs, keyed, columnsTold, constraintsTold, indexesTold⟩ :=
    MemoryTable.exists_readAs sound ref.key
  refine ⟨relation, Relation.load_eq_ok.mpr ⟨?_, by rw [readAs.oid]⟩, keyed, readAs⟩
  refine ⟨readAs.name.trans named.symm, readAs.space, keyed, ?_, ?_, ?_, ?_⟩
  · obtain ⟨rows, first⟩ := relationRows_of_holds holds
    refine ⟨table.relationRow, rows, ?_, ?_, ?_⟩
    · refine (answer_of_serves heads).trans ((answers.relation _ _).trans ?_)
      rw [named, first]
    · rw [readAs.oid]
      exact .inl rfl
    · rw [readAs.kind]
      exact ⟨_, rfl, rfl⟩
  · refine ⟨table.columnRows, ?_, columnsTold⟩
    rw [readAs.oid]
    exact (answer_of_serves columns).trans ((answers.columns _).trans (by rw [tableRows_of_holds holds]))
  · refine ⟨table.constraintRows, ?_, constraintsTold⟩
    rw [readAs.oid]
    exact (answer_of_serves constraints).trans
      ((answers.constraints _).trans (by rw [tableRows_of_holds holds]))
  · refine ⟨table.indexRows, ?_, indexesTold⟩
    rw [readAs.oid]
    exact (answer_of_serves indexes).trans ((answers.indexes _).trans (by rw [tableRows_of_holds holds]))

end MemoryDatabase

end RecordSql
