import Mathlib.Data.String.Basic
import RecordSql.Proofs.Repetition
import RecordSql.Relation.Basic

/-!
The unique index for a list of names. The names of a key and those that are asked for are put in order
and compared without their repetitions, so an index is found just where both are the same set.
-/
namespace RecordSql

theorem insertName_eq (name : String) (names : List String) :
    insertName name names = names.orderedInsert (· ≤ ·) name := by
  induction names with
  | nil => rfl
  | cons other rest ih => rw [insertName, List.orderedInsert_cons, ih]

theorem orderedNames_eq (names : List String) :
    orderedNames names = (names.insertionSort (· ≤ ·)).eraseReps := by
  have insert : insertName = List.orderedInsert (· ≤ ·) := funext fun name => funext (insertName_eq name)
  rw [orderedNames, insert]
  rfl

theorem sortedLT_orderedNames (names : List String) : (orderedNames names).SortedLT := by
  rw [orderedNames_eq]
  exact sortedLT_eraseReps List.sortedLE_insertionSort

theorem mem_orderedNames {name : String} {names : List String} : name ∈ orderedNames names ↔ name ∈ names := by
  rw [orderedNames_eq, mem_eraseReps, (List.perm_insertionSort (· ≤ ·) names).mem_iff]

theorem orderedNames_eq_iff {names others : List String} :
    orderedNames names = orderedNames others ↔ ∀ name, name ∈ names ↔ name ∈ others := by
  constructor
  · intro same name
    rw [← mem_orderedNames, same, mem_orderedNames]
  · intro same
    refine (sortedLT_orderedNames names).eq_of_mem_iff (sortedLT_orderedNames others) fun name => ?_
    rw [mem_orderedNames, mem_orderedNames, same]

namespace Index

theorem isUnique_iff {index : Index} :
    index.isUnique = true ↔ index.unique = true ∨ index.primary = true := by
  rw [isUnique, Bool.or_eq_true]

theorem hasExpression_iff {index : Index} : index.hasExpression = true ↔ 0 ∈ index.key := by
  rw [hasExpression, List.contains_iff_mem]

end Index

namespace Relation

variable {relation : Relation} {names : List String}

/-- The index tells rows apart by just the columns of these names. -/
structure KeyedBy (relation : Relation) (names : List String) (index : Index) : Prop where
  unique : index.unique = true ∨ index.primary = true
  plain : 0 ∉ index.key
  columns : ∀ name, name ∈ names ↔
    ∃ ordinal ∈ index.key, ∃ column, relation.columnAt? ordinal = some column ∧ column.name = name

theorem mem_keyColumns {name : String} {key : List Int} : name ∈ relation.keyColumns key ↔
    ∃ ordinal ∈ key, ∃ column, relation.columnAt? ordinal = some column ∧ column.name = name := by
  simp only [keyColumns, List.mem_map, List.mem_filterMap]
  constructor
  · rintro ⟨column, ⟨ordinal, listed, found⟩, named⟩
    exact ⟨ordinal, listed, column, found, named⟩
  · rintro ⟨ordinal, listed, column, found, named⟩
    exact ⟨column, ⟨ordinal, listed, found⟩, named⟩

theorem keyedBy_iff {index : Index} :
    (index.isUnique && !index.hasExpression &&
        orderedNames (relation.keyColumns index.key) == orderedNames names) = true ↔
      relation.KeyedBy names index := by
  rw [Bool.and_eq_true, Bool.and_eq_true, Bool.not_eq_true', beq_iff_eq, orderedNames_eq_iff,
    Index.isUnique_iff, ← Bool.not_eq_true, Index.hasExpression_iff]
  constructor
  · rintro ⟨⟨unique, plain⟩, same⟩
    exact ⟨unique, plain, fun name => (same name).symm.trans mem_keyColumns⟩
  · rintro ⟨unique, plain, columns⟩
    exact ⟨⟨unique, plain⟩, fun name => mem_keyColumns.trans (columns name).symm⟩

end Relation

/-- The index that is found is the first one whose key is the set of these names, and none is found where
there is no such index. So neither the order of the names nor their repetitions count. -/
theorem unique_index_decides_set (relation : Relation) (names : List String) :
    (∀ index, relation.uniqueIndexFor? names = some index ↔
      ∃ before after, relation.indexes = before ++ index :: after ∧ relation.KeyedBy names index ∧
        ∀ earlier ∈ before, ¬ relation.KeyedBy names earlier) ∧
    (relation.uniqueIndexFor? names = none ↔ ∀ index ∈ relation.indexes, ¬ relation.KeyedBy names index) ∧
    ∀ others, (∀ name, name ∈ others ↔ name ∈ names) →
      relation.uniqueIndexFor? others = relation.uniqueIndexFor? names := by
  unfold Relation.uniqueIndexFor?
  refine ⟨fun index => ?_, ?_, fun others same => ?_⟩
  · simp only [List.find?_eq_some_iff_append, Relation.keyedBy_iff, Bool.not_eq_true', ← Bool.not_eq_true]
    constructor
    · rintro ⟨keyed, before, after, split, earlier⟩
      exact ⟨before, after, split, keyed, earlier⟩
    · rintro ⟨before, after, split, keyed, earlier⟩
      exact ⟨keyed, before, after, split, earlier⟩
  · simp only [List.find?_eq_none, Relation.keyedBy_iff]
  · rw [orderedNames_eq_iff.mpr same]

namespace Relation

def textColumn (ordinal : Int) (name : String) : Column where
  ordinal
  name
  dims := 0
  typmod := -1
  notNull := true
  hasDefault := false
  isPrimary := false
  type := ⟨Oid.text, "text", "text", -1, .base, .string, 0, true⟩

def keyIndex (name : String) (unique : Bool) (key : List Int) : Index where
  name
  attributeCount := key.length
  unique
  primary := false
  exclusion := false
  immediate := true
  ready := true
  key
  definition := ""

def pages : Relation where
  oid := 20003
  name := "pages"
  space := "public"
  key := "pages"
  kind := .table
  columns := [textColumn 1 "site", textColumn 2 "slug", textColumn 3 "title"]
  constraints := []
  indexes :=
    [keyIndex "pages_site_key" true [1], keyIndex "pages_folded_key" true [2, 0, 1],
     keyIndex "pages_address_idx" false [2, 1], keyIndex "pages_address_key" true [2, 1],
     keyIndex "pages_path_key" true [1, 2]]

end Relation

theorem unique_index_decides_set_pages :
    (∀ name, name ∈ ["site", "slug", "site"] ↔ name ∈ ["slug", "site"]) ∧
      Relation.pages.uniqueIndexFor? ["slug", "site"] = some (Relation.keyIndex "pages_address_key" true [2, 1]) ∧
      Relation.pages.uniqueIndexFor? ["site", "slug", "site"] = Relation.pages.uniqueIndexFor? ["slug", "site"] := by
  have same : ∀ name, name ∈ ["site", "slug", "site"] ↔ name ∈ ["slug", "site"] := by
    intro name
    simp only [List.mem_cons, List.not_mem_nil, or_false]
    tauto
  exact ⟨same, by decide +kernel, (unique_index_decides_set Relation.pages ["slug", "site"]).2.2 _ same⟩

end RecordSql
