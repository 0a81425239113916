import RecordSql.Proofs.Statement.Lowering

/-!
Records laid out in place. The columns of a record are those of the chains of fields that lead to a column,
in the order in which they are declared.
-/
namespace RecordSql

namespace HostField

def parsedTag? (field : HostField) : Option ColumnTag :=
  field.sql?.bind fun text => (ColumnTag.parse text).toOption

def start? (field : HostField) : Option String := field.parsedTag?.bind ColumnTag.nestedStart?

/-- A field in which a plain record is laid out: its tag says what the columns start with, or else it is
embedded. -/
def Transparent (field : HostField) : Prop :=
  field.nestedFields?.isSome = true ∧
    (field.start?.isSome = true ∨ field.embedded = true ∧ field.start? = none)

end HostField

/-- Fields within each other, down to a last one. -/
structure FieldChain where
  ancestors : List HostField := []
  last : HostField

namespace FieldChain

/-- The chain begins with one of the fields and goes on, each time, with a member of the record that a field
holds. The place of the chain tells which ones. -/
inductive At : List HostField → List Nat → FieldChain → Prop
  | last {fields : List HostField} {index : Nat} {field : HostField} : fields[index]? = some field →
    At fields [index] { last := field }
  | within {fields members : List HostField} {index : Nat} {place : List Nat} {field : HostField}
    {chain : FieldChain} : fields[index]? = some field → field.nestedFields? = some members →
      At members place chain → At fields (index :: place) { chain with ancestors := field :: chain.ancestors }

/-- The chain leads through records that are laid out in place, to a field that is none of them and has a tag
that does not leave it out. -/
structure IsColumn (chain : FieldChain) : Prop where
  transparent : ∀ field ∈ chain.ancestors, field.Transparent
  ends : ¬ chain.last.Transparent
  tagged : ∃ tag, chain.last.parsedTag? = some tag ∧ tag.isSkip = false

def names (chain : FieldChain) : List String := chain.ancestors.map HostField.name ++ [chain.last.name]

def start (chain : FieldChain) : String :=
  String.join (chain.ancestors.map fun field => field.start?.getD "")

end FieldChain

structure BoundField.Describes (path : List String) (start : String) (chain : FieldChain)
    (column : BoundField) : Prop where
  path_eq : column.path = path ++ chain.names
  type_eq : column.type = chain.last.type
  column_eq : ∃ tag named, chain.last.parsedTag? = some tag ∧ ColumnRef.parse? tag.column = some named ∧
    column.options = tag.options ∧ column.column = named.startingWith (start ++ chain.start)

/-- The chains that lead to columns of the fields, each once, in the order of their places. -/
structure ListsColumns (fields : List HostField) (chains : List (List Nat × FieldChain)) : Prop where
  ascending : chains.Pairwise fun one next => one.1 < next.1
  mem_iff : ∀ place chain, (place, chain) ∈ chains ↔ FieldChain.At fields place chain ∧ chain.IsColumn

section

variable {field : HostField} {start inner : String} {column : ColumnRef} {options : FieldOptions}

theorem parsedTag?_of_columnTag? {tag : Option ColumnTag} (found : columnTag? field = .ok tag) :
    field.parsedTag? = tag := by
  unfold columnTag? at found
  rw [HostField.parsedTag?]
  split at found
  · rename_i text written
    rw [written, Option.bind_some]
    split at found
    · rename_i parsed
      cases found
      rw [parsed]
      rfl
    · cases found
  · rename_i unwritten
    cases found
    rw [unwritten]
    rfl

inductive FieldRole.Suits (start : String) (field : HostField) : FieldRole → Prop
  | skipped : ¬ field.Transparent → (∀ tag, field.parsedTag? = some tag → tag.isSkip = true) →
    Suits start field .skipped
  | within : field.Transparent → Suits start field (.within (start ++ field.start?.getD ""))
  | bound {tag : ColumnTag} {named : ColumnRef} : ¬ field.Transparent → field.parsedTag? = some tag →
    tag.isSkip = false → ColumnRef.parse? tag.column = some named →
      Suits start field (.bound (named.startingWith start) tag.options)

theorem not_transparent {tag : Option ColumnTag} (parsed : field.parsedTag? = tag)
    (apart : ¬ (field.embedded = true ∧ field.nestedFields?.isSome = true))
    (unstarted : tag.bind ColumnTag.nestedStart? = none) : ¬ field.Transparent := by
  have started : field.start? = none := by rw [HostField.start?, parsed, unstarted]
  rintro ⟨nested, begun | ⟨embedded, _⟩⟩
  · simp [started] at begun
  · exact apart ⟨embedded, nested⟩

theorem suits_of_tag {tag : ColumnTag} {role : FieldRole} (parsed : field.parsedTag? = some tag)
    (apart : tag.nestedStart? = none → ¬ (field.embedded = true ∧ field.nestedFields?.isSome = true))
    (found : FieldRole.ofTag start field.name field.nestedFields?.isSome tag = .ok role) :
    role.Suits start field := by
  unfold FieldRole.ofTag at found
  split at found
  · rename_i skipped
    cases found
    have unstarted : tag.nestedStart? = none := by
      rw [ColumnTag.nestedStart?, beq_iff_eq.mp skipped]
      rfl
    refine .skipped (not_transparent parsed (apart unstarted) unstarted) fun other same => ?_
    cases parsed.symm.trans same
    exact skipped
  · rename_i kept
    split at found
    · rename_i inner begins
      have started : field.start? = some inner := by rw [HostField.start?, parsed, Option.bind_some, begins]
      split at found
      · rename_i nested
        cases found
        have role : FieldRole.Suits start field (.within (start ++ field.start?.getD "")) :=
          .within ⟨nested, .inl (by rw [started]; rfl)⟩
        rwa [started] at role
      · cases found
    · rename_i unstarted
      split at found
      · rename_i named read
        cases found
        exact .bound (not_transparent parsed (apart unstarted) unstarted) parsed (by simpa using kept) read
      · cases found

theorem suits_of_ofField {role : FieldRole} (found : FieldRole.ofField .tagged start field = .ok role) :
    role.Suits start field := by
  unfold FieldRole.ofField at found
  obtain ⟨tag, tagged, found⟩ := bind_eq_ok.mp found
  have parsed := parsedTag?_of_columnTag? tagged
  dsimp only at found
  split at found
  · rename_i inPlace
    simp only [Bool.and_eq_true, Option.isNone_iff_eq_none] at inPlace
    obtain ⟨⟨embedded, nested⟩, unstarted⟩ := inPlace
    have started : field.start? = none := by rw [HostField.start?, parsed, unstarted]
    cases pure_eq_ok.mp found
    have role : FieldRole.Suits start field (.within (start ++ field.start?.getD "")) :=
      .within ⟨nested, .inr ⟨embedded, started⟩⟩
    simpa [started] using role
  · rename_i apart
    simp only [Bool.and_eq_true, Option.isNone_iff_eq_none] at apart
    cases tag with
    | none =>
      cases pure_eq_ok.mp found
      exact .skipped (not_transparent parsed (fun inPlace => apart ⟨inPlace, rfl⟩) rfl)
        fun other same => by cases parsed.symm.trans same
    | some tag => exact suits_of_tag parsed (fun unstarted inPlace => apart ⟨inPlace, unstarted⟩) found

end

section

variable {fields members : List HostField} {field : HostField} {index : Nat} {place : List Nat}
  {chain : FieldChain} {chains here later : List (List Nat × FieldChain)}

namespace FieldChain

theorem at_cons_zero : At (field :: fields) (0 :: place) chain ↔ At [field] (0 :: place) chain := by
  constructor
  all_goals
    intro leads
    cases leads with
    | last found => exact .last (by simpa using found)
    | within found nested leads => exact .within (by simpa using found) nested leads

theorem at_cons_succ : At (field :: fields) ((index + 1) :: place) chain ↔ At fields (index :: place) chain := by
  constructor
  all_goals
    intro leads
    cases leads with
    | last found => exact .last (by simpa using found)
    | within found nested leads => exact .within (by simpa using found) nested leads

theorem At.exists_index (leads : At fields place chain) :
    ∃ index rest, place = index :: rest ∧ index < fields.length := by
  cases leads with
  | last found => exact ⟨_, _, rfl, (List.getElem?_eq_some_iff.mp found).1⟩
  | within found nested leads => exact ⟨_, _, rfl, (List.getElem?_eq_some_iff.mp found).1⟩

theorem at_singleton_iff : At [field] (0 :: place) chain ↔
    (place = [] ∧ chain = { last := field }) ∨
      ∃ members inner, field.nestedFields? = some members ∧ At members place inner ∧
        chain = { inner with ancestors := field :: inner.ancestors } := by
  constructor
  · intro leads
    cases leads with
    | last found =>
      cases Option.some.inj found
      exact .inl ⟨rfl, rfl⟩
    | within found nested leads =>
      cases Option.some.inj found
      exact .inr ⟨_, _, nested, leads, rfl⟩
  · rintro (⟨rfl, rfl⟩ | ⟨members, inner, nested, leads, rfl⟩)
    · exact .last rfl
    · exact .within rfl nested leads

theorem isColumn_within_iff :
    IsColumn { chain with ancestors := field :: chain.ancestors } ↔ field.Transparent ∧ chain.IsColumn := by
  constructor
  · rintro ⟨transparent, ends, tagged⟩
    obtain ⟨now, later⟩ := List.forall_mem_cons.mp transparent
    exact ⟨now, later, ends, tagged⟩
  · rintro ⟨now, later, ends, tagged⟩
    exact ⟨List.forall_mem_cons.mpr ⟨now, later⟩, ends, tagged⟩

end FieldChain

namespace ListsColumns

theorem nil : ListsColumns [] [] where
  ascending := .nil
  mem_iff place chain := by
    refine ⟨fun member => (by cases member), fun ⟨leads, _⟩ => ?_⟩
    obtain ⟨_, _, _, bound⟩ := leads.exists_index
    cases bound

def shifted : List Nat → List Nat
  | [] => []
  | index :: place => (index + 1) :: place

theorem cons (first : ListsColumns [field] here) (rest : ListsColumns fields later) :
    ListsColumns (field :: fields) (here ++ later.map (Prod.map shifted id)) := by
  have head {entry : List Nat × FieldChain} (member : entry ∈ here) : ∃ place, entry.1 = 0 :: place := by
    obtain ⟨index, place, same, bound⟩ := ((first.mem_iff _ _).mp member).1.exists_index
    cases Nat.lt_one_iff.mp bound
    exact ⟨place, same⟩
  have tail {entry : List Nat × FieldChain} (member : entry ∈ later) :
      ∃ index place, entry.1 = index :: place := by
    obtain ⟨index, place, same, _⟩ := ((rest.mem_iff _ _).mp member).1.exists_index
    exact ⟨index, place, same⟩
  refine ⟨List.pairwise_append.mpr ⟨first.ascending, ?_, ?_⟩, fun place chain => ?_⟩
  · refine List.pairwise_map.mpr (rest.ascending.imp_of_mem fun {one next} isOne isNext less => ?_)
    obtain ⟨_, _, placed⟩ := tail isOne
    obtain ⟨_, _, nextPlaced⟩ := tail isNext
    rw [placed, nextPlaced] at less
    simp only [Prod.map_fst, placed, nextPlaced, shifted]
    simpa [List.cons_lt_cons_iff] using less
  · intro one isOne next isNext
    obtain ⟨entry, isLater, rfl⟩ := List.mem_map.mp isNext
    obtain ⟨_, placed⟩ := head isOne
    obtain ⟨_, _, nextPlaced⟩ := tail isLater
    simp only [Prod.map_fst, placed, nextPlaced, shifted]
    simp [List.cons_lt_cons_iff]
  · rw [List.mem_append]
    constructor
    · rintro (member | member)
      · obtain ⟨rest, placed⟩ := head member
        cases placed
        obtain ⟨leads, column⟩ := (first.mem_iff _ _).mp member
        exact ⟨FieldChain.at_cons_zero.mpr leads, column⟩
      · obtain ⟨⟨place, chain⟩, isLater, same⟩ := List.mem_map.mp member
        obtain ⟨index, rest', placed⟩ := tail isLater
        cases placed
        cases same
        obtain ⟨leads, column⟩ := (rest.mem_iff _ _).mp isLater
        exact ⟨FieldChain.at_cons_succ.mpr leads, column⟩
    · rintro ⟨leads, column⟩
      obtain ⟨index, place, rfl, _⟩ := leads.exists_index
      cases index with
      | zero => exact .inl ((first.mem_iff _ _).mpr ⟨FieldChain.at_cons_zero.mp leads, column⟩)
      | succ index =>
        have member := (rest.mem_iff _ _).mpr ⟨FieldChain.at_cons_succ.mp leads, column⟩
        exact .inr (List.mem_map.mpr ⟨_, member, rfl⟩)

theorem zero_of_at_singleton (leads : FieldChain.At [field] place chain) : ∃ rest, place = 0 :: rest := by
  obtain ⟨index, rest, same, bound⟩ := leads.exists_index
  cases Nat.lt_one_iff.mp bound
  exact ⟨rest, same⟩

theorem skipped (notTransparent : ¬ field.Transparent)
    (leftOut : ∀ tag, field.parsedTag? = some tag → tag.isSkip = true) : ListsColumns [field] [] where
  ascending := .nil
  mem_iff place chain := by
    refine ⟨fun member => (by cases member), fun ⟨leads, column⟩ => ?_⟩
    obtain ⟨rest, rfl⟩ := zero_of_at_singleton leads
    rcases FieldChain.at_singleton_iff.mp leads with ⟨_, rfl⟩ | ⟨members, inner, nested, _, rfl⟩
    · obtain ⟨tag, parsed, kept⟩ := column.tagged
      rw [leftOut tag parsed] at kept
      cases kept
    · exact absurd (FieldChain.isColumn_within_iff.mp column).1 notTransparent

theorem bound {tag : ColumnTag} (notTransparent : ¬ field.Transparent) (parsed : field.parsedTag? = some tag)
    (kept : tag.isSkip = false) : ListsColumns [field] [([0], { last := field })] where
  ascending := List.pairwise_singleton _ _
  mem_iff place chain := by
    rw [List.mem_singleton, Prod.mk.injEq]
    constructor
    · rintro ⟨rfl, rfl⟩
      exact ⟨.last rfl, ⟨by simp, notTransparent, tag, parsed, kept⟩⟩
    · rintro ⟨leads, column⟩
      obtain ⟨rest, rfl⟩ := zero_of_at_singleton leads
      rcases FieldChain.at_singleton_iff.mp leads with ⟨rfl, rfl⟩ | ⟨members, inner, nested, _, rfl⟩
      · exact ⟨rfl, rfl⟩
      · exact absurd (FieldChain.isColumn_within_iff.mp column).1 notTransparent

def enter (field : HostField) (entry : List Nat × FieldChain) : List Nat × FieldChain :=
  (0 :: entry.1, { entry.2 with ancestors := field :: entry.2.ancestors })

theorem within (transparent : field.Transparent) (nested : field.nestedFields? = some members)
    (inner : ListsColumns members chains) : ListsColumns [field] (chains.map (enter field)) where
  ascending := by
    refine List.pairwise_map.mpr (inner.ascending.imp fun {one next} less => ?_)
    simpa [enter, List.cons_lt_cons_iff] using less
  mem_iff place chain := by
    rw [List.mem_map]
    constructor
    · rintro ⟨⟨place, chain⟩, member, same⟩
      cases same
      obtain ⟨leads, column⟩ := (inner.mem_iff _ _).mp member
      exact ⟨.within rfl nested leads, FieldChain.isColumn_within_iff.mpr ⟨transparent, column⟩⟩
    · rintro ⟨leads, column⟩
      obtain ⟨rest, rfl⟩ := zero_of_at_singleton leads
      rcases FieldChain.at_singleton_iff.mp leads with ⟨_, rfl⟩ | ⟨others, chain, same, leads, rfl⟩
      · exact absurd transparent column.ends
      · cases nested.symm.trans same
        have member := (inner.mem_iff _ _).mpr ⟨leads, (FieldChain.isColumn_within_iff.mp column).2⟩
        exact ⟨_, member, rfl⟩

end ListsColumns

end

theorem HostType.eq_of_required {type : HostType} {members : List HostField}
    (nested : type.required.recordFields? = some members) :
    (∃ name traits name' traits', type = ⟨.optional ⟨.record members, name, traits⟩, name', traits'⟩) ∨
      ∃ name traits, type = ⟨.record members, name, traits⟩ := by
  obtain ⟨shape, name, traits⟩ := type
  have shaped := shape_of_recordFields nested
  cases shape with
  | optional inner =>
    obtain ⟨shape, inside, insideTraits⟩ := inner
    cases shaped
    exact .inl ⟨inside, insideTraits, name, traits, rfl⟩
  | record fields =>
    cases shaped
    exact .inr ⟨name, traits, rfl⟩
  | _ => cases shaped

def LaidOut (path : List String) (start : String) (fields : List HostField) (columns : List BoundField) :
    Prop :=
  ∃ chains, ListsColumns fields chains ∧
    List.Forall₂ (fun entry column => column.Describes path start entry.2) chains columns

section

variable {path : List String} {start : String} {field : HostField} {fields members : List HostField}
  {columns here later : List BoundField}

theorem LaidOut.cons (first : LaidOut path start [field] here) (rest : LaidOut path start fields later) :
    LaidOut path start (field :: fields) (here ++ later) := by
  obtain ⟨chains, lists, described⟩ := first
  obtain ⟨others, listsOthers, describedOthers⟩ := rest
  refine ⟨_, lists.cons listsOthers, List.rel_append described ?_⟩
  rwa [List.forall₂_map_left_iff]

theorem BoundField.Describes.enter {chain : FieldChain} {column : BoundField}
    (described : column.Describes (path ++ [field.name]) (start ++ field.start?.getD "") chain) :
    column.Describes path start { chain with ancestors := field :: chain.ancestors } := by
  obtain ⟨path_eq, type_eq, tag, named, parsed, read, options, column_eq⟩ := described
  refine ⟨?_, type_eq, tag, named, parsed, read, options, ?_⟩
  · rw [path_eq, FieldChain.names, FieldChain.names, List.map_cons, List.append_assoc]
    rfl
  · rw [column_eq, FieldChain.start, FieldChain.start, List.map_cons, String.join_cons, String.append_assoc]

theorem LaidOut.within (transparent : field.Transparent) (nested : field.nestedFields? = some members)
    (inner : LaidOut (path ++ [field.name]) (start ++ field.start?.getD "") members columns) :
    LaidOut path start [field] columns := by
  obtain ⟨chains, lists, described⟩ := inner
  refine ⟨_, lists.within transparent nested, ?_⟩
  rw [List.forall₂_map_left_iff]
  exact described.imp fun _ _ => BoundField.Describes.enter

theorem laidOut_of_boundFields :
    (∀ path start fields columns, boundFields .tagged path start fields = .ok columns →
      LaidOut path start fields columns) ∧
    (∀ path start field columns, boundFieldsOf .tagged path start field = .ok columns →
      LaidOut path start [field] columns) ∧
    (∀ path start type members columns, type.required.recordFields? = some members →
      boundFieldsWithin .tagged path start type = .ok columns → LaidOut path start members columns) := by
  apply boundFields.mutual_induct
    (fun path start fields => ∀ columns, boundFields .tagged path start fields = .ok columns →
      LaidOut path start fields columns)
    (fun path start field => ∀ columns, boundFieldsOf .tagged path start field = .ok columns →
      LaidOut path start [field] columns)
    (fun path start type => ∀ members columns, type.required.recordFields? = some members →
      boundFieldsWithin .tagged path start type = .ok columns → LaidOut path start members columns)
  -- an optional record, a record, and what is neither
  case case1 =>
    intro path start inner _ _ _ _ ih members columns nested laid
    cases HostType.shape_of_recordFields nested
    exact ih columns laid
  case case2 =>
    intro path start inner _ _ ih members columns nested laid
    cases HostType.shape_of_recordFields nested
    exact ih columns laid
  case case3 =>
    intro type path start notOptional notRecord members columns nested laid
    rcases HostType.eq_of_required nested with ⟨name, traits, name', traits', rfl⟩ | ⟨name, traits, rfl⟩
    · exact (notOptional members name traits name' traits' rfl).elim
    · exact (notRecord members name traits rfl).elim
  -- a field is skipped, laid out in place or bound
  case case4 =>
    intro path start name tag type embedded ih columns laid
    rw [boundFieldsOf] at laid
    obtain ⟨role, found, laid⟩ := bind_eq_ok.mp laid
    have suits := suits_of_ofField found
    cases suits with
    | skipped notTransparent leftOut =>
      cases pure_eq_ok.mp laid
      exact ⟨[], .skipped notTransparent leftOut, .nil⟩
    | within transparent =>
      obtain ⟨members, nested⟩ := Option.isSome_iff_exists.mp transparent.1
      exact .within transparent nested (ih _ members columns nested laid)
    | bound notTransparent parsed kept read =>
      cases pure_eq_ok.mp laid
      refine ⟨_, .bound notTransparent parsed kept, .cons ⟨rfl, rfl, _, _, parsed, read, rfl, ?_⟩ .nil⟩
      simp [FieldChain.start]
  case case5 =>
    intro path start columns laid
    cases laid
    exact ⟨[], .nil, .nil⟩
  case case6 =>
    intro path start field fields ihHere ihLater columns laid
    simp only [boundFields, bind_eq_ok, pure_eq_ok] at laid
    obtain ⟨here, hereLaid, later, laterLaid, rfl⟩ := laid
    exact (ihHere here hereLaid).cons (ihLater later laterLaid)

end

/-- The columns of a record are those of the chains of its fields that lead to columns, in the order of
declaration, each once. A column has the path, the type and the options of its chain, and its name begins with
what the ancestors put there. -/
theorem BoundField.columns_of_chains {record : HostType} {columns : List BoundField}
    (laid : BoundField.ofRecord .tagged record = .ok columns) :
    ∃ chains, ListsColumns (record.recordFields?.getD []) chains ∧
      List.Forall₂ (fun entry column => column.Describes [] "" entry.2) chains columns :=
  laidOut_of_boundFields.1 [] "" _ columns laid

def authorRecord : HostType := recordOf
  [taggedField "Id" "sql" "id,ro" (HostType.scalar .i32),
   taggedField "Home" "sql" ">home_" { shape := .optional homeRecord },
   { taggedField "Dates" "sql" "-" datesRecord with embedded := true }]
where
  homeRecord : HostType := recordOf
    [taggedField "City" "sql" "city" HostType.text,
     { name := "Note", type := HostType.text },
     taggedField "Geo" "sql" ">geo_,json" (recordOf [taggedField "Lat" "sql" "lat" HostType.text])]
  datesRecord : HostType := recordOf
    [taggedField "Born" "sql" "born" HostType.time, taggedField "Seen" "sql" "-" HostType.time]

theorem BoundField.columns_of_chains_authorRecord :
    ∃ columns, BoundField.ofRecord .tagged authorRecord = .ok columns ∧
      columns.map (fun column => (column.path, column.column.text)) =
        [(["Id"], "id"), (["Home", "City"], "home_city"), (["Home", "Geo", "Lat"], "home_geo_lat"),
         (["Dates", "Born"], "born")] ∧
      ∃ chains, ListsColumns (authorRecord.recordFields?.getD []) chains ∧
        List.Forall₂ (fun entry column => column.Describes [] "" entry.2) chains columns := by
  obtain ⟨columns, laid, named⟩ := exists_ok_of_any
    (fun columns : List BoundField => columns.map (fun column => (column.path, column.column.text)) ==
      [(["Id"], "id"), (["Home", "City"], "home_city"), (["Home", "Geo", "Lat"], "home_geo_lat"),
       (["Dates", "Born"], "born")])
    (show (BoundField.ofRecord .tagged authorRecord).toOption.any _ = true by decide +kernel)
  exact ⟨columns, laid, beq_iff_eq.mp named, BoundField.columns_of_chains laid⟩

end RecordSql
