import RecordSql.Proofs.Annotation.Predicate

/-!
The grammar of groups: entries with connectors between them. A group is read just where no connector stands
first, last or beside another one, and each entry is the one that its member alone would make.
-/
namespace RecordSql

def HostField.connector? (member : HostField) : Option Connector := connectorOf? member.directive?

def Entry.joinedBy (connector : Connector) : Entry → Entry
  | .leaf _ inner => .leaf connector inner
  | .group _ name entries => .group connector name entries

/-- No connector stands first, last or beside another one. -/
structure Alternates (members : List HostField) : Prop where
  present : members ≠ []
  first : ∀ member ∈ members.head?, member.connector? = none
  last : ∀ member ∈ members.getLast?, member.connector? = none
  apart : members.IsChain fun one next => one.connector? = none ∨ next.connector? = none

/-- The members of a list, each with the one just before it. -/
def withEarlier (earlier : Option HostField) : List HostField → List (Option HostField × HostField)
  | [] => []
  | member :: members => (earlier, member) :: withEarlier (some member) members

def entryPlaces (earlier : Option HostField) (members : List HostField) :
    List (Option HostField × HostField) :=
  (withEarlier earlier members).filter fun placed => placed.2.connector?.isNone

/-- An entry is the one that its member makes by itself, joined as the member just before says. -/
def Entry.MadeBy (group : String) (path : List String) (placed : Option HostField × HostField)
    (entry : Entry) : Prop :=
  (∃ own, readEntry group path .and placed.2 = .ok own ∧ entry = own.joinedBy entry.connector) ∧
    (entry.connector = .or ↔ placed.1.bind HostField.connector? = some .or)

section

variable {group : String} {path : List String}

theorem readEntry_eq_joinedBy (connector : Connector) (member : HostField) :
    readEntry group path connector member =
      Entry.joinedBy connector <$> readEntry group path .and member := by
  obtain ⟨name, tag, type, embedded⟩ := member
  simp only [readEntry]
  split
  · simp only [map_bind, map_pure, Entry.joinedBy]
  · rfl
  · split
    · simp only [map_bind, map_pure, Entry.joinedBy]
    · simp only [map_bind, map_pure, Entry.joinedBy]
    · simp only [map_bind, map_pure, Entry.joinedBy]
    · rfl

/-- The entries that follow a member, if there is one before them. What the reading knows of the members
before is whether there are any, and whether the last of them is a connector. -/
def entriesAfter (group : String) (path : List String) (earlier : Option HostField) :
    List HostField → Except AnnotationError (List Entry) :=
  readEntries group path earlier.isSome
    (earlier.bind fun member => member.connector?.map fun connector => (connector, member.name))

theorem entriesAfter_nil (earlier : Option HostField) : entriesAfter group path earlier [] =
    match earlier with
    | none => .error (.emptyGroup group)
    | some member => if member.connector?.isSome then .error (.danglingConnector member.name) else .ok [] := by
  cases earlier with
  | none => simp [entriesAfter, readEntries]
  | some member => cases found : member.connector? <;> simp [entriesAfter, readEntries, found]

theorem entriesAfter_connector (earlier : Option HostField) {member : HostField} (members : List HostField)
    (isConnector : member.connector?.isSome = true) :
    entriesAfter group path earlier (member :: members) =
      if earlier.any fun before => before.connector?.isNone then entriesAfter group path (some member) members
      else .error (.danglingConnector member.name) := by
  obtain ⟨connector, found⟩ := Option.isSome_iff_exists.mp isConnector
  have marked : connectorOf? member.directive? = some connector := found
  cases earlier with
  | none => simp [entriesAfter, readEntries, marked]
  | some before => cases joined : before.connector? <;> simp [entriesAfter, readEntries, marked, found, joined]

theorem entriesAfter_entry (earlier : Option HostField) {member : HostField} (members : List HostField)
    (notConnector : member.connector? = none) :
    entriesAfter group path earlier (member :: members) = (do
      let entry ← readEntry group path ((earlier.bind HostField.connector?).getD .and) member
      let entries ← entriesAfter group path (some member) members
      return entry :: entries) := by
  have marked : connectorOf? member.directive? = none := notConnector
  have joined : ((earlier.bind fun member => member.connector?.map fun connector =>
      (connector, member.name)).map Prod.fst) = earlier.bind HostField.connector? := by
    cases earlier with
    | none => rfl
    | some before => cases found : before.connector? <;> simp [found]
  simp only [entriesAfter, readEntries, marked, joined, notConnector, Option.isSome_some, Option.bind_some,
    Option.map_none]

/-- The members go on where the one before them, if there is one, has ended, and end with an entry. -/
def Continues (earlier : Option HostField) : List HostField → Prop
  | [] => ∃ before ∈ earlier, before.connector? = none
  | member :: members =>
    (member.connector? = none ∨ ∃ before ∈ earlier, before.connector? = none) ∧
      Continues (some member) members

theorem continues_some_iff {before : HostField} {members : List HostField} :
    Continues (some before) members ↔
      (before :: members).IsChain (fun one next => one.connector? = none ∨ next.connector? = none) ∧
        ∀ member ∈ (before :: members).getLast?, member.connector? = none := by
  induction members generalizing before with
  | nil => simp [Continues]
  | cons member members ih =>
    rw [Continues, ih, List.isChain_cons_cons, List.getLast?_cons_cons, and_assoc]
    simp [or_comm]

theorem alternates_iff {members : List HostField} : Alternates members ↔ Continues none members := by
  cases members with
  | nil => exact ⟨fun alternates => absurd rfl alternates.present, fun ⟨_, found, _⟩ => by cases found⟩
  | cons member members =>
    rw [Continues, continues_some_iff]
    constructor
    · rintro ⟨_, first, last, apart⟩
      exact ⟨.inl (first member rfl), apart, last⟩
    · rintro ⟨first, apart, last⟩
      exact ⟨List.cons_ne_nil _ _, by simpa using first, last, apart⟩

variable {earlier : Option HostField} {members : List HostField}

def EachRead (group : String) (path : List String) (members : List HostField) : Prop :=
  ∀ member ∈ members, member.connector? = none → ∃ own, readEntry group path .and member = .ok own

theorem madeBy_joinedBy {member : HostField} {own : Entry} (read : readEntry group path .and member = .ok own) :
    (own.joinedBy ((earlier.bind HostField.connector?).getD .and)).MadeBy group path (earlier, member) := by
  have connector (joiner : Connector) : (own.joinedBy joiner).connector = joiner := by cases own <;> rfl
  refine ⟨⟨own, read, by rw [connector]⟩, ?_⟩
  rw [connector]
  rcases earlier.bind HostField.connector? with _ | _ | _ <;> simp

theorem exists_entriesAfter (each : EachRead group path members) (continues : Continues earlier members) :
    ∃ entries, entriesAfter group path earlier members = .ok entries ∧
      List.Forall₂ (Entry.MadeBy group path) (entryPlaces earlier members) entries := by
  induction members generalizing earlier with
  | nil =>
    obtain ⟨before, rfl, ended⟩ := continues
    exact ⟨[], by simp [entriesAfter_nil, ended], .nil⟩
  | cons member members ih =>
    obtain ⟨fits, continues⟩ := continues
    obtain ⟨now, later⟩ := List.forall_mem_cons.mp each
    obtain ⟨entries, read, made⟩ := ih later continues
    cases found : member.connector? with
    | none =>
      obtain ⟨own, ownRead⟩ := now found
      refine ⟨own.joinedBy ((earlier.bind HostField.connector?).getD .and) :: entries, ?_, ?_⟩
      · rw [entriesAfter_entry earlier members found, readEntry_eq_joinedBy, ownRead, read]
        rfl
      · simpa [entryPlaces, withEarlier, found] using ⟨madeBy_joinedBy ownRead, made⟩
    | some connector =>
      obtain ⟨before, rfl, ended⟩ := fits.resolve_left (by simp [found])
      refine ⟨entries, ?_, by simpa [entryPlaces, withEarlier, found] using made⟩
      rw [entriesAfter_connector _ members (by simp [found]), if_pos (by simp [ended]), read]

theorem entriesAfter_eq_error (each : EachRead group path members) (stops : ¬ Continues earlier members) :
    (earlier = none ∧ members = [] ∧
      entriesAfter group path earlier members = .error (.emptyGroup group)) ∨
    ∃ member ∈ earlier.toList ++ members, member.connector?.isSome = true ∧
      entriesAfter group path earlier members = .error (.danglingConnector member.name) := by
  induction members generalizing earlier with
  | nil =>
    cases earlier with
    | none => exact .inl ⟨rfl, rfl, entriesAfter_nil none⟩
    | some before =>
      have isConnector : before.connector?.isSome = true := by
        simpa [Continues, Option.isSome_iff_ne_none] using stops
      exact .inr ⟨before, by simp, isConnector, by simp [entriesAfter_nil, isConnector]⟩
  | cons member members ih =>
    obtain ⟨now, later⟩ := List.forall_mem_cons.mp each
    right
    by_cases misplaced : member.connector? = none ∨ ∃ before ∈ earlier, before.connector? = none
    · have stops : ¬ Continues (some member) members := fun continues => stops ⟨misplaced, continues⟩
      obtain ⟨absent, _⟩ | ⟨named, isMember, isConnector, failed⟩ := ih later stops
      · cases absent
      refine ⟨named, by simpa using .inr (by simpa using isMember), isConnector, ?_⟩
      cases found : member.connector? with
      | none =>
        obtain ⟨own, ownRead⟩ := now found
        rw [entriesAfter_entry earlier members found, readEntry_eq_joinedBy, ownRead, failed]
        rfl
      | some connector =>
        obtain ⟨before, rfl, ended⟩ := misplaced.resolve_left (by simp [found])
        rw [entriesAfter_connector _ members (by simp [found]), if_pos (by simp [ended]), failed]
    · rw [not_or] at misplaced
      have isConnector := Option.isSome_iff_ne_none.mpr misplaced.1
      refine ⟨member, by simp, isConnector, ?_⟩
      rw [entriesAfter_connector _ members isConnector, if_neg]
      cases earlier with
      | none => simp
      | some before => simpa using misplaced.2

/-- Where every member can be read by itself, a group is read just where its connectors stand between
entries. It then has an entry for each member that is no connector, and else a connector is misplaced or
there are no members. -/
theorem group_reads_iff (group : String) (path : List String) (members : List HostField)
    (each : EachRead group path members) :
    ((∃ entries, readEntries group path false none members = .ok entries) ↔ Alternates members) ∧
    (∀ entries, readEntries group path false none members = .ok entries →
      List.Forall₂ (Entry.MadeBy group path) (entryPlaces none members) entries) ∧
    (members = [] → readEntries group path false none members = .error (.emptyGroup group)) ∧
    (members ≠ [] → ¬ Alternates members → ∃ member ∈ members, member.connector?.isSome = true ∧
      readEntries group path false none members = .error (.danglingConnector member.name)) := by
  have reads (alternates : Alternates members) :=
    exists_entriesAfter each (alternates_iff.mp alternates)
  have fails (stops : ¬ Alternates members) :=
    entriesAfter_eq_error each (alternates_iff.not.mp stops)
  have alternates {entries : List Entry} (read : readEntries group path false none members = .ok entries) :
      Alternates members := by
    by_contra stops
    rcases fails stops with ⟨_, _, failed⟩ | ⟨_, _, _, failed⟩ <;> cases read.symm.trans failed
  refine ⟨⟨fun ⟨entries, read⟩ => alternates read, fun holds => ?_⟩, ?_, ?_, ?_⟩
  · obtain ⟨entries, read, _⟩ := reads holds
    exact ⟨entries, read⟩
  · intro entries read
    obtain ⟨made, madeRead, each⟩ := reads (alternates read)
    cases read.symm.trans madeRead
    exact each
  · rintro rfl
    exact entriesAfter_nil none
  · intro present stops
    obtain ⟨_, empty, _⟩ | ⟨member, isMember, isConnector, failed⟩ := fails stops
    · exact absurd empty present
    · exact ⟨member, by simpa using isMember, isConnector, failed⟩

end

def oldPosts : List HostField :=
  [{ name := "_", tag := ⟨[("sql", "body isnull")]⟩, type := Directive.column.hostType },
   { name := "_", type := Directive.and.hostType },
   { name := "Last", tag := ⟨[("sql", "id <=")]⟩, type := HostType.scalar .i32 }]

def titleOrOld : List HostField :=
  [{ name := "Title", tag := ⟨[("sql", "title like")]⟩, type := HostType.text },
   { name := "_", type := Directive.or.hostType },
   { name := "Old", type := { shape := .record oldPosts } }]

theorem group_reads_iff_titleOrOld :
    EachRead "Where" ["Where"] titleOrOld ∧
    (∃ entries, readEntries "Where" ["Where"] false none titleOrOld = .ok entries ∧
      List.Forall₂ (Entry.MadeBy "Where" ["Where"]) (entryPlaces none titleOrOld) entries) ∧
    ∃ member ∈ titleOrOld.take 2, member.connector?.isSome = true ∧
      readEntries "Where" ["Where"] false none (titleOrOld.take 2) = .error (.danglingConnector member.name) := by
  have each : EachRead "Where" ["Where"] titleOrOld := by
    have read : ∀ member ∈ titleOrOld, member.connector? = none →
        (readEntry "Where" ["Where"] .and member).toOption.any (fun _ => true) = true := by decide +kernel
    intro member isMember notConnector
    obtain ⟨own, ownRead, _⟩ := exists_ok_of_any _ (read member isMember notConnector)
    exact ⟨own, ownRead⟩
  have eachTaken : EachRead "Where" ["Where"] (titleOrOld.take 2) :=
    fun member isMember => each member (List.mem_of_mem_take isMember)
  obtain ⟨reads, made, _⟩ := group_reads_iff "Where" ["Where"] titleOrOld each
  obtain ⟨_, _, _, dangles⟩ := group_reads_iff "Where" ["Where"] (titleOrOld.take 2) eachTaken
  obtain ⟨entries, read⟩ := reads.mpr
    { present := by simp [titleOrOld]
      first := by decide +kernel
      last := by decide +kernel
      apart := by simp only [titleOrOld, List.isChain_cons_cons, List.IsChain.singleton, and_true]; decide +kernel }
  refine ⟨each, ⟨entries, read, made entries read⟩, dangles (by simp [titleOrOld]) fun alternates => ?_⟩
  exact absurd (alternates.last (titleOrOld[1]) rfl) (by decide +kernel)

end RecordSql
