import RecordSql.Proofs.Statement.Lowering

/-!
The order of fields. Each field of a command fills at most one slot, and none is filled twice, so the
fields of a command may stand in any order, and fields that mean nothing to it may stand among them.
-/
namespace RecordSql

def Placement.names : List String :=
  ["where", "join", "from", "using", "onconflict", "limit", "offset", "result", "rowsaffected",
   "errorhandler"]

theorem Placement.ofName?_eq_none {name : String} :
    Placement.ofName? name = none ↔ Text.lower name ∉ Placement.names := by
  unfold Placement.ofName?
  split <;> simp_all [Placement.names]

/-- The field is no record, no directive and no block. -/
structure HostField.Unrelated (field : HostField) : Prop where
  unbound : field.rel? = none
  unmarked : field.directive? = none
  unnamed : Text.lower field.name ∉ Placement.names

def Block.Apart (one other : Option Block) : Prop :=
  ∀ block ∈ one, ∀ second ∈ other, block.slot ≠ second.slot

theorem Block.Apart.symm {one other : Option Block} (apart : Block.Apart one other) :
    Block.Apart other one :=
  fun second inOther block inOne => (apart block inOne second inOther).symm

namespace Command

variable {naming : ColumnNaming} {name : String} {fields reordered : List HostField}
  {command before after : Command} {added more : Option Block}

theorem isFilled_fill (block : Block) (slot : Slot) :
    (before.fill block).isFilled slot = (block.slot == slot || before.isFilled slot) := by
  cases block <;> cases slot <;> rfl

theorem fill_comm {one other : Block} (apart : one.slot ≠ other.slot) :
    (before.fill one).fill other = (before.fill other).fill one := by
  cases one <;> cases other <;> first | rfl | exact absurd rfl apart

theorem hasRoom_with? : (before.with? added).HasRoom more ↔
    before.HasRoom more ∧ Block.Apart added more := by
  cases added with
  | none => simp [with?, Block.Apart]
  | some block =>
    simp only [HasRoom, with?, Block.Apart, Option.map_some, Option.getD_some, isFilled_fill,
      Bool.or_eq_false_iff, beq_eq_false_iff_ne, Option.mem_def, Option.some.injEq, forall_eq']
    constructor
    · intro room
      exact ⟨fun other held => (room other held).2, fun other held => (room other held).1⟩
    · rintro ⟨free, apart⟩ other held
      exact ⟨apart other held, free other held⟩

theorem with?_comm (apart : Block.Apart added more) :
    (before.with? added).with? more = (before.with? more).with? added := by
  cases added with
  | none => rfl
  | some block =>
    cases more with
    | none => rfl
    | some other => exact fill_comm (apart block rfl other rfl)

theorem frame_with? (before : Command) (added : Option Block) :
    (before.with? added).name = before.name ∧ (before.with? added).kind = before.kind := by
  cases added with
  | none => exact ⟨rfl, rfl⟩
  | some block =>
    obtain ⟨name, kind, _⟩ := fill_frame before block
    exact ⟨name, kind⟩

theorem addField_swap {one other : HostField} {between : Command}
    (first : before.addField naming one = .ok between)
    (second : between.addField naming other = .ok after) :
    ∃ middle, before.addField naming other = .ok middle ∧ middle.addField naming one = .ok after := by
  obtain ⟨added, adds, room, rfl⟩ := addField_eq_ok.mp first
  obtain ⟨more, addsMore, roomLeft, rfl⟩ := addField_eq_ok.mp second
  obtain ⟨roomForMore, apart⟩ := hasRoom_with?.mp roomLeft
  have ⟨sameName, sameKind⟩ := before.frame_with? added
  have ⟨otherName, otherKind⟩ := before.frame_with? more
  rw [sameName, sameKind] at addsMore
  refine ⟨before.with? more, addField_eq_ok.mpr ⟨more, addsMore, roomForMore, rfl⟩, ?_⟩
  refine addField_eq_ok.mpr ⟨added, ?_, hasRoom_with?.mpr ⟨room, apart.symm⟩, with?_comm apart⟩
  rwa [otherName, otherKind]

theorem recordField_perm {field : HostField} (perm : fields.Perm reordered)
    (found : recordField name fields = .ok field) : recordField name reordered = .ok field := by
  unfold recordField at found
  split at found
  · cases found
  · rename_i only
    cases found
    have same : reordered.filter (fun field => field.rel?.isSome) = [field] :=
      List.perm_singleton.mp (only ▸ (perm.filter _).symm)
    simp only [recordField, same]
  · cases found

theorem read_perm (perm : fields.Perm reordered) (read : Command.read naming name fields = .ok command) :
    Command.read naming name reordered = .ok command := by
  unfold Command.read at read ⊢
  split at read
  case h_2 => simp only [bind_eq_ok, throw_ne_ok, false_and, exists_false] at read
  case h_1 =>
    simp only [bind_eq_ok, pure_eq_ok] at read ⊢
    obtain ⟨kind, kindOf, field, found, record, recordRead, built, folded, finish⟩ := read
    have swap : ∀ before one other between after, addField naming before one = .ok between →
        addField naming between other = .ok after →
        ∃ middle, addField naming before other = .ok middle ∧ addField naming middle one = .ok after :=
      fun _ _ _ _ _ first second => addField_swap first second
    exact ⟨kind, kindOf, field, recordField_perm perm found, record, recordRead, built,
      foldlM_perm swap perm folded, finish⟩

theorem addField_unrelated {field : HostField} (unrelated : field.Unrelated) :
    before.addField naming field = .ok before := by
  refine addField_eq_ok.mpr ⟨none, .unrelated unrelated.unbound ?_, by simp [HasRoom], rfl⟩
  simp only [Placement.ofField?, unrelated.unmarked, Placement.ofName?_eq_none.mpr unrelated.unnamed]

/-- A field that is no record, directive or block is passed over, wherever it stands. -/
theorem read_unrelated {field : HostField} (unrelated : field.Unrelated)
    (earlier later : List HostField) :
    Command.read naming name (earlier ++ field :: later) =
      Command.read naming name (earlier ++ later) := by
  have records : recordField name (earlier ++ field :: later) = recordField name (earlier ++ later) := by
    simp [recordField, unrelated.unbound]
  have folded (start : Command) : (earlier ++ field :: later).foldlM (addField naming) start =
      (earlier ++ later).foldlM (addField naming) start := by
    rw [List.foldlM_append, List.foldlM_append]
    refine bind_congr fun middle => ?_
    rw [List.foldlM_cons, addField_unrelated unrelated]
    rfl
  simp only [Command.read, records, folded]

/-- Fields make the same command in any order, and fields that mean nothing to a command change neither
the command nor what is wrong with it. -/
theorem read_in_any_order (naming : ColumnNaming) (name : String) (fields : List HostField) :
    (∀ reordered command, reordered.Perm fields →
      (Command.read naming name reordered = .ok command ↔
        Command.read naming name fields = .ok command)) ∧
    ∀ earlier later field, fields = earlier ++ later → field.Unrelated →
      Command.read naming name (earlier ++ field :: later) = Command.read naming name fields := by
  constructor
  · intro reordered command perm
    exact ⟨read_perm perm, read_perm perm.symm⟩
  · rintro earlier later field rfl unrelated
    exact read_unrelated unrelated earlier later

def renameAuthorsNoted : List HostField :=
  renameAuthors.reverse.take 1 ++
    { name := "Note", type := HostType.text } :: renameAuthors.reverse.drop 1

theorem read_in_any_order_renameAuthors :
    ∃ command, Command.read .tagged "UpdateUser" renameAuthors = .ok command ∧
      renameAuthors.reverse.Perm renameAuthors ∧
      Command.read .tagged "UpdateUser" renameAuthors.reverse = .ok command ∧
      HostField.Unrelated { name := "Note", type := HostType.text } ∧
      Command.read .tagged "UpdateUser" renameAuthorsNoted = .ok command := by
  obtain ⟨command, read, _⟩ := exists_read (fun command => command.whereBlock.isSome)
    (show (Command.read .tagged "UpdateUser" renameAuthors).toOption.any _ = true by decide +kernel)
  have perm : renameAuthors.reverse.Perm renameAuthors := List.reverse_perm _
  have backwards := (((read_in_any_order .tagged "UpdateUser" renameAuthors).1 _ command perm).mpr read)
  have unrelated : HostField.Unrelated { name := "Note", type := HostType.text } :=
    ⟨rfl, rfl, by decide⟩
  have noted := (read_in_any_order .tagged "UpdateUser" renameAuthors.reverse).2 _ _ _
    (List.take_append_drop 1 _).symm unrelated
  exact ⟨command, read, perm, backwards, unrelated, noted.trans backwards⟩

end Command

end RecordSql
