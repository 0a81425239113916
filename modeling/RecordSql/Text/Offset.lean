import RecordSql.Text.Blank

/-!
Offsets in bytes. A character takes from one to four bytes in UTF-8, so a text can be cut where a character
starts and at its end, but not at the offsets between.
-/
namespace RecordSql.Text

def byteLength : List Char → Nat
  | [] => 0
  | c :: cs => c.utf8Size + byteLength cs

def withOffsets : Nat → List Char → List (Nat × Char)
  | _, [] => []
  | offset, c :: cs => (offset, c) :: withOffsets (offset + c.utf8Size) cs

/-- The text before an offset and the text from it on. There is no cut inside a character or after the end. -/
def cutAt? : Nat → List Char → Option (List Char × List Char)
  | 0, cs => some ([], cs)
  | _ + 1, [] => none
  | offset + 1, c :: cs =>
    if c.utf8Size ≤ offset + 1 then
      (cutAt? (offset + 1 - c.utf8Size) cs).map fun (before, after) => (c :: before, after)
    else none

def slice? (start stop : Nat) (cs : List Char) : Option (List Char) := do
  let whole ← cutAt? stop cs
  let head ← cutAt? start whole.1
  return head.2

theorem byteLength_cons (c : Char) (cs : List Char) : byteLength (c :: cs) = c.utf8Size + byteLength cs := rfl

theorem byteLength_append (cs ds : List Char) : byteLength (cs ++ ds) = byteLength cs + byteLength ds := by
  induction cs with
  | nil => exact (Nat.zero_add _).symm
  | cons c cs ih => rw [List.cons_append, byteLength_cons, byteLength_cons, ih, Nat.add_assoc]

theorem byteLength_concat (cs : List Char) (c : Char) : byteLength (cs ++ [c]) = byteLength cs + c.utf8Size :=
  byteLength_append cs [c]

theorem cutAt?_append (before after : List Char) :
    cutAt? (byteLength before) (before ++ after) = some (before, after) := by
  induction before with
  | nil => cases after <;> rfl
  | cons c before ih =>
    obtain ⟨size, positive⟩ := Nat.exists_eq_add_of_lt c.utf8Size_pos
    have start : byteLength (c :: before) = size + byteLength before + 1 := by
      rw [byteLength_cons]
      omega
    have fits : c.utf8Size ≤ size + byteLength before + 1 := by omega
    have rest : size + byteLength before + 1 - c.utf8Size = byteLength before := by omega
    rw [start, List.cons_append, cutAt?, if_pos fits, rest, ih]
    rfl

theorem slice?_append (before inside after : List Char) :
    slice? (byteLength before) (byteLength (before ++ inside)) (before ++ inside ++ after) = some inside := by
  rw [slice?, cutAt?_append, Option.bind_eq_bind, Option.bind_some, cutAt?_append]
  rfl

end RecordSql.Text
