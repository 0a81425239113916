import RecordSql.Text.Offset

namespace RecordSql.Text

def splitOnce (sep : Char) : List Char → Option (List Char × List Char)
  | [] => none
  | c :: cs =>
    if c = sep then some ([], cs)
    else (splitOnce sep cs).map fun (before, after) => (c :: before, after)

def extendFirst (c : Char) : List (List Char) → List (List Char)
  | [] => [[c]]
  | piece :: pieces => (c :: piece) :: pieces

def pieces (sep : Char) : List Char → List (List Char)
  | [] => [[]]
  | c :: cs => if c = sep then [] :: pieces sep cs else extendFirst c (pieces sep cs)

structure Nesting where
  depth : Nat := 0
  quoted : Bool := false
  deriving DecidableEq, Repr

namespace Nesting

def isTop (here : Nesting) : Bool := !here.quoted && here.depth == 0

/-- A quote toggles; parentheses count outside quotes only, and closing one too many is ignored. -/
def after (here : Nesting) (c : Char) : Nesting :=
  if c = '\'' then { here with quoted := !here.quoted }
  else if here.quoted then here
  else if c = '(' then { here with depth := here.depth + 1 }
  else if c = ')' then { here with depth := here.depth - 1 }
  else here

end Nesting

def isNestingMark (c : Char) : Bool := c == '\'' || c == '(' || c == ')'

def separatesAt (sep : Char) (here : Nesting) (c : Char) : Bool :=
  c == sep && !isNestingMark c && here.isTop

/-- How far a text was looked through for separators at top level: the pieces before the last one, the offset
at which the next piece starts, and the nesting. -/
structure Scan where
  pieces : List (List Char) := []
  start : Nat := 0
  here : Nesting := {}

namespace Scan

def step (sep : Char) (cs : List Char) (scan : Scan) (place : Nat × Char) : Option Scan :=
  if separatesAt sep scan.here place.2 then do
    let piece ← slice? scan.start place.1 cs
    return { scan with pieces := scan.pieces ++ [piece], start := place.1 + place.2.utf8Size }
  else return { scan with here := scan.here.after place.2 }

def finish (cs : List Char) (scan : Scan) : Option (List (List Char)) := do
  let last ← slice? scan.start (byteLength cs) cs
  return scan.pieces ++ [last]

end Scan

def cutTopLevel? (sep : Char) (cs : List Char) : Option (List (List Char)) :=
  (withOffsets 0 cs).foldlM (Scan.step sep cs) {} >>= Scan.finish cs

/-- The untrimmed pieces between the separators at top level, character by character. -/
def topLevelPieces (sep : Char) : Nesting → List Char → List (List Char)
  | _, [] => [[]]
  | here, c :: cs =>
    if separatesAt sep here c then [] :: topLevelPieces sep here cs
    else extendFirst c (topLevelPieces sep (here.after c) cs)

theorem topLevelPieces_ne_nil (sep : Char) (here : Nesting) (cs : List Char) :
    topLevelPieces sep here cs ≠ [] := by
  cases cs with
  | nil => exact List.cons_ne_nil _ _
  | cons c cs =>
    rw [topLevelPieces]
    split
    · exact List.cons_ne_nil _ _
    · cases topLevelPieces sep (here.after c) cs <;> exact List.cons_ne_nil _ _

theorem extendFirst_foldr (cs piece : List Char) (pieces : List (List Char)) :
    cs.foldr extendFirst (piece :: pieces) = (cs ++ piece) :: pieces := by
  induction cs with
  | nil => rfl
  | cons c cs ih => simp [ih, extendFirst]

/-- A scan that has come to `rest`, in a piece of which it has seen `opened`, cuts the pieces of what is left,
the first of them behind `opened`. -/
theorem Scan.run_eq {sep : Char} {cs : List Char} (done opened : List Char) {rest : List Char}
    (whole : cs = done ++ opened ++ rest) (pieces : List (List Char)) (here : Nesting) :
    (withOffsets (byteLength (done ++ opened)) rest).foldlM (step sep cs) ⟨pieces, byteLength done, here⟩ >>=
        finish cs =
      some (pieces ++ opened.foldr extendFirst (topLevelPieces sep here rest)) := by
  induction rest generalizing done opened pieces here with
  | nil =>
    have last : slice? (byteLength done) (byteLength cs) cs = some opened := by
      simpa [whole] using slice?_append done opened []
    simp [withOffsets, finish, last, topLevelPieces, extendFirst_foldr]
  | cons c rest ih =>
    rw [withOffsets, List.foldlM_cons, topLevelPieces, ← byteLength_concat]
    by_cases separates : separatesAt sep here c = true
    · have piece : slice? (byteLength done) (byteLength (done ++ opened)) cs = some opened :=
        whole ▸ slice?_append done opened (c :: rest)
      have later := ih (done ++ opened ++ [c]) [] (by simp [whole]) (pieces ++ [opened]) here
      have next : step sep cs ⟨pieces, byteLength done, here⟩ (byteLength (done ++ opened), c) =
          some ⟨pieces ++ [opened], byteLength (done ++ opened ++ [c]), here⟩ := by
        rw [byteLength_concat]
        simp [step, separates, piece]
      rw [next, if_pos separates, extendFirst_foldr]
      simpa using later
    · have later := ih done (opened ++ [c]) (by simp [whole]) pieces (here.after c)
      have next : step sep cs ⟨pieces, byteLength done, here⟩ (byteLength (done ++ opened), c) =
          some ⟨pieces, byteLength done, here.after c⟩ := by
        simp [step, separates]
      rw [next, if_neg separates]
      simpa using later

theorem cutTopLevel?_eq (sep : Char) (cs : List Char) : cutTopLevel? sep cs = some (topLevelPieces sep {} cs) :=
  Scan.run_eq [] [] rfl [] {}

def splitTopLevel (sep : Char) (cs : List Char) : List (List Char) :=
  ((cutTopLevel? sep cs).get (by rw [cutTopLevel?_eq]; rfl)).map trim

theorem splitTopLevel_eq (sep : Char) (cs : List Char) :
    splitTopLevel sep cs = (topLevelPieces sep {} cs).map trim := by
  simp only [splitTopLevel, cutTopLevel?_eq, Option.get_some]

theorem splitTopLevel_ne_nil (sep : Char) (cs : List Char) : splitTopLevel sep cs ≠ [] := by
  rw [splitTopLevel_eq, ne_eq, List.map_eq_nil_iff]
  exact topLevelPieces_ne_nil sep {} cs

end RecordSql.Text
