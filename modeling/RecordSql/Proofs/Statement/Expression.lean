import RecordSql.Proofs.Statement.Identifier

namespace RecordSql

/-- No text is written as it stands but the names of functions, which are identifiers in lower case. -/
def Expr.Structured : Expr → Prop
  | .literal _ => False
  | .call func arg => (isIdent func = true ∧ Text.lower func = func) ∧ arg.Structured
  | _ => True

def Expr.decidableStructured : (expr : Expr) → Decidable expr.Structured
  | .literal _ => .isFalse id
  | .call func arg =>
    have := arg.decidableStructured
    inferInstanceAs (Decidable ((isIdent func = true ∧ Text.lower func = func) ∧ arg.Structured))
  | .column _ => .isTrue trivial
  | .param _ => .isTrue trivial
  | .default => .isTrue trivial
  | .excluded _ => .isTrue trivial

instance (expr : Expr) : Decidable expr.Structured := expr.decidableStructured

def stopsAt (c : Char) : Bool := c == ' ' || c == ')'

/-- What may follow an expression or a condition in a condition: nothing, a blank or a parenthesis. -/
def Stops (rest : List Char) : Prop := ∀ c ∈ rest.head?, stopsAt c = true

theorem Stops.head {c : Char} {rest : List Char} (stops : Stops (c :: rest)) : c = ' ' ∨ c = ')' := by
  simpa [stopsAt] using stops c rfl

theorem Stops.endsName {rest : List Char} (stops : Stops rest) : EndsName rest := by
  cases rest with
  | nil => simp [EndsName]
  | cons c rest =>
    intro d next
    cases next
    rcases stops.head with rfl | rfl <;> decide

def startsExpr (c : Char) : Bool := isBareStart c || c == '"' || c == '$' || c == 'D' || c == 'E'

theorem isAlpha_of_toLower {c : Char} (lower : c.toLower = c) : c.isAlpha = c.isLower := by
  have upper : c.isUpper = false := by
    by_contra upper
    have bounds : 'A'.val ≤ c.val ∧ c.val ≤ 'Z'.val := of_decide_eq_true (Bool.not_eq_false _ ▸ upper)
    have moved : c.toLower = ⟨c.val + ('a'.val - 'A'.val), _⟩ := dif_pos bounds
    have value := congrArg (fun c : Char => c.val.toNat) (moved.symm.trans lower)
    have bound := UInt32.le_iff_toNat_le.mp bounds.2
    simp at value bound
    omega
  have letters : c.isAlpha = (c.isUpper || c.isLower) := rfl
  rw [letters, upper, Bool.false_or]

theorem bare_of_lower {func : String} (ident : isIdent func = true) (lower : Text.lower func = func) :
    ∃ c word, func.toList = c :: word ∧ isBareStart c = true ∧ ∀ d ∈ word, isBareRest d = true := by
  have each : ∀ d ∈ func.toList, d.toLower = d := by
    have same : func.toList.map Char.toLower = func.toList.map id := by
      simpa [Text.lower, Text.lowerChars] using congrArg String.toList lower
    exact List.map_inj_left.mp same
  cases characters : func.toList with
  | nil => simp [isIdent, isIdentChars, characters] at ident
  | cons c word =>
    simp only [characters, List.forall_mem_cons] at each
    simp only [isIdent, isIdentChars, characters, Bool.and_eq_true, List.all_eq_true] at ident
    refine ⟨c, word, rfl, ?_, fun d inside => ?_⟩
    · simpa [isIdentStart, isBareStart, isAlpha_of_toLower each.1] using ident.1
    · simpa [isIdentRest, isBareRest, Char.isAlphanum, isAlpha_of_toLower (each.2 d inside)] using ident.2 d inside

def Expr.depth : Expr → Nat
  | .call _ arg => arg.depth + 1
  | _ => 0

def readOther? : List Char → Option (Expr × List Char)
  | '$' :: cs => some (.param (Text.digitsValue (cs.takeWhile Char.isDigit)), cs.dropWhile Char.isDigit)
  | 'D' :: cs => some (.default, cs.drop 6)
  | 'E' :: cs => (readIdentifier? (cs.drop 8)).map (Prod.map .excluded id)
  | _ => none

def readExpr? : Nat → List Char → Option (Expr × List Char)
  | 0, _ => none
  | bound + 1, cs =>
    match readIdentifier? cs with
    | some (qualifier, '.' :: rest) =>
      (readIdentifier? rest).map fun (name, rest) => (.column ⟨some qualifier, name⟩, rest)
    | some (func, '(' :: rest) => (readExpr? bound rest).map fun (arg, rest) => (.call func arg, rest.drop 1)
    | some (name, rest) => some (.column ⟨none, name⟩, rest)
    | none => readOther? cs

theorem readOther?_param (ordinal : Nat) {rest : List Char} (stops : Stops rest) :
    readOther? ('$' :: (Nat.toDigits 10 ordinal ++ rest)) = some (.param ordinal, rest) := by
  have digits : ∀ c ∈ Nat.toDigits 10 ordinal, c.isDigit = true := fun _ => Text.isDigit_of_mem_toDigits
  have stop : ∀ c ∈ rest.head?, c.isDigit = false := by
    cases rest with
    | nil => simp
    | cons c rest => rcases stops.head with rfl | rfl <;> simp
  rw [readOther?, Text.takeWhile_append_of_stop digits stop, Text.dropWhile_append_of_stop digits stop,
    Text.digitsValue_toDigits]

theorem readExpr?_other {c : Char} (unquoted : c ≠ '"') (start : isBareStart c = false) (bound : Nat)
    (cs : List Char) : readExpr? (bound + 1) (c :: cs) = readOther? (c :: cs) := by
  have nameless : readIdentifier? (c :: cs) = none := by simp [readIdentifier?, unquoted, start]
  rw [readExpr?, nameless]

theorem readExpr?_sql {expr : Expr} (structured : expr.Structured) {rest : List Char} (stops : Stops rest)
    {bound : Nat} (deep : expr.depth ≤ bound) :
    readExpr? (bound + 1) (expr.sql.toList ++ rest) = some (expr, rest) := by
  induction expr generalizing bound rest with
  | column ref =>
    obtain ⟨qualifier, name⟩ := ref
    have last := readIdentifier?_identifierSql name stops.endsName
    cases qualifier with
    | none =>
      simp only [Expr.sql, ColumnRef.sql, qualifierSql, Option.map_none, Option.getD_none, String.empty_append]
      rw [readExpr?, last]
      cases rest with
      | nil => rfl
      | cons c rest => rcases stops.head with rfl | rfl <;> rfl
    | some qualifier =>
      have dot : EndsName ('.' :: ((identifierSql name).toList ++ rest)) := by
        intro c next
        cases next
        decide
      have first := readIdentifier?_identifierSql qualifier dot
      simp [Expr.sql, ColumnRef.sql, qualifierSql, readExpr?, first, last]
  | param ordinal =>
    have digits : (Expr.param ordinal).sql.toList = '$' :: Nat.toDigits 10 ordinal := by
      simp [Expr.sql, String.toList_append]
    rw [digits, List.cons_append, readExpr?_other (by decide) (by decide), readOther?_param ordinal stops]
  | literal text => exact structured.elim
  | default => rfl
  | call func arg ih =>
    -- the argument ends at the parenthesis that closes the call, whatever follows the call
    have positive : 0 < bound := Nat.lt_of_lt_of_le (Nat.succ_pos _) deep
    obtain ⟨bound, rfl⟩ := Nat.exists_eq_add_one.mpr positive
    obtain ⟨c, word, characters, start, inside⟩ := bare_of_lower structured.1.1 structured.1.2
    have closes : Stops (')' :: rest) := by simp [Stops, stopsAt]
    have argument := ih structured.2 closes (by simpa [Expr.depth] using deep)
    have opens : ∀ d ∈ ('(' :: (arg.sql.toList ++ ')' :: rest)).head?, isBareRest d = false := by
      simp
      decide
    have name := readIdentifier?_bare start inside opens
    have text : (Expr.call func arg).sql.toList ++ rest = c :: word ++ '(' :: (arg.sql.toList ++ ')' :: rest) := by
      simp [Expr.sql, characters]
    rw [← characters, String.ofList_toList] at name
    rw [text, readExpr?, ← characters, name]
    simp [argument]
  | excluded name =>
    have last := readIdentifier?_identifierSql name stops.endsName
    have word : (Expr.excluded name).sql.toList = "EXCLUDED.".toList ++ (identifierSql name).toList := by
      simp [Expr.sql]
    rw [word, List.append_assoc]
    change readExpr? (bound + 1) ('E' :: _) = _
    rw [readExpr?_other (by decide) (by decide)]
    simp [readOther?, last]

theorem Expr.append_inj {one other : Expr} (structured : one.Structured) (structured' : other.Structured)
    {rest rest' : List Char} (stops : Stops rest) (stops' : Stops rest')
    (same : one.sql.toList ++ rest = other.sql.toList ++ rest') : one = other ∧ rest = rest' := by
  have first := readExpr?_sql structured stops (Nat.le_max_left one.depth other.depth)
  have second := readExpr?_sql structured' stops' (Nat.le_max_right one.depth other.depth)
  simpa [same, second, eq_comm] using first

theorem identifierSql_starts (name : String) :
    ∃ c word, (identifierSql name).toList = c :: word ∧ startsExpr c = true := by
  unfold identifierSql
  split
  · rename_i bare
    unfold isBareName at bare
    cases characters : name.toList with
    | nil => simp [characters] at bare
    | cons c word =>
      simp only [characters, Bool.and_eq_true] at bare
      exact ⟨c, word, rfl, by simp [startsExpr, bare.1.1]⟩
  · exact ⟨'"', _, by simp; rfl, rfl⟩

theorem Expr.sql_starts {expr : Expr} (structured : expr.Structured) :
    ∃ c word, expr.sql.toList = c :: word ∧ startsExpr c = true := by
  cases expr with
  | column ref =>
    obtain ⟨qualifier, name⟩ := ref
    cases qualifier with
    | none => simpa [sql, ColumnRef.sql, qualifierSql] using identifierSql_starts name
    | some qualifier =>
      obtain ⟨c, word, characters, start⟩ := identifierSql_starts qualifier
      refine ⟨c, word ++ '.' :: (identifierSql name).toList, ?_, start⟩
      simp [sql, ColumnRef.sql, qualifierSql, characters]
  | param ordinal => exact ⟨'$', _, by simp [sql]; rfl, rfl⟩
  | literal text => exact structured.elim
  | default => exact ⟨'D', _, rfl, rfl⟩
  | call func arg =>
    obtain ⟨c, word, characters, start, -⟩ := bare_of_lower structured.1.1 structured.1.2
    exact ⟨c, _, by simp [sql, characters]; rfl, by simp [startsExpr, start]⟩
  | excluded name => exact ⟨'E', _, by simp [sql]; rfl, rfl⟩

end RecordSql
