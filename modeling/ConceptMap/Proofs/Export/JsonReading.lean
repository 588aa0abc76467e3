import ConceptMap.Export.Payload
import ConceptMap.Proofs.Text.Digits
import ConceptMap.Toml.Basic

/-!
# JSON documents that are read back

A JSON document is read from left to right, with white space between its tokens.  In a string an
escape stands for a character, or two of them for one that takes a surrogate pair.  From what is
written for a value the same value is read, so that the text of an export tells all of its payload.
-/

namespace ConceptMap
namespace Json

/-! ## Strings -/

/-- The number that four hexadecimal digits spell at the head of a text, and what follows. -/
def unit? : Text → Option (Nat × Text)
  | first :: second :: third :: fourth :: rest =>
      ([first, second, third, fourth].foldlM (fun unit digit =>
        (Toml.hexValue? digit).map fun value => unit * 16 + value) 0).map (·, rest)
  | _ => none

/-- The character of a high surrogate and the escape of a low one, which must follow. -/
def surrogatePair? (high : Nat) : Text → Option (Char × Text)
  | '\\' :: 'u' :: rest => do
      let (low, rest) ← unit? rest
      if 0xDC00 ≤ low ∧ low < 0xE000 then
        some (Char.ofNat (0x10000 + (high - 0xD800) * 1024 + (low - 0xDC00)), rest)
      else none
  | _ => none

/-- The character that is escaped at the head of a text behind a backslash, and what follows. -/
def escaped? : Text → Option (Char × Text)
  | '"' :: rest => some ('"', rest)
  | '\\' :: rest => some ('\\', rest)
  | '/' :: rest => some ('/', rest)
  | 'n' :: rest => some ('\n', rest)
  | 'r' :: rest => some ('\r', rest)
  | 't' :: rest => some ('\t', rest)
  | 'b' :: rest => some ('\x08', rest)
  | 'f' :: rest => some ('\x0c', rest)
  | 'u' :: rest => do
      let (unit, rest) ← unit? rest
      if 0xD800 ≤ unit ∧ unit < 0xDC00 then surrogatePair? unit rest
      else if 0xDC00 ≤ unit ∧ unit < 0xE000 then none
      else some (Char.ofNat unit, rest)
  | _ => none

/-- The string whose inside is at the head of a text, and what follows its closing quote.  The fuel
bounds the number of its characters. -/
def string? : (fuel : Nat) → Text → Option (Text × Text)
  | 0, _ => none
  | _ + 1, '"' :: rest => some ([], rest)
  | fuel + 1, '\\' :: rest => do
      let (character, rest) ← escaped? rest
      let (text, rest) ← string? fuel rest
      some (character :: text, rest)
  | fuel + 1, character :: rest => do
      let (text, rest) ← string? fuel rest
      some (character :: text, rest)
  | _ + 1, [] => none

theorem hexValue?_digitChar : ∀ digit < 16, Toml.hexValue? (Nat.digitChar digit) = some digit := by
  decide

theorem unit?_hexDigits {unit : Nat} (short : unit < 0x10000) (rest : Text) :
    unit? (Text.hexDigits 4 unit ++ rest) = some (unit, rest) := by
  have digits_eq : Text.hexDigits 4 unit ++ rest =
      Nat.digitChar (unit / 16 / 16 / 16 % 16) :: Nat.digitChar (unit / 16 / 16 % 16) ::
        Nat.digitChar (unit / 16 % 16) :: Nat.digitChar (unit % 16) :: rest := rfl
  have digit_value (number : Nat) :
      Toml.hexValue? (Nat.digitChar (number % 16)) = some (number % 16) :=
    hexValue?_digitChar _ (Nat.mod_lt _ (by decide))
  rw [digits_eq, unit?]
  simp only [List.foldlM_cons, List.foldlM_nil, digit_value, Option.map_some, Option.bind_eq_bind,
    Option.bind_some, Option.pure_def, Option.some.injEq, Prod.mk.injEq, and_true]
  omega

/-- The code of a character is no surrogate. -/
theorem toNat_cases (character : Char) :
    character.toNat < 0xD800 ∨ 0xE000 ≤ character.toNat ∧ character.toNat < 0x110000 := by
  rcases character.valid with low | ⟨above, below⟩
  · exact .inl low
  · exact .inr ⟨above, below⟩

theorem escaped?_unit (character : Char) (short : character.toNat < 0x10000) (rest : Text) :
    escaped? ('u' :: (Text.hexDigits 4 character.toNat ++ rest)) = some (character, rest) := by
  have no_surrogate := toNat_cases character
  have not_high : ¬(0xD800 ≤ character.toNat ∧ character.toNat < 0xDC00) := by omega
  have not_low : ¬(0xDC00 ≤ character.toNat ∧ character.toNat < 0xE000) := by omega
  simp only [escaped?, unit?_hexDigits short, Option.bind_eq_bind, Option.bind_some, not_high,
    not_low, if_false, Char.ofNat_toNat]

theorem escaped?_pair {high low : Nat} (high_mem : 0xD800 ≤ high ∧ high < 0xDC00)
    (low_mem : 0xDC00 ≤ low ∧ low < 0xE000) (rest : Text) :
    escaped? ('u' :: Text.hexDigits 4 high ++ (unitEscape low ++ rest)) =
      some (Char.ofNat (0x10000 + (high - 0xD800) * 1024 + (low - 0xDC00)), rest) := by
  have high_short : high < 0x10000 := by omega
  have low_short : low < 0x10000 := by omega
  have high_read := unit?_hexDigits high_short (unitEscape low ++ rest)
  have low_read := unit?_hexDigits low_short rest
  have escape_eq : unitEscape low ++ rest = '\\' :: 'u' :: (Text.hexDigits 4 low ++ rest) := rfl
  rw [List.cons_append, escaped?, high_read]
  simp only [Option.bind_eq_bind, Option.bind_some, high_mem, and_self, if_true]
  rw [escape_eq, surrogatePair?, low_read]
  simp only [Option.bind_eq_bind, Option.bind_some, low_mem, and_self, if_true]

/-- What is written for a character beyond the first plane is read as that character. -/
theorem escaped?_surrogates (character : Char) (long : 0x10000 ≤ character.toNat) (rest : Text) :
    escaped? ('u' :: Text.hexDigits 4 (0xD800 + (character.toNat - 0x10000) / 1024) ++
      (unitEscape (0xDC00 + (character.toNat - 0x10000) % 1024) ++ rest)) =
        some (character, rest) := by
  have in_range := toNat_cases character
  rw [escaped?_pair (by omega) (by omega)]
  have code_eq : 0x10000 + (0xD800 + (character.toNat - 0x10000) / 1024 - 0xD800) * 1024 +
      (0xDC00 + (character.toNat - 0x10000) % 1024 - 0xDC00) = character.toNat := by
    omega
  rw [code_eq, Char.ofNat_toNat]

/-- What is written for a character is read as that character. -/
theorem string?_escapeChar (character : Char) (fuel : Nat) (rest : Text) :
    string? (fuel + 1) (escapeChar character ++ rest) =
      (string? fuel rest).map fun (text, rest) => (character :: text, rest) := by
  -- behind a backslash the character is what is read there
  have escaped (escape : Text) (read : escaped? (escape ++ rest) = some (character, rest)) :
      string? (fuel + 1) ('\\' :: escape ++ rest) =
        (string? fuel rest).map fun (text, rest) => (character :: text, rest) := by
    rw [List.cons_append, string?, read]
    simp only [Option.bind_eq_bind, Option.bind_some]
    cases string? fuel rest with
    | none => rfl
    | some read => rfl
  simp only [escapeChar]
  split
  next same => exact escaped _ (same ▸ rfl)
  next quote =>
    split
    next same => exact escaped _ (same ▸ rfl)
    next backslash =>
      split
      next same => exact escaped _ (same ▸ rfl)
      split
      next same => exact escaped _ (same ▸ rfl)
      split
      next same => exact escaped _ (same ▸ rfl)
      split
      next code_eq =>
        have same : character = '\x08' := Char.toNat_inj.1 code_eq
        exact escaped _ (same ▸ rfl)
      split
      next code_eq =>
        have same : character = '\x0c' := Char.toNat_inj.1 code_eq
        exact escaped _ (same ▸ rfl)
      split
      next =>
        rw [List.singleton_append, string?]
        · cases string? fuel rest with
          | none => rfl
          | some read => rfl
        · exact quote
        · exact backslash
      split
      next short => exact escaped _ (escaped?_unit character short rest)
      next long =>
        have read := escaped?_surrogates character (Nat.not_lt.1 long) rest
        rw [← List.append_assoc] at read
        exact escaped _ read

theorem string?_flatMap_escapeChar {text : Text} {fuel : Nat} (enough : text.length < fuel)
    (rest : Text) : string? fuel (text.flatMap escapeChar ++ '"' :: rest) = some (text, rest) := by
  induction text generalizing fuel with
  | nil =>
      obtain ⟨fuel, rfl⟩ := Nat.exists_eq_add_of_lt enough
      rfl
  | cons character text ih =>
      obtain ⟨fuel, rfl⟩ := Nat.exists_eq_succ_of_ne_zero (Nat.ne_zero_of_lt enough)
      rw [List.flatMap_cons, List.append_assoc, string?_escapeChar,
        ih (Nat.lt_of_succ_lt_succ enough)]
      rfl

theorem escapeChar_ne_nil (character : Char) : escapeChar character ≠ [] := by
  unfold escapeChar
  dsimp only
  repeat' split
  all_goals exact List.cons_ne_nil _ _

theorem length_le_flatMap_escapeChar (text : Text) :
    text.length ≤ (text.flatMap escapeChar).length := by
  induction text with
  | nil => exact Nat.zero_le _
  | cons character text ih =>
      have some_escape := List.length_pos_iff.2 (escapeChar_ne_nil character)
      rw [List.flatMap_cons, List.length_append, List.length_cons]
      omega

/-- What is written as a string is read as its text. -/
theorem string?_renderString (text rest : Text) :
    ∃ inside, renderString text ++ rest = '"' :: inside ∧
      string? (inside.length + 1) inside = some (text, rest) := by
  refine ⟨text.flatMap escapeChar ++ '"' :: rest, ?_, string?_flatMap_escapeChar ?_ rest⟩
  · rw [renderString, Text.between, List.cons_append, List.append_assoc]
    rfl
  · rw [List.length_append]
    have long := length_le_flatMap_escapeChar text
    omega

/-! ## Values -/

/-- A character may stand between tokens. -/
def isSpace (character : Char) : Bool :=
  character = ' ' || character = '\n' || character = '\r' || character = '\t'

/-- A text without the white space at its head. -/
def skip (text : Text) : Text := text.dropWhile isSpace

/-- The integer at the head of a text, and what follows its digits. -/
def integer? : Text → Option (Int × Text)
  | '-' :: digits => (Text.number? digits).map fun (number, rest) => (-(number : Int), rest)
  | digits => (Text.number? digits).map fun (number, rest) => (number, rest)

mutual

/-- The value at the head of a text, behind white space, and what follows it.  The fuel bounds how
often a value begins in it, or goes on. -/
def value? : (fuel : Nat) → Text → Option (Json × Text)
  | 0, _ => none
  | fuel + 1, text =>
      match skip text with
      | 'n' :: 'u' :: 'l' :: 'l' :: rest => some (.null, rest)
      | 't' :: 'r' :: 'u' :: 'e' :: rest => some (.bool true, rest)
      | 'f' :: 'a' :: 'l' :: 's' :: 'e' :: rest => some (.bool false, rest)
      | '"' :: rest => (string? (rest.length + 1) rest).map fun (text, rest) => (.string text, rest)
      | '[' :: rest =>
          match skip rest with
          | ']' :: rest => some (.array [], rest)
          | _ => (items? fuel rest).map fun (items, rest) => (.array items, rest)
      | '{' :: rest =>
          match skip rest with
          | '}' :: rest => some (.object [], rest)
          | _ => (fields? fuel rest).map fun (fields, rest) => (.object fields, rest)
      | text => (integer? text).map fun (number, rest) => (.integer number, rest)

/-- The members of an array, and what follows the bracket behind them. -/
def items? : (fuel : Nat) → Text → Option (List Json × Text)
  | 0, _ => none
  | fuel + 1, text => do
      let (first, rest) ← value? fuel text
      match skip rest with
      | ',' :: rest => (items? fuel rest).map fun (items, rest) => (first :: items, rest)
      | ']' :: rest => some ([first], rest)
      | _ => none

/-- The fields of an object, and what follows the brace behind them. -/
def fields? : (fuel : Nat) → Text → Option (List (Text × Json) × Text)
  | 0, _ => none
  | fuel + 1, text =>
      match skip text with
      | '"' :: rest => do
          let (name, rest) ← string? (rest.length + 1) rest
          match skip rest with
          | ':' :: rest => do
              let (first, rest) ← value? fuel rest
              match skip rest with
              | ',' :: rest =>
                  (fields? fuel rest).map fun (fields, rest) => ((name, first) :: fields, rest)
              | '}' :: rest => some ([(name, first)], rest)
              | _ => none
          | _ => none
      | _ => none

end

/-- The value that a text spells, with nothing but white space around it. -/
def read? (text : Text) : Option Json :=
  match value? (text.length + 1) text with
  | some (json, rest) => if (skip rest).isEmpty then some json else none
  | none => none

/-! ## What is written is read -/

theorem skip_cons {character : Char} (token : isSpace character = false) (rest : Text) :
    skip (character :: rest) = character :: rest := by
  simp [skip, token]

theorem skip_blank (rest : Text) : skip (' ' :: rest) = skip rest := rfl

theorem skip_lineStart (depth : Nat) (rest : Text) :
    skip (lineStart depth ++ rest) = skip rest := by
  have blank : ∀ character ∈ lineStart depth, isSpace character := by
    rw [lineStart, List.forall_mem_cons]
    refine ⟨rfl, fun character found => ?_⟩
    rw [List.eq_of_mem_replicate found]
    rfl
  exact List.dropWhile_append_of_pos blank

/-- A value is read behind any white space. -/
theorem value?_congr {first second : Text} (same : skip first = skip second) (fuel : Nat) :
    value? fuel first = value? fuel second := by
  cases fuel with
  | zero => rfl
  | succ fuel => rw [value?, value?, same]

/-! ### Integers -/

/-- An integer starts with a minus sign or a digit. -/
theorem exists_ofInt_eq_cons (number : Int) :
    ∃ first digits, Text.ofInt number = first :: digits ∧ (first = '-' ∨ first.isDigit) := by
  cases number with
  | ofNat number =>
      obtain ⟨first, digits, digits_eq⟩ :=
        List.exists_cons_of_ne_nil (Text.spells_ofNat number).nonempty
      refine ⟨first, digits, digits_eq, .inr ((Text.spells_ofNat number).decimal first ?_)⟩
      rw [digits_eq]
      exact List.mem_cons_self
  | negSucc number => exact ⟨'-', Text.ofNat (number + 1), rfl, .inl rfl⟩

theorem ofInt_ne_nil (number : Int) : Text.ofInt number ≠ [] := by
  obtain ⟨first, digits, digits_eq, -⟩ := exists_ofInt_eq_cons number
  rw [digits_eq]
  exact List.cons_ne_nil first digits

theorem isSpace_of_starts {first : Char} (starts : first = '-' ∨ first.isDigit) :
    isSpace first = false := by
  have other (space : Char) (blank : space ≠ '-' ∧ space.isDigit = false) : first ≠ space := by
    rintro rfl
    simp [blank] at starts
  simp [isSpace, other ' ' (by decide), other '\n' (by decide), other '\r' (by decide),
    other '\t' (by decide)]

theorem integer?_ofInt (number : Int) {rest : Text} (ends : Text.EndsDigits rest) :
    integer? (Text.ofInt number ++ rest) = some (number, rest) := by
  cases number with
  | ofNat number =>
      have read := Text.number?_append (Text.spells_ofNat number) ends
      obtain ⟨first, digits, digits_eq⟩ :=
        List.exists_cons_of_ne_nil (Text.spells_ofNat number).nonempty
      have decimal : first.isDigit := (Text.spells_ofNat number).decimal first
        (by rw [digits_eq]; exact List.mem_cons_self)
      have unsigned : first ≠ '-' := by
        rintro rfl
        exact absurd decimal (by decide)
      have integer_eq : integer? (Text.ofNat number ++ rest) =
          (Text.number? (Text.ofNat number ++ rest)).map fun (number, rest) =>
            ((number : Int), rest) := by
        rw [digits_eq, List.cons_append, integer?]
        simp [unsigned]
      rw [Text.ofInt, integer_eq, read]
      rfl
  | negSucc number =>
      rw [Text.ofInt, List.cons_append, integer?,
        Text.number?_append (Text.spells_ofNat (number + 1)) ends]
      rfl

theorem value?_ofInt (number : Int) {rest : Text} (ends : Text.EndsDigits rest) (fuel : Nat) :
    value? (fuel + 1) (Text.ofInt number ++ rest) = some (.integer number, rest) := by
  have read := integer?_ofInt number ends
  obtain ⟨first, digits, digits_eq, head⟩ := exists_ofInt_eq_cons number
  rw [digits_eq, List.cons_append] at read ⊢
  rw [value?, skip_cons (isSpace_of_starts head)]
  split
  case h_7 => rw [read]; rfl
  -- neither a minus sign nor a digit starts anything else
  all_goals
    next same =>
      rw [(List.cons.inj same).1] at head
      exact absurd head (by decide)

mutual

/-- The fuel that a value takes to be read. -/
def weight : Json → Nat
  | .array items => itemsWeight items + 1
  | .object fields => fieldsWeight fields + 1
  | .null | .bool _ | .integer _ | .string _ => 1

/-- The fuel that the members of an array take. -/
def itemsWeight : List Json → Nat
  | [] => 0
  | first :: rest => first.weight + itemsWeight rest + 1

/-- The fuel that the fields of an object take. -/
def fieldsWeight : List (Text × Json) → Nat
  | [] => 0
  | (_, first) :: rest => first.weight + fieldsWeight rest + 1

end

mutual

theorem weight_le (depth : Nat) : (json : Json) → json.weight ≤ (json.renderAt depth).length
  | .null | .bool true | .bool false | .array [] | .object [] =>
      Nat.succ_le_of_lt (Nat.succ_pos _)
  | .integer value => List.length_pos_iff.2 (ofInt_ne_nil value)
  | .string value => by simp [weight, renderAt, renderString, Text.between]
  | .array (first :: rest) => by
      have items := itemsWeight_le (depth + 1) (first :: rest)
      simp only [weight, renderAt, List.length_cons, List.length_append]
      omega
  | .object (first :: rest) => by
      have fields := fieldsWeight_le (depth + 1) (first :: rest)
      simp only [weight, renderAt, List.length_cons, List.length_append]
      omega

theorem itemsWeight_le (depth : Nat) :
    (items : List Json) → itemsWeight items ≤ (renderItems depth items).length
  | [] => Nat.zero_le _
  | [only] => by
      have weight := weight_le depth only
      simp only [itemsWeight, renderItems, lineStart, List.length_cons, List.length_append]
      omega
  | first :: second :: rest => by
      have weight := weight_le depth first
      have later := itemsWeight_le depth (second :: rest)
      simp only [renderItems, lineStart, List.length_cons, List.length_append]
      rw [itemsWeight]
      omega

theorem fieldsWeight_le (depth : Nat) :
    (fields : List (Text × Json)) → fieldsWeight fields ≤ (renderFields depth fields).length
  | [] => Nat.zero_le _
  | [(name, only)] => by
      have weight := weight_le depth only
      simp only [fieldsWeight, renderFields, lineStart, List.length_cons, List.length_append]
      omega
  | (name, first) :: second :: rest => by
      have weight := weight_le depth first
      have later := fieldsWeight_le depth (second :: rest)
      simp only [renderFields, lineStart, List.length_cons, List.length_append]
      rw [fieldsWeight]
      omega

end

/-! ### Values -/

theorem endsDigits_cons {character : Char} (other : character.isDigit = false) (rest : Text) :
    Text.EndsDigits (character :: rest) := by
  rintro next ⟨⟩
  exact other

/-- No value starts with white space or with the bracket that closes an array. -/
theorem exists_renderAt_eq_cons (depth : Nat) (json : Json) :
    ∃ first later, json.renderAt depth = first :: later ∧ isSpace first = false ∧ first ≠ ']' := by
  cases json with
  | null => exact ⟨'n', _, rfl, rfl, by decide⟩
  | bool value =>
      cases value with
      | true => exact ⟨'t', _, rfl, rfl, by decide⟩
      | false => exact ⟨'f', _, rfl, rfl, by decide⟩
  | integer number =>
      obtain ⟨first, digits, digits_eq, token⟩ := exists_ofInt_eq_cons number
      refine ⟨first, digits, digits_eq, isSpace_of_starts token, ?_⟩
      rintro rfl
      exact absurd token (by decide)
  | string text => exact ⟨'"', _, rfl, rfl, by decide⟩
  | array items => cases items <;> exact ⟨'[', _, rfl, rfl, by decide⟩
  | object fields => cases fields <;> exact ⟨'{', _, rfl, rfl, by decide⟩

/-- What is written behind a member of an array. -/
def renderMoreItems (depth : Nat) (others : List Json) : Text :=
  if others.isEmpty then [] else ',' :: renderItems depth others

/-- What is written behind a field of an object. -/
def renderMoreFields (depth : Nat) (others : List (Text × Json)) : Text :=
  if others.isEmpty then [] else ',' :: renderFields depth others

theorem skip_renderAt (depth : Nat) (json : Json) (rest : Text) :
    skip (json.renderAt depth ++ rest) = json.renderAt depth ++ rest := by
  obtain ⟨token, later, render_eq, no_space, -⟩ := exists_renderAt_eq_cons depth json
  rw [render_eq, List.cons_append, skip_cons no_space]

/-- Neither a member nor a field is followed by a digit. -/
theorem endsDigits_more (depth : Nat) (rest : Text) (items : List Json)
    (fields : List (Text × Json)) :
    Text.EndsDigits (renderMoreItems (depth + 1) items ++ (lineStart depth ++ rest)) ∧
      Text.EndsDigits (renderMoreFields (depth + 1) fields ++ (lineStart depth ++ rest)) := by
  constructor
  · cases items <;> exact endsDigits_cons rfl _
  · cases fields <;> exact endsDigits_cons rfl _

theorem skip_renderItems (depth : Nat) (first : Json) (others : List Json) (rest : Text) :
    skip (renderItems depth (first :: others) ++ rest) =
      first.renderAt depth ++ (renderMoreItems depth others ++ rest) := by
  have skip_first (rest : Text) :
      skip (lineStart depth ++ (first.renderAt depth ++ rest)) = first.renderAt depth ++ rest := by
    rw [skip_lineStart, skip_renderAt]
  cases others with
  | nil => rw [renderItems, List.append_assoc, skip_first]; rfl
  | cons second others =>
      rw [renderItems, List.append_assoc, List.append_assoc, skip_first]
      rfl

theorem skip_renderFields (depth : Nat) (name : Text) (first : Json)
    (others : List (Text × Json)) (rest : Text) :
    skip (renderFields depth ((name, first) :: others) ++ rest) = renderString name ++
      (':' :: ' ' :: (first.renderAt depth ++ (renderMoreFields depth others ++ rest))) := by
  have skip_name (rest : Text) :
      skip (lineStart depth ++ (renderString name ++ rest)) = renderString name ++ rest :=
    skip_lineStart depth _
  cases others with
  | nil =>
      rw [renderFields, List.append_assoc, List.append_assoc, List.append_assoc, skip_name]
      rfl
  | cons second others =>
      rw [renderFields, List.append_assoc, List.append_assoc, List.append_assoc, List.append_assoc,
        skip_name]
      rfl

/-- A value takes some fuel. -/
theorem exists_fuel {json : Json} {fuel : Nat} (enough : json.weight ≤ fuel) :
    ∃ less, fuel = less + 1 := by
  have positive : 0 < json.weight := by cases json <;> exact Nat.succ_pos _
  exact Nat.exists_eq_succ_of_ne_zero (by omega)

mutual

theorem value?_renderAt (depth : Nat) {rest : Text} (ends : Text.EndsDigits rest) :
    (json : Json) → {fuel : Nat} → json.weight ≤ fuel →
      value? fuel (json.renderAt depth ++ rest) = some (json, rest)
  | .null, _, enough => by
      obtain ⟨fuel, rfl⟩ := exists_fuel enough
      rfl
  | .bool value, _, enough => by
      obtain ⟨fuel, rfl⟩ := exists_fuel enough
      cases value <;> rfl
  | .integer number, _, enough => by
      obtain ⟨fuel, rfl⟩ := exists_fuel enough
      exact value?_ofInt number ends fuel
  | .string text, _, enough => by
      obtain ⟨fuel, rfl⟩ := exists_fuel enough
      obtain ⟨inside, render_eq, read⟩ := string?_renderString text rest
      rw [renderAt, render_eq, value?, skip_cons rfl]
      simp only [read]
      rfl
  | .array [], _, enough => by
      obtain ⟨fuel, rfl⟩ := exists_fuel enough
      rfl
  | .array (first :: others), _, enough => by
      obtain ⟨fuel, rfl⟩ := exists_fuel enough
      have read := items?_renderItems depth rest (first :: others) (List.cons_ne_nil _ _)
        (Nat.le_of_succ_le_succ enough)
      obtain ⟨token, later, render_eq, -, other⟩ := exists_renderAt_eq_cons (depth + 1) first
      have skip_eq := skip_renderItems (depth + 1) first others (lineStart depth ++ ']' :: rest)
      rw [render_eq, List.cons_append] at skip_eq
      have array_eq : (Json.array (first :: others)).renderAt depth ++ rest =
          '[' :: (renderItems (depth + 1) (first :: others) ++
            (lineStart depth ++ ']' :: rest)) := by
        simp [renderAt]
      rw [array_eq, value?, skip_cons rfl]
      simp only [skip_eq, read, Option.map_some]
      split
      next closed => exact absurd (List.cons.inj closed).1 other
      next => rfl
  | .object [], _, enough => by
      obtain ⟨fuel, rfl⟩ := exists_fuel enough
      rfl
  | .object ((name, first) :: others), _, enough => by
      obtain ⟨fuel, rfl⟩ := exists_fuel enough
      have read := fields?_renderFields depth rest ((name, first) :: others)
        (List.cons_ne_nil _ _) (Nat.le_of_succ_le_succ enough)
      have skip_eq := skip_renderFields (depth + 1) name first others
        (lineStart depth ++ '}' :: rest)
      obtain ⟨inside, render_eq, -⟩ := string?_renderString name
        (':' :: ' ' :: (first.renderAt (depth + 1) ++
          (renderMoreFields (depth + 1) others ++ (lineStart depth ++ '}' :: rest))))
      rw [render_eq] at skip_eq
      have object_eq : (Json.object ((name, first) :: others)).renderAt depth ++ rest =
          '{' :: (renderFields (depth + 1) ((name, first) :: others) ++
            (lineStart depth ++ '}' :: rest)) := by
        simp [renderAt]
      rw [object_eq, value?, skip_cons rfl]
      simp only [skip_eq, read, Option.map_some]
      rfl

theorem items?_renderItems (depth : Nat) (rest : Text) :
    (items : List Json) → {fuel : Nat} → items ≠ [] → itemsWeight items ≤ fuel →
      items? fuel (renderItems (depth + 1) items ++ (lineStart depth ++ ']' :: rest)) =
        some (items, rest)
  | [], _, nonempty, _ => absurd rfl nonempty
  | first :: others, fuel, _, enough => by
      rw [itemsWeight] at enough
      obtain ⟨fuel, rfl⟩ := Nat.exists_eq_succ_of_ne_zero (show fuel ≠ 0 by omega)
      have ends := (endsDigits_more depth (']' :: rest) others []).1
      have read_first := value?_renderAt (depth + 1) ends first (show first.weight ≤ fuel by omega)
      have skip_eq := skip_renderItems (depth + 1) first others (lineStart depth ++ ']' :: rest)
      rw [← skip_renderAt] at skip_eq
      rw [items?, value?_congr skip_eq, read_first]
      simp only [Option.bind_eq_bind, Option.bind_some]
      cases others with
      | nil =>
          have closed : skip (renderMoreItems (depth + 1) [] ++ (lineStart depth ++ ']' :: rest)) =
              ']' :: rest :=
            skip_lineStart depth (']' :: rest)
          simp only [closed]
      | cons second others =>
          have read := items?_renderItems depth rest (second :: others) (List.cons_ne_nil _ _)
            (show itemsWeight (second :: others) ≤ fuel by omega)
          have separated : skip (renderMoreItems (depth + 1) (second :: others) ++
              (lineStart depth ++ ']' :: rest)) =
                ',' :: (renderItems (depth + 1) (second :: others) ++
                  (lineStart depth ++ ']' :: rest)) := rfl
          simp only [separated, read, Option.map_some]

theorem fields?_renderFields (depth : Nat) (rest : Text) :
    (fields : List (Text × Json)) → {fuel : Nat} → fields ≠ [] → fieldsWeight fields ≤ fuel →
      fields? fuel (renderFields (depth + 1) fields ++ (lineStart depth ++ '}' :: rest)) =
        some (fields, rest)
  | [], _, nonempty, _ => absurd rfl nonempty
  | (name, first) :: others, fuel, _, enough => by
      rw [fieldsWeight] at enough
      obtain ⟨fuel, rfl⟩ := Nat.exists_eq_succ_of_ne_zero (show fuel ≠ 0 by omega)
      have ends := (endsDigits_more depth ('}' :: rest) [] others).2
      have read_first := value?_renderAt (depth + 1) ends first (show first.weight ≤ fuel by omega)
      have skip_eq := skip_renderFields (depth + 1) name first others
        (lineStart depth ++ '}' :: rest)
      obtain ⟨inside, render_eq, read_name⟩ := string?_renderString name
        (':' :: ' ' :: (first.renderAt (depth + 1) ++
          (renderMoreFields (depth + 1) others ++ (lineStart depth ++ '}' :: rest))))
      rw [render_eq] at skip_eq
      rw [fields?, skip_eq]
      simp only [read_name, Option.bind_eq_bind, Option.bind_some]
      have colon (rest : Text) : skip (':' :: rest) = ':' :: rest := rfl
      simp only [colon, value?_congr (skip_blank _), read_first, Option.bind_some]
      cases others with
      | nil =>
          have closed : skip (renderMoreFields (depth + 1) [] ++ (lineStart depth ++ '}' :: rest)) =
              '}' :: rest :=
            skip_lineStart depth ('}' :: rest)
          simp only [closed]
      | cons second others =>
          have read := fields?_renderFields depth rest (second :: others) (List.cons_ne_nil _ _)
            (show fieldsWeight (second :: others) ≤ fuel by omega)
          have separated : skip (renderMoreFields (depth + 1) (second :: others) ++
              (lineStart depth ++ '}' :: rest)) =
                ',' :: (renderFields (depth + 1) (second :: others) ++
                  (lineStart depth ++ '}' :: rest)) := rfl
          simp only [separated, read, Option.map_some]

end

/-- The value of a field, if the value is an object with such a field. -/
def field? (name : Text) : Json → Option Json
  | .object fields => fields.lookup name
  | _ => none

/-- The text of a string. -/
def text? : Json → Option Text
  | .string text => some text
  | _ => none

/-- The value of a truth value. -/
def bool? : Json → Option Bool
  | .bool value => some value
  | _ => none

/-- The number of an integer that is not negative. -/
def natural? : Json → Option Nat
  | .integer (.ofNat number) => some number
  | _ => none

/-- What is read of a value, or nothing of none. -/
def orNull? {α : Type} (read : Json → Option α) : Json → Option (Option α)
  | .null => some none
  | json => (read json).map some

/-- What is read of the members of an array. -/
def members? {α : Type} (read : Json → Option α) : Json → Option (List α)
  | .array items => items.mapM read
  | _ => none

end Json

/-- The node entry that a value is written for. -/
def NodeEntry.ofJson? (json : Json) : Option NodeEntry := do
  return {
    id := ← (← json.field? "id").text?
    definition := ← (← json.field? "definition").orNull? Json.text?
    distance := ← (← json.field? "distance").orNull? Json.natural?
    active := ← (← json.field? "active").bool?
    selected := ← (← json.field? "selected").bool? }

/-- The link entry that a value is written for. -/
def LinkEntry.ofJson? (json : Json) : Option LinkEntry := do
  return {
    id := ← (← json.field? "id").text?
    source := ← (← json.field? "source").text?
    target := ← (← json.field? "target").text?
    label := ← (← json.field? "label").text?
    highlighted := ← (← json.field? "highlighted").bool? }

namespace Payload

/-- The payload that a value is written for. -/
def ofJson? (json : Json) : Option Payload := do
  return {
    name := ← (← json.field? "name").text?
    nodes := ← (← json.field? "nodes").members? NodeEntry.ofJson?
    links := ← (← json.field? "links").members? LinkEntry.ofJson? }

/-- The payload that a document spells. -/
def read? (text : Text) : Option Payload := (Json.read? text).bind ofJson?

end Payload
end ConceptMap
