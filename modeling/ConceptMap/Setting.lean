import ConceptMap.Moment
import ConceptMap.Number.Numeral
import ConceptMap.Number.Shortest
import ConceptMap.Text.Quoted

/-!
# Setting values

The values that configuration documents hold: truth values, numbers, texts, dates and times, lists
and tables.  A table keeps its fields in the order in which they were set.  Every value has a form
for messages, unless an integer in it has too many digits, counts as true or false, and can be asked
for an integer.
-/

namespace ConceptMap

/-- A value of a configuration document. -/
inductive Setting where
  /-- No value. -/
  | absent
  /-- A truth value. -/
  | bool (value : Bool)
  /-- An integer of any size. -/
  | integer (value : Int)
  /-- A double-precision number. -/
  | number (value : Binary64)
  /-- A text. -/
  | text (value : Text)
  /-- A date or a time. -/
  | moment (value : Moment)
  /-- A list of values. -/
  | list (items : List Setting)
  /-- A table of named values. -/
  | table (fields : List (Text × Setting))
deriving Repr, Inhabited

/-- The fields of a configuration table, in the order in which they were set. -/
abbrev Table := List (Text × Setting)

namespace Table

/-- The value of a field. -/
def get? (table : Table) (name : Text) : Option Setting := table.lookup name

/-- Sets a field: where it stands if the table has it, at the end otherwise. -/
def set (table : Table) (name : Text) (value : Setting) : Table :=
  match table with
  | [] => [(name, value)]
  | field :: rest =>
      if field.1 = name then (name, value) :: rest else field :: set rest name value

/-- Setting one field changes that field. -/
theorem get?_set_self (table : Table) (name : Text) (value : Setting) :
    get? (set table name value) name = some value := by
  induction table with
  | nil => simp [set, get?]
  | cons field rest ih =>
      obtain ⟨fieldName, fieldValue⟩ := field
      by_cases same : fieldName = name
      · simp [set, get?, same]
      · have differs : (name == fieldName) = false := by simpa using fun equal => same equal.symm
        simp only [get?] at ih
        simp [set, get?, same, List.lookup_cons, differs, ih]

/-- Setting one field leaves the others as they are. -/
theorem get?_set_of_ne (table : Table) {name other : Text} (value : Setting)
    (differs : other ≠ name) : get? (set table name value) other = get? table other := by
  have unequal : (other == name) = false := by simpa using differs
  induction table with
  | nil => simp [set, get?, differs]
  | cons field rest ih =>
      obtain ⟨fieldName, fieldValue⟩ := field
      by_cases same : fieldName = name
      · subst same
        simp [set, get?, unequal, List.lookup_cons]
      · simp only [get?] at ih
        simp [set, get?, same, List.lookup_cons, ih]

end Table

namespace Setting

mutual

/-- A value as it is shown inside a list, a table, or a message about it. -/
def quoted : Setting → Text
  | .absent => "None"
  | .bool value => if value then "True" else "False"
  | .integer value => Text.ofInt value
  | .number value => value.render .message
  | .text value => Text.quoted value
  | .moment value => value.quoted
  | .list items => '[' :: (quotedItems items ++ [']'])
  | .table fields => '{' :: (quotedFields fields ++ ['}'])

/-- The members of a list, with commas between them. -/
def quotedItems : List Setting → Text
  | [] => []
  | [only] => only.quoted
  | first :: second :: rest => first.quoted ++ ", " ++ quotedItems (second :: rest)

/-- The fields of a table, with commas between them. -/
def quotedFields : List (Text × Setting) → Text
  | [] => []
  | [(name, only)] => Text.quoted name ++ ": " ++ only.quoted
  | (name, first) :: second :: rest =>
      Text.quoted name ++ ": " ++ first.quoted ++ ", " ++ quotedFields (second :: rest)

end

/-- A value by itself: a text stands without quotes, and a moment as it is written. -/
def display : Setting → Text
  | .text value => value
  | .moment value => value.render .message
  | other => other.quoted

mutual

/-- The integers in a value have few enough digits for the value to be shown. -/
def isWritable : Setting → Bool
  | .integer value => Numeral.isWritable value
  | .list items => areWritable items
  | .table fields => fieldsWritable [] fields
  | .absent | .bool _ | .number _ | .text _ | .moment _ => true

/-- So have those in the members of a list. -/
def areWritable : List Setting → Bool
  | [] => true
  | first :: rest => first.isWritable && areWritable rest

/-- So have those in fields, of which only the first one of a name counts. -/
def fieldsWritable (names : List Text) : List (Text × Setting) → Bool
  | [] => true
  | (name, first) :: rest =>
      (names.contains name || first.isWritable) && fieldsWritable (name :: names) rest

end

/-- A value by itself, unless an integer in it has too many digits. -/
def write (value : Setting) : Except Numeral.WriteFault Text :=
  if value.isWritable then .ok value.display else .error .tooLong

/-- The value counts as true: it is neither absent, nor false, nor zero, nor empty. -/
def isTruthy : Setting → Bool
  | .absent => false
  | .bool value => value
  | .integer value => value ≠ 0
  | .number value => !value.isZero
  | .text value => !value.isEmpty
  | .moment _ => true
  | .list items => !items.isEmpty
  | .table fields => !fields.isEmpty

/-- Why a value does not give an integer. -/
inductive IntegerFault where
  /-- A text that is not a numeral. -/
  | notNumeral (text : Text)
  /-- A numeral with too many digits. -/
  | tooLong (digits : Nat)
  /-- An infinite number. -/
  | infinite
  /-- The value of an undefined operation. -/
  | undefined
  /-- A value that is not numeric at all. -/
  | notNumeric (kind : Text)
deriving DecidableEq, Repr

/-- The greatest number of characters of a quoted text in a report. -/
def quotedLimit : Nat := 200

/-- The report of a value that does not give an integer. -/
def IntegerFault.message : IntegerFault → Text
  | .notNumeral value =>
      "invalid literal for int() with base 10: " ++ (Text.quoted value).take quotedLimit
  | .tooLong digits =>
      "Exceeds the limit (" ++ Text.ofNat Numeral.mostDigits ++
        " digits) for integer string conversion: value has " ++ Text.ofNat digits ++
        " digits; use sys.set_int_max_str_digits() to increase the limit"
  | .infinite => "cannot convert float infinity to integer"
  | .undefined => "cannot convert float NaN to integer"
  | .notNumeric kind =>
      "int() argument must be a string, a bytes-like object or a real number, not " ++
        Text.quoted kind

/-- The integer that a value stands for: a truth value counts as one or zero, a number loses its
fraction, and a text is read as a numeral. -/
def toInteger : Setting → Except IntegerFault Int
  | .bool value => .ok (if value then 1 else 0)
  | .integer value => .ok value
  | .number value =>
      match value with
      | .infinite _ => .error .infinite
      | other =>
          match other.truncate? with
          | some whole => .ok whole
          | none => .error .undefined
  | .text value =>
      match Numeral.integer value with
      | .ok whole => .ok whole
      | .error .malformed => .error (.notNumeral value)
      | .error (.tooLong digits) => .error (.tooLong digits)
  | .absent => .error (.notNumeric "NoneType")
  | .moment value => .error (.notNumeric value.kind)
  | .list _ => .error (.notNumeric "list")
  | .table _ => .error (.notNumeric "dict")

end Setting
end ConceptMap
