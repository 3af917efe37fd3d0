import DeskCalculator.Json
import DeskCalculator.Proofs.Decimal.Layout

/-!
# Lines of JSON

The strings and numbers of a record are free of control characters, since a string escapes
them, so the lines of a JSON object are its two braces and one line for each field.  Therefore
an object within an array is the object on its own with its lines moved to the right
(`indent_json`), and an array of records is the array of their objects
(`array_eq_arrayOf`).
-/

namespace DeskCalculator.Json

/-! ### Control characters -/

/-- Characters without the control characters below the space. -/
def IsUncontrolled (chars : List Char) : Prop :=
  ∀ c ∈ chars, 0x20 ≤ c.toNat

theorem IsUncontrolled.append {before after : List Char} (hbefore : IsUncontrolled before)
    (hafter : IsUncontrolled after) :
  IsUncontrolled (before ++ after)
  := List.forall_mem_append.mpr ⟨hbefore, hafter⟩

-- the instance for lists, by name: there are only finitely many characters, but too many to try
instance (chars : List Char) : Decidable (IsUncontrolled chars) :=
  List.decidableBAll (fun c : Char => 0x20 ≤ c.toNat) chars

/-- The code points of control characters are written in digits and letters. -/
theorem isUncontrolled_hexChars :
  ∀ code < 0x20, IsUncontrolled (Text.hexChars code)
  := by
  decide

/-- Within a string, a control character is escaped. -/
theorem isUncontrolled_escapeChar (c : Char) :
  IsUncontrolled (escapeChar c)
  := by
  unfold escapeChar
  split
  case h_8 =>
    split
    · next hcontrol =>
      apply IsUncontrolled.append _ (isUncontrolled_hexChars _ hcontrol)
      apply IsUncontrolled.append (by decide)
      intro d hd
      rw [List.eq_of_mem_replicate hd]
      decide
    · next hcontrol =>
      intro d hd
      rw [List.mem_singleton.mp hd]
      omega
  all_goals decide

theorem isUncontrolled_string (content : String) :
  IsUncontrolled (string content).toList
  := by
  rw [string, String.toList_ofList, ← List.singleton_append]
  apply IsUncontrolled.append _ (by decide)
  apply IsUncontrolled.append (by decide)
  intro c hc
  obtain ⟨d, -, hd⟩ := List.mem_flatMap.mp hc
  apply isUncontrolled_escapeChar d c hd

theorem isUncontrolled_of_isNumeral {chars : List Char} (h : IsNumeral chars) :
  IsUncontrolled chars
  := by
  intro c hc
  obtain hdigit | hmark := h c hc
  · have hcode : 48 ≤ c.toNat ∧ c.toNat ≤ 57 := Char.isDigit_iff_toNat.mp hdigit
    omega
  · have hmarks : IsUncontrolled ['.', 'e', '+', '-'] := by decide
    apply hmarks c hmark

/-- The content of a field is written without control characters. -/
theorem isUncontrolled_json (content : Scalar) :
  IsUncontrolled content.json.toList
  := by
  cases content with
  | text content => apply isUncontrolled_string
  | number x =>
    obtain hnumeral | hnull := Layout.record.isNumeral_or_eq_of_text x
    · apply isUncontrolled_of_isNumeral hnumeral
    · have hnulls : ∀ other ∈ [Layout.record.undefined, Layout.record.infinity.1,
          Layout.record.infinity.2], IsUncontrolled other.toList := by
        decide
      apply hnulls _ hnull

/-! ### Moving lines to the right -/

/-- What a character becomes in a text whose lines are moved to the right. -/
def indentChar (c : Char) : List Char :=
  if c = '\n' then ['\n', ' ', ' '] else [c]

/-- A text with two more spaces at the start of each line. -/
def indent (text : String) : String :=
  "  " ++ String.ofList (text.toList.flatMap indentChar)

/-- The JSON array of values that are written already. -/
def arrayOf (values : List String) : String :=
  if values.isEmpty then "[]" else "[\n" ++ ",\n".intercalate (values.map indent) ++ "\n]"

variable {chars sep : List Char} {parts : List (List Char)}

/-- Within a line nothing is moved. -/
theorem flatMap_indentChar (h : IsUncontrolled chars) :
  chars.flatMap indentChar = chars
  := by
  induction chars with
  | nil => rfl
  | cons c rest ih =>
    obtain ⟨hc, hrest⟩ := List.forall_mem_cons.mp h
    have hline : c ≠ '\n' := by
      rintro rfl
      revert hc
      decide
    rw [List.flatMap_cons, ih hrest, indentChar, if_neg hline, List.singleton_append]

theorem flatMap_intercalate (f : Char → List Char) :
  (sep.intercalate parts).flatMap f
    = (sep.flatMap f).intercalate (parts.map fun part => part.flatMap f)
  := by
  induction parts with
  | nil => rfl
  | cons part rest ih =>
    by_cases hrest : rest = []
    · subst hrest
      simp
    · have hmap : rest.map (fun part => part.flatMap f) ≠ [] := by simpa using hrest
      rw [List.intercalate_cons_of_ne_nil hrest, List.flatMap_append, List.flatMap_append, ih,
        List.map_cons, List.intercalate_cons_of_ne_nil hmap]

/-- A gap before all parts is one before the first part and one behind each separator. -/
theorem append_intercalate_append (gap : List Char) (h : parts ≠ []) :
  gap ++ (sep ++ gap).intercalate parts = sep.intercalate (parts.map fun part => gap ++ part)
  := by
  induction parts with
  | nil => exact absurd rfl h
  | cons part rest ih =>
    by_cases hrest : rest = []
    · subst hrest
      simp
    · have hmap : rest.map (fun part => gap ++ part) ≠ [] := by simpa using hrest
      rw [List.intercalate_cons_of_ne_nil hrest, List.map_cons,
        List.intercalate_cons_of_ne_nil hmap, ← ih hrest]
      simp only [List.append_assoc]

/-! ### Objects -/

/-- The line of a field in an object that stands on its own. -/
def fieldChars (field : String × Scalar) : List Char :=
  "  ".toList ++ (string field.1).toList ++ ": ".toList ++ field.2.json.toList

theorem isUncontrolled_fieldChars (field : String × Scalar) :
  IsUncontrolled (fieldChars field)
  := by
  apply IsUncontrolled.append _ (isUncontrolled_json _)
  apply IsUncontrolled.append _ (by decide)
  apply IsUncontrolled.append (by decide) (isUncontrolled_string _)

/-- The characters of an object are its two braces and the lines of its fields. -/
theorem toList_json (margin : String) (record : Record) :
  (record.json margin).toList
    = ['\x7b', '\n']
      ++ [',', '\n'].intercalate (record.map fun field => margin.toList ++ fieldChars field)
      ++ ['\n'] ++ margin.toList ++ ['\x7d']
  := by
  simp [Record.json, fieldChars, String.toList_intercalate, Function.comp_def]

/-- Moving the lines of an object to the right gives its lines the margin. -/
theorem flatMap_indentChar_json {record : Record} (h : record ≠ []) :
  (record.json "").toList.flatMap indentChar = (record.json "  ").toList
  := by
  have hlines : (record.map fun field => "".toList ++ fieldChars field).map
      (fun line => line.flatMap indentChar) = record.map fieldChars := by
    rw [List.map_map]
    apply List.map_congr_left
    intro field _
    apply flatMap_indentChar (isUncontrolled_fieldChars field)
  have hfields : record.map (fun field => "  ".toList ++ fieldChars field)
      = (record.map fieldChars).map fun line => "  ".toList ++ line := by
    rw [List.map_map]
    rfl
  have hne : record.map fieldChars ≠ [] := by simpa using h
  have hopening : ['\x7b', '\n'].flatMap indentChar = ['\x7b', '\n'] ++ "  ".toList := by decide
  have hsep : [',', '\n'].flatMap indentChar = [',', '\n'] ++ "  ".toList := by decide
  have hclosing : (['\n'] ++ "".toList ++ ['\x7d']).flatMap indentChar
      = ['\n'] ++ "  ".toList ++ ['\x7d'] := by
    decide
  simp only [List.flatMap_append] at hclosing
  rw [toList_json, toList_json, hfields, ← append_intercalate_append _ hne]
  simp only [List.flatMap_append, flatMap_intercalate, hlines, hopening, hsep,
    List.append_assoc] at hclosing ⊢
  rw [hclosing]

/-- An object with its lines moved to the right is the object within an array. -/
theorem indent_json {record : Record} (h : record ≠ []) :
  indent (record.json "") = "  " ++ record.json "  "
  := by
  rw [indent, flatMap_indentChar_json h, String.ofList_toList]

/-- The array of records that are not empty is the array of their objects. -/
theorem array_eq_arrayOf {records : List Record} (h : ∀ record ∈ records, record ≠ []) :
  array records = arrayOf (records.map fun record => record.json "")
  := by
  have hobjects : (records.map fun record => record.json "").map indent
      = records.map fun record => "  " ++ record.json "  " := by
    rw [List.map_map]
    apply List.map_congr_left
    intro record hrecord
    apply indent_json (h record hrecord)
  rw [array, arrayOf, hobjects, List.isEmpty_map]

end DeskCalculator.Json
