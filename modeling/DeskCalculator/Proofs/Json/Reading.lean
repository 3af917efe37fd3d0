import DeskCalculator.Proofs.Json

/-!
# Reading JSON

A character of a JSON string is read back from its escape whatever follows it
(`unescape?_escapeChar_append`), and no escape begins with a quotation mark.  Therefore a string
ends where its content does (`flatMap_escapeChar_append_injective`), and records that are written
alike agree in their first field if it holds a text, and in the lines after it
(`json_text_injective`, `following_text_injective`).
-/

namespace DeskCalculator.Json

/-! ### Characters -/

/-- The value of a hexadecimal digit. -/
def hexDigit (c : Char) : Nat :=
  if c.isDigit then c.toNat - 0x30 else c.toNat - 0x57

/-- The value of hexadecimal digits. -/
def hexNumber (digits : List Char) : Nat :=
  digits.foldl (fun n c => 16 * n + hexDigit c) 0

/-- The characters that are escaped by a letter or by themselves. -/
def letterEscapes : List (Char × Char) :=
  [('"', '"'), ('\\', '\\'), ('b', '\x08'), ('f', '\x0c'), ('n', '\n'), ('r', '\r'), ('t', '\t')]

/-- The first character of the content of a string, and the text after it. -/
def unescape? : List Char → Option (Char × List Char)
  | [] => none
  | '"' :: _ => none
  | '\\' :: 'u' :: a :: b :: c :: d :: rest => some (Char.ofNat (hexNumber [a, b, c, d]), rest)
  | '\\' :: letter :: rest => (letterEscapes.lookup letter).map fun c => (c, rest)
  | c :: rest => some (c, rest)

/-- Control characters are escaped by four digits. -/
theorem hexNumber_hexChars :
  ∀ code < 0x20, (Text.hexChars code).length ≤ 4
    ∧ hexNumber (List.replicate (4 - (Text.hexChars code).length) '0' ++ Text.hexChars code) = code
  := by
  decide

theorem unescape?_code {digits : List Char} (h : digits.length = 4) (rest : List Char) :
  unescape? ('\\' :: 'u' :: digits ++ rest) = some (Char.ofNat (hexNumber digits), rest)
  := by
  match digits, h with
  | [a, b, c, d], _ => rfl

/-- A character that is no quotation mark and no backslash stands for itself. -/
theorem unescape?_cons {c : Char} (hquote : c ≠ '"') (hbackslash : c ≠ '\\') (rest : List Char) :
  unescape? (c :: rest) = some (c, rest)
  := by
  unfold unescape?
  split
  · next hnil => cases hnil
  · next hcons =>
    cases hcons
    exact absurd rfl hquote
  · next hcons =>
    cases hcons
    exact absurd rfl hbackslash
  · next hcons =>
    cases hcons
    exact absurd rfl hbackslash
  · next hcons =>
    cases hcons
    rfl

/-- A character is read back from its escape. -/
theorem unescape?_escapeChar_append (c : Char) (rest : List Char) :
  unescape? (escapeChar c ++ rest) = some (c, rest)
  := by
  unfold escapeChar
  split
  case h_8 hquote hbackslash _ _ _ _ _ =>
    split
    · next hcontrol =>
      obtain ⟨hlength, hnumber⟩ := hexNumber_hexChars c.toNat hcontrol
      have hdigits : (List.replicate (4 - (Text.hexChars c.toNat).length) '0'
          ++ Text.hexChars c.toNat).length = 4 := by
        rw [List.length_append, List.length_replicate]
        omega
      have hcode := unescape?_code hdigits rest
      rw [hnumber, Char.ofNat_toNat] at hcode
      apply hcode
    · apply unescape?_cons hquote hbackslash
  all_goals rfl

/-! ### Strings -/

variable {a b rest rest' : List Char}

/-- A string ends where its content does. -/
theorem flatMap_escapeChar_append_injective
    (h : a.flatMap escapeChar ++ '"' :: rest = b.flatMap escapeChar ++ '"' :: rest') :
  a = b ∧ rest = rest'
  := by
  have hread := congrArg unescape? h
  induction a generalizing b with
  | nil =>
    cases b with
    | nil =>
      cases h
      exact ⟨rfl, rfl⟩
    | cons d b =>
      rw [List.flatMap_cons, List.append_assoc, unescape?_escapeChar_append] at hread
      cases hread
  | cons c a ih =>
    rw [List.flatMap_cons, List.append_assoc, unescape?_escapeChar_append] at hread
    cases b with
    | nil => cases hread
    | cons d b =>
      rw [List.flatMap_cons, List.append_assoc, unescape?_escapeChar_append] at hread
      obtain ⟨rfl, hafter⟩ := Prod.mk.inj (Option.some.inj hread)
      obtain ⟨rfl, hrest⟩ := ih hafter (congrArg unescape? hafter)
      exact ⟨rfl, hrest⟩

/-! ### Records -/

/-- The lines of an object after one of its fields. -/
def following : Record → List Char
  | [] => ['\n', '\x7d']
  | field :: rest => [',', '\n'] ++ fieldChars field ++ following rest

theorem intercalate_fieldChars_append (field : String × Scalar) (rest : Record) :
  [',', '\n'].intercalate ((field :: rest).map fieldChars) ++ ['\n', '\x7d']
    = fieldChars field ++ following rest
  := by
  induction rest generalizing field with
  | nil => rw [List.map_singleton, List.intercalate_singleton, following]
  | cons next rest ih =>
    have hne : (next :: rest).map fieldChars ≠ [] := List.cons_ne_nil _ _
    rw [List.map_cons, List.intercalate_cons_of_ne_nil hne, List.append_assoc, ih, following]
    simp only [List.append_assoc]

/-- An object is its first field and the lines after it. -/
theorem toList_json_cons (field : String × Scalar) (rest : Record) :
  (Record.json "" (field :: rest)).toList
    = ['\x7b', '\n'] ++ fieldChars field ++ following rest
  := by
  rw [List.append_assoc, ← intercalate_fieldChars_append, toList_json]
  simp only [String.toList_empty, List.nil_append, List.append_assoc, List.cons_append]

variable {name : String} {content content' : String} {record record' : Record}

/-- Fields with the same name that hold texts are written alike only if the texts agree. -/
theorem fieldChars_text_append_injective
    (h : fieldChars (name, .text content) ++ rest = fieldChars (name, .text content') ++ rest') :
  content = content' ∧ rest = rest'
  := by
  simp only [fieldChars, Scalar.json, List.append_assoc] at h
  have hstring := List.append_cancel_left (List.append_cancel_left (List.append_cancel_left h))
  simp only [string, String.toList_ofList, List.cons_append, List.append_assoc,
    List.nil_append] at hstring
  obtain ⟨hcontent, hrest⟩ := flatMap_escapeChar_append_injective (List.cons.inj hstring).2
  exact ⟨String.toList_inj.mp hcontent, hrest⟩

/-- Objects are written alike only if they agree in a text in the first field and after it. -/
theorem json_text_injective
    (h : Record.json "" ((name, .text content) :: record)
      = Record.json "" ((name, .text content') :: record')) :
  content = content' ∧ following record = following record'
  := by
  have hchars := congrArg String.toList h
  rw [toList_json_cons, toList_json_cons, List.append_assoc, List.append_assoc] at hchars
  apply fieldChars_text_append_injective (List.append_cancel_left hchars)

theorem following_text_injective
    (h : following ((name, .text content) :: record)
      = following ((name, .text content') :: record')) :
  content = content' ∧ following record = following record'
  := by
  rw [following, following, List.append_assoc, List.append_assoc] at h
  apply fieldChars_text_append_injective (List.append_cancel_left h)

end DeskCalculator.Json
