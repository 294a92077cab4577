import FeatureFlags.Json.Parser
import FeatureFlags.Json.Printer
import FeatureFlags.Proofs.IntegerEquality

namespace FeatureFlags.Json

open Text

/-- A text that does not go on with a number that stands before it. -/
def Breaks (rest : List Char) : Prop :=
  ∀ c ∈ rest.head?, isDigit c = false ∧ c ≠ '.' ∧ c ≠ 'e' ∧ c ≠ 'E'

/-- What a scalar value is read as. -/
def Written.ofScalar : Json → Written
  | .null => .null
  | .bool b => .bool b
  | .number n => .number n
  | .string s => .string s
  | .array _ | .object _ => .unreadable

/-- The text of a value is read as the value, wherever it stands. Only what might go on with the
digits of a number must not follow it. -/
def ReadsBack (v : Json) : Prop := ∀ fuel room rest, Breaks rest →
  written? (fuel + 1) room (printed v ++ rest) = some (.ofScalar v, rest)

theorem skipBlanks_cons {c : Char} (visible : c ≠ ' ' ∧ c ≠ '\n' ∧ c ≠ '\t' ∧ c ≠ '\r')
    (rest : List Char) : skipBlanks (c :: rest) = c :: rest := by
  rw [skipBlanks, List.dropWhile_cons_of_neg]
  simp [visible]

section Strings

theorem hexValue?_digitChar {n : Nat} (small : n < 16) : hexValue? (Nat.digitChar n) = some n := by
  have all : ∀ n < 16, hexValue? (Nat.digitChar n) = some n := by decide
  exact all n small

/-- A control character is written by its code. -/
theorem stringParts?_code {n : Nat} (small : n < 0x20) (rest : List Char) :
    stringParts? ('\\' :: 'u' :: '0' :: '0' :: Nat.digitChar (n / 16) :: Nat.digitChar (n % 16) ::
      rest) = (stringParts? rest).map fun (parts, r) => (.unit n :: parts, r) := by
  have upper := hexValue?_digitChar (n := n / 16) (by omega)
  have lower := hexValue?_digitChar (n := n % 16) (by omega)
  have zero : hexValue? '0' = some 0 := by decide
  have value : ofHexDigits ['0', '0', Nat.digitChar (n / 16), Nat.digitChar (n % 16)] = n := by
    simp only [ofHexDigits, List.foldl_cons, List.foldl_nil, upper, lower, zero, Option.getD_some]
    omega
  rw [stringParts?, if_pos (by simp [upper, lower, zero]), value]

/-- What is written for a character is read as one part, which stands for that character. -/
theorem stringParts?_escaped (c : Char) : ∃ part : StringPart,
    (∀ rest, stringParts? (escaped c ++ rest) =
      (stringParts? rest).map fun (parts, r) => (part :: parts, r)) ∧
    ∀ parts, joinParts? (part :: parts) = (joinParts? parts).map (c :: ·) := by
  unfold escaped
  split
  case h_8 =>
    split
    · rename_i control
      refine ⟨.unit c.toNat, stringParts?_code control, fun parts => ?_⟩
      -- A code below 0x20 is no half of a pair, whatever follows it.
      rw [joinParts?.eq_def]
      simp only [if_pos (show c.toNat < 0xd800 ∨ 0xe000 ≤ c.toNat by omega), Char.ofNat_toNat]
    · rename_i quote slash _ _ _ _ _ plain
      refine ⟨.char c, fun rest => ?_, fun parts => rfl⟩
      rw [List.singleton_append, stringParts?.eq_def]
      split <;> simp_all
  all_goals exact ⟨_, fun _ => rfl, fun _ => rfl⟩

theorem stringParts?_quoted (cs rest : List Char) : ∃ parts,
    stringParts? (cs.flatMap escaped ++ '"' :: rest) = some (parts, rest) ∧
      joinParts? parts = some cs := by
  induction cs with
  | nil => exact ⟨[], rfl, rfl⟩
  | cons c cs ih =>
    obtain ⟨parts, read, joined⟩ := ih
    obtain ⟨part, reads, joins⟩ := stringParts?_escaped c
    refine ⟨part :: parts, ?_, ?_⟩
    · rw [List.flatMap_cons, List.append_assoc, reads, read]
      rfl
    · rw [joins, joined]
      rfl

theorem string?_quoted (s : String) (rest : List Char) :
    string? (s.toList.flatMap escaped ++ '"' :: rest) = some (some s, rest) := by
  obtain ⟨parts, read, joined⟩ := stringParts?_quoted s.toList rest
  rw [string?, read]
  simp [joined]

end Strings

theorem readsBack_string (s : String) : ReadsBack (.string s) := by
  intro fuel room rest _
  have text : printed (.string s) ++ rest = '"' :: (s.toList.flatMap escaped ++ '"' :: rest) := by
    simp [printed, quoted]
  rw [text, written?, skipBlanks_cons (by decide)]
  simp only [string?_quoted]
  rfl

section Numbers

theorem ofParts?_natural (n : UInt64) :
    Number.ofParts? false (Nat.toDigits 10 n.toNat) none none = some (.natural n) := by
  rw [Number.ofParts?, Number.takeDigits_toDigits n.toNat_lt]
  simp

/-- The digits of a 64-bit number are read as the number. -/
theorem number?_digits (n : UInt64) {rest : List Char} (breaks : Breaks rest) :
    number? (Nat.toDigits 10 n.toNat ++ rest) = some (.number (.natural n), rest) := by
  have span : spanDigits (Nat.toDigits 10 n.toNat ++ rest) = (Nat.toDigits 10 n.toNat, rest) :=
    spanDigits_append (fun _ => isDigit_of_mem_toDigits) fun c first => (breaks c first).1
  have read := ofParts?_natural n
  obtain ⟨c, cs, digits⟩ := List.exists_cons_of_ne_nil (toDigits_ne_nil n.toNat)
  obtain ⟨minus, unpadded⟩ := head_toDigits digits
  rw [digits] at span read ⊢
  rw [List.cons_append] at span ⊢
  -- Behind the digits there is neither a point nor an exponent.
  cases rest with
  | nil =>
    rw [List.append_nil] at span ⊢
    simpa [number?, fraction?, exponent?, minus, span, read] using unpadded
  | cons d rest =>
    obtain ⟨-, point, lower, upper⟩ := breaks d rfl
    simpa [number?, fraction?, exponent?, minus, span, read, point, lower, upper] using unpadded

end Numbers

theorem written?_eq_number? {c : Char} (digit : isDigit c = true) (fuel room : Nat)
    (rest : List Char) : written? (fuel + 1) room (c :: rest) = number? (c :: rest) := by
  have other {d : Char} (plain : isDigit d = false) : c ≠ d := fun same => by
    rw [same, plain] at digit
    exact Bool.false_ne_true digit
  have blanks : c ≠ ' ' ∧ c ≠ '\n' ∧ c ≠ '\t' ∧ c ≠ '\r' :=
    ⟨other (by decide), other (by decide), other (by decide), other (by decide)⟩
  rw [written?, skipBlanks_cons blanks]
  split <;> rename_i same <;>
    first
    | rfl
    | exact absurd (List.cons.inj same).1 (other (by decide))

theorem readsBack_natural (n : UInt64) : ReadsBack (.number (.natural n)) := by
  intro fuel room rest breaks
  have text : printed (.number (.natural n)) = Nat.toDigits 10 n.toNat := by
    simp [printed, Number.text, Nat.toList_repr]
  have read := number?_digits n breaks
  obtain ⟨c, cs, digits⟩ := List.exists_cons_of_ne_nil (toDigits_ne_nil n.toNat)
  have digit : isDigit c = true := isDigit_of_mem_toDigits (digits ▸ List.mem_cons_self)
  rw [digits, List.cons_append] at read
  rw [text, digits, List.cons_append, written?_eq_number? digit, read]
  rfl

section Objects

/-- What an object of scalar values is read as. -/
def writtenFields (fields : List (String × Json)) : List (String × Written) :=
  fields.map fun (k, v) => (k, .ofScalar v)

theorem breaks_of_cons {c : Char} (other : isDigit c = false ∧ c ≠ '.' ∧ c ≠ 'e' ∧ c ≠ 'E')
    (rest : List Char) : Breaks (c :: rest) := by
  rintro d ⟨⟩
  exact other

theorem printedFields_cons_cons (k : String) (v : Json) (next : String × Json)
    (fields : List (String × Json)) : printedFields ((k, v) :: next :: fields) =
      quoted k ++ ':' :: printed v ++ ',' :: printedFields (next :: fields) := rfl

theorem length_le_printedFields (fields : List (String × Json)) :
    fields.length ≤ (printedFields fields).length := by
  induction fields with
  | nil => exact le_rfl
  | cons field fields ih =>
    obtain ⟨k, v⟩ := field
    cases fields with
    | nil => simp [printedFields, quoted]
    | cons next fields =>
      rw [printedFields_cons_cons]
      simp only [List.length_append, List.length_cons] at ih ⊢
      omega

/-- What follows a field, and what is read of it: the end of the object, or other fields. -/
inductive Further (fuel room : Nat) (left : List Char) :
    List Char → List (String × Written) → Prop
  | last : Further fuel room left ('}' :: left) []
  | next {rest others} : fields? fuel room rest = some (some others, left) →
      Further fuel room left (',' :: rest) others

/-- The first field of an object is read up to what separates it from the others. -/
theorem fields?_field {k : String} {v : Json} (readable : ReadsBack v) {fuel room : Nat}
    {more left : List Char} {others : List (String × Written)}
    (further : Further (fuel + 1) room left more others) :
    fields? (fuel + 2) room (quoted k ++ ':' :: printed v ++ more) =
      some (some ((k, .ofScalar v) :: others), left) := by
  have text : quoted k ++ ':' :: printed v ++ more =
      '"' :: (k.toList.flatMap escaped ++ '"' :: ':' :: (printed v ++ more)) := by
    simp [quoted]
  have colon (rest : List Char) : skipBlanks (':' :: rest) = ':' :: rest :=
    skipBlanks_cons (by decide) rest
  have visible : skipBlanks more = more := by
    cases further <;> exact skipBlanks_cons (by decide) _
  have breaks : Breaks more := by
    cases further <;> exact breaks_of_cons (by decide) _
  rw [text, fields?, skipBlanks_cons (by decide)]
  simp only [string?_quoted, colon, readable fuel room more breaks, visible]
  cases further with
  | last => rfl
  | next read =>
    simp only [read]
    rfl

theorem fields?_printed {fields : List (String × Json)} (nonempty : fields ≠ [])
    (readable : ∀ field ∈ fields, ReadsBack field.2) (room : Nat) (rest : List Char) {fuel : Nat}
    (enough : fields.length < fuel) :
    fields? fuel room (printedFields fields ++ '}' :: rest) =
      some (some (writtenFields fields), rest) := by
  induction fields generalizing fuel with
  | nil => exact absurd rfl nonempty
  | cons field fields ih =>
    obtain ⟨fuel, rfl⟩ : ∃ n, fuel = n + 2 := ⟨fuel - 2, by simp at enough; omega⟩
    obtain ⟨k, v⟩ := field
    have first := readable (k, v) List.mem_cons_self
    cases fields with
    | nil => exact fields?_field first .last
    | cons next fields =>
      have others := ih (by simp) (fun field within => readable field (.tail _ within))
        (show _ < fuel + 1 by simpa using enough)
      rw [printedFields_cons_cons, List.append_assoc, List.cons_append]
      exact fields?_field first (.next others)

theorem printedFields_starts {fields : List (String × Json)} (nonempty : fields ≠ []) :
    ∃ cs, printedFields fields = '"' :: cs := by
  obtain ⟨⟨k, v⟩, fields, rfl⟩ := List.exists_cons_of_ne_nil nonempty
  cases fields with
  | nil => exact ⟨_, rfl⟩
  | cons next fields => exact ⟨_, rfl⟩

/-- An object of scalar values is read as the object, while there is room for one more level. -/
theorem written?_object {fields : List (String × Json)} (nonempty : fields ≠ [])
    (readable : ∀ field ∈ fields, ReadsBack field.2) (room : Nat) (rest : List Char) {fuel : Nat}
    (enough : fields.length < fuel) :
    written? (fuel + 1) (room + 1) (printed (.object fields) ++ rest) =
      some (.object (writtenFields fields), rest) := by
  have read := fields?_printed nonempty readable room rest enough
  obtain ⟨cs, starts⟩ := printedFields_starts nonempty
  have text : printed (.object fields) ++ rest = '{' :: '"' :: (cs ++ '}' :: rest) := by
    simp [printed, starts]
  rw [starts, List.cons_append] at read
  have quote (rest : List Char) : skipBlanks ('"' :: rest) = '"' :: rest :=
    skipBlanks_cons (by decide) rest
  rw [text, written?, skipBlanks_cons (by decide)]
  simp only [quote, Nat.add_sub_cancel]
  -- What follows the brace is no other brace, so fields are read.
  change Option.map _ (fields? fuel room ('"' :: (cs ++ '}' :: rest))) = _
  rw [read]
  rfl

/-- The text of an object of scalar values is read as the object. -/
theorem ofText?_object {fields : List (String × Json)} (nonempty : fields ≠ [])
    (readable : ∀ field ∈ fields, ReadsBack field.2) :
    Written.ofText? (Json.object fields).text = some (.object (writtenFields fields)) := by
  have enough : fields.length < 2 * (printed (.object fields)).length := by
    have shorter := length_le_printedFields fields
    simp only [printed, List.length_append, List.length_cons]
    omega
  have read := written?_object nonempty readable (maxDepth - 1) [] enough
  rw [List.append_nil] at read
  simp only [Written.ofText?, Json.text, String.toList_ofList]
  rw [show maxDepth = maxDepth - 1 + 1 from rfl, read]
  rfl

end Objects

end FeatureFlags.Json
