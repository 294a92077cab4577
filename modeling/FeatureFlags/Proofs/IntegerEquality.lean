import FeatureFlags.Proofs.Gathering
import FeatureFlags.Proofs.IntegerText
import FeatureFlags.Segment.Compile

namespace FeatureFlags

namespace Json.Number

open Text

/-- The number that a document gives for a 64-bit integer. -/
def ofInt64 (n : Int64) : Number :=
  if n.toInt < 0 then .negative n.toInt.natAbs else .natural n.toInt.natAbs.toUInt64

theorem le_ofDigitChars (cs : List Char) (n : Nat) : n ≤ Nat.ofDigitChars 10 cs n := by
  induction cs generalizing n with
  | nil => exact le_rfl
  | cons c cs ih =>
    rw [Nat.ofDigitChars_cons]
    exact le_trans (by omega) (ih _)

/-- Of a number that fits into 64 bits all digits are taken. -/
theorem takeDigits_of_fits {cs : List Char} {n : Nat}
    (fits : Nat.ofDigitChars 10 cs n < UInt64.size) :
    takeDigits n cs = (Nat.ofDigitChars 10 cs n, cs.length) := by
  induction cs generalizing n with
  | nil => rfl
  | cons c cs ih =>
    rw [Nat.ofDigitChars_cons] at fits ⊢
    have next : 10 * n + (c.toNat - 48) < UInt64.size := (le_ofDigitChars cs _).trans_lt fits
    simp only [takeDigits, if_pos next]
    rw [show 10 * n + (c.toNat - 48) = 10 * n + (c.toNat - '0'.toNat) from rfl, ih fits]
    rfl

theorem takeDigits_toDigits {n : Nat} (fits : n < UInt64.size) :
    takeDigits 0 (Nat.toDigits 10 n) = (n, (Nat.toDigits 10 n).length) := by
  rw [takeDigits_of_fits] <;> rw [Nat.ofDigitChars_ten_toDigits]
  exact fits

variable (n : Int64)

theorem ofInt64_fits : n.toInt.natAbs < UInt64.size ∧
    (n.toInt < 0 → 0 < n.toInt.natAbs ∧ n.toInt.natAbs ≤ UInt64.size / 2) := by
  have size : UInt64.size = 2 ^ 64 := rfl
  have least := n.le_toInt
  have most := n.toInt_lt
  omega

/-- A 64-bit integer is read as a number of its own kind. -/
theorem ofParts?_toDigits :
    ofParts? (n.toInt < 0) (Nat.toDigits 10 n.toInt.natAbs) none none = some (ofInt64 n) := by
  obtain ⟨fits, negatives⟩ := ofInt64_fits n
  unfold ofParts? ofInt64
  rw [takeDigits_toDigits fits]
  by_cases below : n.toInt < 0
  · simp [below, negatives below]
  · simp [below]

/-- A document that gives a 64-bit integer is read as giving a number of that kind. -/
theorem number?_toString :
    number? (toString n.toInt).toList = some (.number (ofInt64 n), []) := by
  obtain ⟨c, cs, digits⟩ := List.exists_cons_of_ne_nil (toDigits_ne_nil n.toInt.natAbs)
  have span := spanDigits_toDigits n.toInt.natAbs
  have read := ofParts?_toDigits n
  obtain ⟨minus, unpadded⟩ := head_toDigits digits
  rw [toList_toString_int]
  rw [digits] at span read ⊢
  by_cases below : n.toInt < 0
  · rw [decide_eq_true below] at read
    simpa [number?, fraction?, exponent?, below, span, read] using unpadded
  · rw [decide_eq_false below] at read
    simpa [number?, fraction?, exponent?, below, minus, span, read] using unpadded

theorem text_ofInt64 : (ofInt64 n).text = toString n.toInt := by
  obtain ⟨fits, -⟩ := ofInt64_fits n
  rw [ofInt64, Int.toString_eq_repr, Int.repr_eq_if]
  by_cases below : n.toInt < 0
  · have magnitude : (-n.toInt).toNat = n.toInt.natAbs := by omega
    rw [if_pos below, if_neg (Int.not_le.mpr below), magnitude]
    rfl
  · have magnitude : n.toInt.toNat = n.toInt.natAbs := by omega
    have word : n.toInt.natAbs.toUInt64.toNat = n.toInt.natAbs := UInt64.toNat_ofNat_of_lt fits
    rw [if_neg below, if_pos (Int.not_lt.mp below), magnitude, text, word]
    rfl

end Json.Number

namespace Segment

variable {ω σ : Type}

/-- The condition that an attribute is as an operand says, as a document writes it. -/
def attributeNode (name : String) (operand : Json) : Json :=
  .object [("custom_variable", .object [(name, operand)])]

theorem compile?_attributeNode {name text : String} {operand : Json}
    (written : scalarText? operand = some text) :
    compile? (attributeNode name operand) = some (.customVariable name (.ofText text)) := by
  simp [compile?, attributeNode, ofNode, leaf, customVariable?, firstField?, written]

/-- What a document gives for a 64-bit integer: its text, or the number that its text is read as. -/
def WritesInteger (n : Int64) (operand : Json) : Prop :=
  operand = .string (toString n.toInt) ∨
    ∃ value, Json.number? (toString n.toInt).toList = some (.number value, []) ∧
      operand = .number value

theorem WritesInteger.scalarText? {n : Int64} {operand : Json} (writes : WritesInteger n operand) :
    scalarText? operand = some (toString n.toInt) := by
  rcases writes with rfl | ⟨value, read, rfl⟩
  · rfl
  · rw [Json.Number.number?_toString] at read
    cases read
    exact congrArg some (Json.Number.text_ofInt64 n)

theorem run_customVariable_equals (services : Services σ) (journal : Journal σ) (scope : Scope ω)
    {attributes : Attributes} {name tag : String} (known : attributes.tag? name = some tag)
    (text : String) :
    ((holds scope attributes (.customVariable name (.equals text))).run services journal).1 =
      decide (tag = text) := by
  unfold holds customVariableHolds
  simp only [known]
  rfl

/-- Two integers, of which 53 bits are enough for one, match if and only if they are the same. Either
may be given as a number or as a text. -/
theorem integers_match_exactly (services : Services σ) (journal : Journal σ) (scope : Scope ω)
    (attributes : Attributes) (name : String) (n m : Int64)
    (short : IsShort n.toInt ∨ IsShort m.toInt) (operand : Json) (writes : WritesInteger n operand) :
    ∃ segment, compile? (attributeNode name operand) = some segment ∧
      let held : Bool := ((holds scope attributes segment).run services journal).1
      (attributes.tag? name = some (Attribute.int m.toInt).tag → (held = true ↔ n = m)) ∧
      (attributes.tag? name = some (Attribute.string (toString m.toInt)).tag →
        (held = true ↔ n = m)) := by
  obtain ⟨k, text, first⟩ := canonicalText_toString (Json.Number.ofInt64_fits n).1
  obtain ⟨l, text', second⟩ := canonicalText_toString (Json.Number.ofInt64_fits m).1
  have texts (a b : Int) : toString a = toString b ↔ a = b :=
    ⟨Text.toString_int_injective, fun same => same ▸ rfl⟩
  refine ⟨_, compile?_attributeNode writes.scalarText?, fun known => ?_, fun known => ?_⟩
  · rw [Operand.ofText_toString, text, run_customVariable_equals services journal scope known,
      decide_eq_true_iff, Attribute.tag, texts, ← Int64.toInt_inj]
    exact first.eq_iff (.refl _) short
  · rw [Operand.ofText_toString, text, run_customVariable_equals services journal scope known,
      decide_eq_true_iff, Attribute.tag, text', texts, ← Int64.toInt_inj]
    exact first.eq_iff second short

/-- Settings of no account, and a user. -/
def idScope : Scope Binary64 := ⟨.empty, { id := "ann" }, none⟩

/-- Whether somebody whose id is as given is matched by an operand for ids. -/
def idMatches (operand : Json) (id : Attribute) : Bool :=
  (compile? (attributeNode "id" operand)).any fun segment =>
    ((holds idScope ⟨[("id", id)], none⟩ segment).run Services.none ⟨(), [], []⟩).1

theorem largest_safe_id_matches :
    WritesInteger 9007199254740991 (.string "9007199254740991") ∧
      IsShort (9007199254740991 : Int64).toInt ∧
      idMatches (.string "9007199254740991") (.int 9007199254740991) = true ∧
      idMatches (.string "9007199254740991") (.string "9007199254740992") = false := by
  have writes : WritesInteger 9007199254740991 (.string "9007199254740991") :=
    Or.inl (congrArg Json.string (by decide +kernel))
  have short : IsShort (9007199254740991 : Int64).toInt := by decide
  obtain ⟨_, compiled, itself, -⟩ := integers_match_exactly Services.none ⟨(), [], []⟩ idScope
    ⟨[("id", .int 9007199254740991)], none⟩ "id" 9007199254740991 9007199254740991 (Or.inl short)
    _ writes
  obtain ⟨_, compiled', -, other⟩ := integers_match_exactly Services.none ⟨(), [], []⟩ idScope
    ⟨[("id", .string "9007199254740992")], none⟩ "id" 9007199254740991 9007199254740992
    (Or.inl short) _ writes
  refine ⟨writes, short, ?_, ?_⟩
  · rw [idMatches, compiled]
    exact (itself (by decide +kernel)).mpr rfl
  · rw [idMatches, compiled', ← Bool.not_eq_true]
    exact fun held => absurd ((other (by decide +kernel)).mp held) (by decide)

/-- An id that 53 bits are not enough for is not matched by itself, and a text that is another
number is. -/
theorem long_id_misses_itself :
    idMatches (.number (.natural 9007199254740993)) (.int 9007199254740993) = false ∧
      idMatches (.string "9007199254740993") (.int 9007199254740993) = false ∧
      idMatches (.string "9007199254740993") (.string "9007199254740992") = true := by
  decide +kernel

end Segment

end FeatureFlags
