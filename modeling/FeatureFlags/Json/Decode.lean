import FeatureFlags.Json.Parser

namespace FeatureFlags.Json.Written

/-! Readers of typed parts of a document. A part that is not of its type makes the whole document
unusable, so readers return nothing more than success or failure. -/

def natural? : Written → Option UInt64
  | .number (.natural n) => some n
  | _ => none

/-- A byte-sized number. -/
def small? (w : Written) : Option Nat :=
  (natural? w).bind fun n => if n.toNat < 256 then some n.toNat else none

/-- Any number; integers become the nearest double. -/
def binary64? : Written → Option Binary64
  | .number (.natural n) => some (.ofNat n.toNat)
  | .number (.negative n) => some (-Binary64.ofNat n)
  | .number (.double x) => some x
  | _ => none

def bool? : Written → Option Bool
  | .bool b => some b
  | _ => none

def string? : Written → Option String
  | .string s => some s
  | _ => none

variable {α : Type}

/-- A part that may be null. -/
def optional? (read : Written → Option α) : Written → Option (Option α)
  | .null => some none
  | w => (read w).map some

/-- A part for which null stands for the empty one. -/
def nullable? (empty : α) (read : Written → Option α) : Written → Option α
  | .null => some empty
  | w => read w

/-- An array of parts of one type. -/
def list? (read : Written → Option α) : Written → Option (List α)
  | .array items => items.mapM read
  | _ => none

/-- An object that maps names to parts of one type; of a repeated name the last part counts. -/
def dictionary? (read : Written → Option α) : Written → Option (List (String × α))
  | .object fields => do
    let entries ← fields.mapM fun (k, w) => (read w).map fun v => (k, v)
    some (entries.foldl (fun sorted (k, v) => insertField k v sorted) [])
  | _ => none

/-- The named parts of a record. -/
structure Parts where
  get? : String → Option Written

/-- A record is an object, whose known fields may not repeat, or an array that lists its parts in
the order of `names`. -/
def parts? (names : List String) : Written → Option Parts
  | .object fields =>
    if names.all fun name => (fields.countP fun (k, _) => k = name) ≤ 1 then
      some ⟨fun name => fields.lookup name⟩
    else none
  | .array items =>
    if items.length ≤ names.length then some ⟨fun name => (names.zip items).lookup name⟩ else none
  | _ => none

namespace Parts

/-- A part that must be there. -/
def required? (parts : Parts) (name : String) (read : Written → Option α) : Option α :=
  (parts.get? name).bind read

/-- A part that may be absent, for which `absent` stands then. -/
def orElse? (parts : Parts) (name : String) (absent : α) (read : Written → Option α) : Option α :=
  match parts.get? name with
  | some w => read w
  | none => some absent

/-- A part that may be absent or null. -/
def optional? (parts : Parts) (name : String) (read : Written → Option α) : Option (Option α) :=
  parts.orElse? name none (Written.optional? read)

end Parts

end FeatureFlags.Json.Written
