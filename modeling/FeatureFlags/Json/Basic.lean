import FeatureFlags.Binary64.Notation
import FeatureFlags.Binary64.Decimal

namespace FeatureFlags

namespace Json

/-- A number of a JSON text: 64-bit when it is written as an integer that fits, else a double. -/
inductive Number where
  | natural (n : UInt64)
  | negative (magnitude : Nat)
  | double (x : Binary64)
  deriving DecidableEq

end Json

/-- A JSON value. Objects have their fields in ascending order of the keys, each key once. -/
inductive Json where
  | null
  | bool (b : Bool)
  | number (n : Json.Number)
  | string (s : String)
  | array (items : List Json)
  | object (fields : List (String × Json))

instance : Inhabited Json := ⟨.null⟩

namespace Json

/-- A JSON value as a text writes it: fields in the order of the text, repeated keys kept. What is
well-formed but stands for no value is unreadable: a number beyond the doubles, a string or key
with half a surrogate pair, an array or object below the deepest level. -/
inductive Written where
  | null
  | bool (b : Bool)
  | number (n : Number)
  | string (s : String)
  | array (items : List Written)
  | object (fields : List (String × Written))
  | unreadable

/-- Puts a field into ascending order; a field with its key gives way. -/
def insertField {α : Type} (key : String) (value : α) : List (String × α) → List (String × α)
  | [] => [(key, value)]
  | (k, v) :: rest =>
    if key = k then (key, value) :: rest
    else if key < k then (key, value) :: (k, v) :: rest
    else (k, v) :: insertField key value rest

namespace Written

mutual

/-- The value that a text writes: fields sorted, and of a repeated key the last. -/
def value? : Written → Option Json
  | .null => some .null
  | .bool b => some (.bool b)
  | .number n => some (.number n)
  | .string s => some (.string s)
  | .array items => (values? items).map .array
  | .object fields => (fieldValues? fields).map fun fs =>
      .object (fs.foldl (fun sorted (k, v) => insertField k v sorted) [])
  | .unreadable => none

def values? : List Written → Option (List Json)
  | [] => some []
  | w :: rest => match value? w, values? rest with
    | some v, some vs => some (v :: vs)
    | _, _ => none

def fieldValues? : List (String × Written) → Option (List (String × Json))
  | [] => some []
  | (k, w) :: rest => match value? w, fieldValues? rest with
    | some v, some vs => some ((k, v) :: vs)
    | _, _ => none

end

end Written

end Json

end FeatureFlags
