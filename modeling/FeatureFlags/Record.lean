import FeatureFlags.Json.Decode
import FeatureFlags.User

namespace FeatureFlags

open Json (Written)

/-- A decision as it is kept for one feature and one user. Under a key of its own it keeps the winner
of a group. -/
structure Record where
  featureKey : String
  user : String
  rolloutId : Option UInt64 := none
  rolloutKey : Option String := none
  rolloutVariation : Option UInt64 := none
  experimentId : Option UInt64 := none
  experimentKey : Option String := none
  experimentVariation : Option UInt64 := none
  deriving DecidableEq

namespace Record

/-- Whether anything beyond the feature and the user is kept. -/
def hasDecision (record : Record) : Bool :=
  record.rolloutId.isSome || record.rolloutKey.isSome || record.rolloutVariation.isSome ||
    record.experimentId.isSome || record.experimentKey.isSome || record.experimentVariation.isSome

/-- Key and variation of the experiment, if both are kept and the key is not empty. -/
def experiment? (record : Record) : Option (String × UInt64) := do
  let key ← nonEmpty? record.experimentKey
  let variation ← record.experimentVariation
  some (key, variation)

/-- Key and variation of the rollout, if both and its id are kept and the key is not empty. -/
def rollout? (record : Record) : Option (String × UInt64) := do
  let _ ← record.rolloutId
  let key ← nonEmpty? record.rolloutKey
  let variation ← record.rolloutVariation
  some (key, variation)

def read? (w : Written) : Option Record := do
  let parts ← w.parts? ["featureKey", "user", "rolloutId", "rolloutKey", "rolloutVariationId",
    "experimentId", "experimentKey", "experimentVariationId"]
  some {
    featureKey := ← parts.required? "featureKey" Written.string?
    user := ← parts.required? "user" Written.string?
    rolloutId := ← parts.optional? "rolloutId" Written.natural?
    rolloutKey := ← parts.optional? "rolloutKey" Written.string?
    rolloutVariation := ← parts.optional? "rolloutVariationId" Written.natural?
    experimentId := ← parts.optional? "experimentId" Written.natural?
    experimentKey := ← parts.optional? "experimentKey" Written.string?
    experimentVariation := ← parts.optional? "experimentVariationId" Written.natural? }

/-- Reads a record document. -/
def ofText? (text : String) : Option Record := (Written.ofText? text).bind read?

/-- The document of a record; what is not kept is left out. -/
def document (record : Record) : Json :=
  let id (name : String) (value : Option UInt64) : List (String × Json) :=
    value.toList.map fun n => (name, .number (.natural n))
  let key (name : String) (value : Option String) : List (String × Json) :=
    value.toList.map fun s => (name, .string s)
  .object ([("featureKey", .string record.featureKey), ("user", .string record.user)] ++
    id "rolloutId" record.rolloutId ++ key "rolloutKey" record.rolloutKey ++
    id "rolloutVariationId" record.rolloutVariation ++
    id "experimentId" record.experimentId ++ key "experimentKey" record.experimentKey ++
    id "experimentVariationId" record.experimentVariation)

/-- The text of a record's document. -/
def text (record : Record) : String := record.document.text

end Record

/-- Records by feature and user, at most one for each. -/
structure Store where
  records : List Record := []

namespace Store

def get? (store : Store) (featureKey user : String) : Option Record :=
  store.records.find? fun r => r.featureKey = featureKey ∧ r.user = user

/-- Keeps a record in place of the one for the same feature and user. -/
def insert (store : Store) (record : Record) : Store :=
  ⟨store.records.filter (fun r => ¬(r.featureKey = record.featureKey ∧ r.user = record.user)) ++ [record]⟩

def size (store : Store) : Nat := store.records.length

end Store

end FeatureFlags
