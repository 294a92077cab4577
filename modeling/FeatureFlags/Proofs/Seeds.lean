import FeatureFlags.Proofs.Exclusivity
import FeatureFlags.Proofs.Identities

namespace FeatureFlags

open Text

/-- An id is told from what stands behind an underscore. -/
theorem idText_underscore_inj {id id' : UInt64} {rest rest' : String} :
    idText id ++ "_" ++ rest = idText id' ++ "_" ++ rest' ↔ id = id' ∧ rest = rest' := by
  rw [String.append_assoc, String.append_assoc,
    idText_append_inj (noLeadingDigit_underscore rest) (noLeadingDigit_underscore rest'),
    String.append_right_inj]

/-- No text is what stands behind an id and an underscore in it. -/
theorem ne_idText_underscore (id : UInt64) (text : String) : text ≠ idText id ++ "_" ++ text := by
  intro same
  have lengths := congrArg String.length same
  rw [String.length_append, String.length_append] at lengths
  have one : "_".length = 1 := rfl
  omega

theorem nonEmpty?_eq_none_iff {text : Option String} : nonEmpty? text = none ↔ ∀ s ∈ text, s = "" := by
  cases text with
  | none => simp [nonEmpty?]
  | some s => simp [nonEmpty?]

variable {ω : Type}

namespace Campaign

/-- The salts that might stand for the campaign in its seeds, its own and that of its first
variation, are not there or empty. -/
structure Unsalted (c : Campaign ω) : Prop where
  own : ∀ salt ∈ c.salt, salt = ""
  first : ∀ v ∈ c.variations.head?, ∀ salt ∈ v.salt, salt = ""

/-- Within a group, a seed tells the group and the user. -/
theorem entrySeed_group_inj {c d : Campaign ω} {group group' : UInt64} {user user' : String} :
    c.entrySeed user (some group) = d.entrySeed user' (some group') ↔
      group = group' ∧ user = user' :=
  idText_underscore_inj

namespace Unsalted

variable {c d : Campaign ω} {user user' : String}

theorem entrySalt?_eq_none (unsalted : c.Unsalted) : c.entrySalt? = none := by
  unfold entrySalt?
  cases c.kind with
  | ab => exact nonEmpty?_eq_none_iff.mpr unsalted.own
  | rollout | personalize =>
    refine nonEmpty?_eq_none_iff.mpr fun salt inside => ?_
    obtain ⟨v, leads, own⟩ := Option.mem_bind_iff.mp inside
    exact unsalted.first v leads salt own

theorem entrySeed_eq (unsalted : c.Unsalted) (user : String) :
    c.entrySeed user none = idText c.id ++ "_" ++ user := by
  rw [entrySeed, unsalted.entrySalt?_eq_none, Option.getD_none]

theorem variationSeed_eq (unsalted : c.Unsalted) (account : UInt64) (user : String) :
    c.variationSeed account user = idText c.id ++ "_" ++ (idText account ++ "_" ++ user) := by
  rw [variationSeed, nonEmpty?_eq_none_iff.mpr unsalted.own, Option.getD_none]
  simp only [String.append_assoc]

theorem entrySeed_inj (unsalted : c.Unsalted) (unsalted' : d.Unsalted) :
    c.entrySeed user none = d.entrySeed user' none ↔ c.id = d.id ∧ user = user' := by
  rw [unsalted.entrySeed_eq, unsalted'.entrySeed_eq, idText_underscore_inj]

theorem variationSeed_inj (unsalted : c.Unsalted) (unsalted' : d.Unsalted)
    {account account' : UInt64} :
    c.variationSeed account user = d.variationSeed account' user' ↔
      c.id = d.id ∧ account = account' ∧ user = user' := by
  rw [unsalted.variationSeed_eq, unsalted'.variationSeed_eq, idText_underscore_inj,
    idText_underscore_inj]

/-- Whatever id a user's seed for taking part begins with, the seed that picks a variation for the
same user has the account more. -/
theorem entrySeed_ne_variationSeed (unsalted : c.Unsalted) (group : Option UInt64)
    (account : UInt64) : c.entrySeed user group ≠ c.variationSeed account user := by
  obtain ⟨id, begins⟩ : ∃ id, c.entrySeed user group = idText id ++ "_" ++ user := by
    cases group with
    | none => exact ⟨c.id, unsalted.entrySeed_eq user⟩
    | some id => exact ⟨id, rfl⟩
  intro same
  rw [begins, unsalted.variationSeed_eq] at same
  exact ne_idText_underscore account user (idText_underscore_inj.mp same).2

end Unsalted

end Campaign

/-- Without salts, a seed for taking part tells the campaign's id and the user, within a group it
tells the group and the user, and a seed that picks a variation tells the campaign's id, the account
and the user, whatever underscores the names of users have. For one user, the seed for taking part
is never that which picks a variation. -/
theorem unsalted_seeds_tell_apart {c d : Campaign ω} (unsalted : c.Unsalted)
    (unsalted' : d.Unsalted) (user user' : String) :
    (c.entrySeed user none = d.entrySeed user' none ↔ c.id = d.id ∧ user = user') ∧
    (∀ group group' : UInt64, c.entrySeed user (some group) = d.entrySeed user' (some group') ↔
      group = group' ∧ user = user') ∧
    (∀ account account' : UInt64, c.variationSeed account user = d.variationSeed account' user' ↔
      c.id = d.id ∧ account = account' ∧ user = user') ∧
    ∀ (group : Option UInt64) (account : UInt64),
      c.entrySeed user group ≠ c.variationSeed account user :=
  ⟨unsalted.entrySeed_inj unsalted', fun _ _ => Campaign.entrySeed_group_inj,
    fun _ _ => unsalted.variationSeed_inj unsalted', unsalted.entrySeed_ne_variationSeed⟩

/-- A cart for some, with empty salts. -/
def saltlessCart : Campaign Binary64 :=
  { trial 1 "cart_personal" .personalize .null with
    salt := some ""
    variations := [⟨1, "on", none, .ofNat 100, .null, [], some "", none, none⟩] }

/-- A search that is tried out, without salts. -/
def saltlessSearch : Campaign Binary64 := trial 12 "search_ab" .ab .null

/-- The seeds of the cart and the search differ also where they only differ in an underscore. -/
theorem cart_and_search_told_apart : saltlessCart.Unsalted ∧ saltlessSearch.Unsalted ∧
    saltlessCart.entrySeed "2_3" none ≠ saltlessSearch.entrySeed "3" none ∧
    saltlessCart.entrySeed "2_3" (some 1) ≠ saltlessSearch.entrySeed "3" (some 12) ∧
    saltlessCart.variationSeed 2 "2_3" ≠ saltlessSearch.variationSeed 2 "3" ∧
    saltlessCart.entrySeed "2_3" none ≠ saltlessCart.variationSeed 2 "2_3" := by
  have cart : saltlessCart.Unsalted := ⟨by decide, by decide⟩
  have search : saltlessSearch.Unsalted := ⟨by decide, by decide⟩
  obtain ⟨entries, groups, variations, apart⟩ := unsalted_seeds_tell_apart cart search "2_3" "3"
  refine ⟨cart, search, fun same => ?_, fun same => ?_, fun same => ?_, apart none 2⟩
  · exact absurd (entries.mp same).1 (by decide)
  · exact absurd ((groups 1 12).mp same).1 (by decide)
  · exact absurd ((variations 2 2).mp same).1 (by decide)

/-- Seeds of different users for different purposes can agree. -/
example : saltlessCart.entrySeed "2_3" none = saltlessCart.variationSeed 2 "3" := by decide

end FeatureFlags
