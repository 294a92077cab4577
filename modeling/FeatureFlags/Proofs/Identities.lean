import FeatureFlags.Proofs.Digits
import FeatureFlags.Proofs.SessionMemo

namespace FeatureFlags

namespace Text

/-- A text that does not go on with an id that stands before it. -/
def NoLeadingDigit (text : String) : Prop := ∀ c ∈ text.toList.head?, isDigit c = false

theorem noLeadingDigit_empty : NoLeadingDigit "" := nofun

theorem noLeadingDigit_underscore (text : String) : NoLeadingDigit ("_" ++ text) := by
  intro c first
  rw [String.toList_append] at first
  obtain rfl : '_' = c := Option.some.inj first
  rfl

end Text

open Text

theorem toList_idText (id : UInt64) : (idText id).toList = Nat.toDigits 10 id.toNat :=
  Nat.toList_repr

/-- An id at the front of a text is told from what stands behind it. -/
theorem idText_append_inj {id id' : UInt64} {rest rest' : String} (apart : NoLeadingDigit rest)
    (apart' : NoLeadingDigit rest') :
    idText id ++ rest = idText id' ++ rest' ↔ id = id' ∧ rest = rest' := by
  rw [← String.toList_inj, String.toList_append, String.toList_append, toList_idText, toList_idText,
    toDigits_append_inj apart apart', UInt64.toNat_inj, String.toList_inj]

theorem idText_inj {id id' : UInt64} : idText id = idText id' ↔ id = id' := by
  have alone : idText id ++ "" = idText id' ++ "" ↔ _ :=
    idText_append_inj noLeadingDigit_empty noLeadingDigit_empty
  simpa using alone

variable {ω : Type}

namespace Campaign

/-- What stands behind the id in the identity of a campaign. -/
def identityTail (c : Campaign ω) : String := c.pinned?.elim "" fun v => "_" ++ idText v

theorem identity_eq (c : Campaign ω) : c.identity = idText c.id ++ c.identityTail := by
  refine (c.match_pinned (idText c.id) fun v => idText c.id ++ "_" ++ idText v).trans ?_
  rw [identityTail]
  cases c.pinned? with
  | none => exact String.append_empty.symm
  | some v => exact String.append_assoc

theorem noLeadingDigit_identityTail (c : Campaign ω) : NoLeadingDigit c.identityTail := by
  unfold identityTail
  cases c.pinned? with
  | none => exact noLeadingDigit_empty
  | some v => exact noLeadingDigit_underscore _

theorem identityTail_inj {c d : Campaign ω} :
    c.identityTail = d.identityTail ↔ c.pinned? = d.pinned? := by
  unfold identityTail
  cases c.pinned? <;> cases d.pinned? <;> simp [idText_inj]

/-- Two campaigns have the same identity exactly if their ids agree, and the variations that they
are about as personalize campaigns. -/
theorem identity_eq_iff {c d : Campaign ω} :
    c.identity = d.identity ↔ c.id = d.id ∧ c.pinned? = d.pinned? := by
  rw [identity_eq, identity_eq,
    idText_append_inj c.noLeadingDigit_identityTail d.noLeadingDigit_identityTail,
    identityTail_inj]

end Campaign

namespace GroupWinner

theorem admits_of_iff {c d : Campaign ω} : (of c).admits d = true ↔ d.identity = c.identity := by
  rw [admits_iff, of_eq_iff, ← Campaign.identity_eq_iff, eq_comm]

theorem admits_nobody (c : Campaign ω) : nobody.admits c = false :=
  decide_eq_false (of_ne_nobody c).symm

theorem admits_of (c : Campaign ω) :
    (of c).admits = fun d : Campaign ω => decide (d.identity = c.identity) := by
  funext d
  rw [Bool.eq_iff_iff, admits_of_iff, decide_eq_true_iff]

end GroupWinner

namespace Contest

/-- A feature links the identity of a winner exactly if it links a campaign that the winner
admits. -/
theorem links_eq_any_admits (f : Feature ω) (c : Campaign ω) :
    links f c.identity = f.linked.any (GroupWinner.of c).admits := by
  rw [GroupWinner.admits_of, links]

/-- A feature is told of a winner only if it links the winner's identity. Of the campaigns that it
links, what is remembered then admits those of that identity, as the winner itself does. -/
theorem filter_admits_attributed (f : Feature ω) (won : Option (Campaign ω)) :
    f.linked.filter ((won.filter fun c => links f c.identity).elim .nobody GroupWinner.of).admits =
      f.linked.filter fun e => won.any fun c => e.identity = c.identity := by
  have nobodyAdmitted : f.linked.filter GroupWinner.nobody.admits = [] :=
    List.filter_eq_nil_iff.mpr fun e _ => Bool.eq_false_iff.mp (GroupWinner.admits_nobody e)
  cases won with
  | none => simpa using nobodyAdmitted
  | some c =>
    simp only [Option.filter_some, Option.any_some]
    split
    · rw [Option.elim_some, GroupWinner.admits_of]
    · rename_i unlinked
      rw [Option.elim_none, nobodyAdmitted, eq_comm, List.filter_eq_nil_iff]
      exact fun e inside same => unlinked (List.any_eq_true.mpr ⟨e, inside, same⟩)

variable [Quantity ω] {s : Type}

/-- The winner of a group, whichever feature asks. -/
def overall? (scope : Scope ω) (gate : Feature ω → StateT s Inquiry Bool) (id : UInt64) :
    StateT s Inquiry (Option (Campaign ω)) := do
  match scope.settings.group? id with
  | none =>
    Inquiry.report (.groupMissing id)
    return none
  | some group =>
    let found ← candidates gate group.members [] (features scope.settings.features [] group.members)
    let (stored, eligible) ← sorted scope found
    match poolWinner id group scope.user.id (if stored.isEmpty then eligible else stored) with
    | none =>
      Inquiry.report (.groupLost scope.user.id id)
      return none
    | some c =>
      Inquiry.report (.groupWon scope.user.id id group c)
      return some c

/-- A feature is told of the winner of a group if it links a campaign of the winner's identity. -/
theorem winner?_eq_overall (scope : Scope ω) (gate : Feature ω → StateT s Inquiry Bool)
    (id : UInt64) (f : Feature ω) :
    winner? scope gate id f = (do
      let won ← overall? scope gate id
      return won.filter fun c => links f c.identity) := by
  unfold winner? overall?
  cases scope.settings.group? id with
  | none => simp
  | some group =>
    dsimp only
    rw [bind_assoc]
    refine bind_congr fun found => ?_
    rw [bind_assoc]
    refine bind_congr fun parts => ?_
    cases poolWinner id group scope.user.id (if parts.1.isEmpty then parts.2 else parts.1) with
    | none => simp
    | some c => simp [Option.filter_some]

end Contest

/-- Campaigns have the same identity exactly if they are the same winner, which is to say that the
one as a winner admits the other. So a feature is told of the winner of a group, for which
identities are compared, exactly if the winner admits a campaign that the feature links; and of the
campaigns that it links, what is remembered then admits just those of the winner's identity. -/
theorem identity_and_winner_agree [Quantity ω] :
    (∀ c d : Campaign ω,
      (c.identity = d.identity ↔ GroupWinner.of c = .of d) ∧
      (c.identity = d.identity ↔ (GroupWinner.of c).admits d = true)) ∧
    ∀ (s : Type) (scope : Scope ω) (gate : Feature ω → StateT s Inquiry Bool) (id : UInt64)
      (f : Feature ω),
      Contest.winner? scope gate id f = (do
        let won ← Contest.overall? scope gate id
        return won.filter fun c => f.linked.any (GroupWinner.of c).admits) ∧
      (do
        let told ← Contest.winner? scope gate id f
        return f.linked.filter (told.elim GroupWinner.nobody .of).admits :
        StateT s Inquiry (List (Campaign ω))) = (do
        let won ← Contest.overall? scope gate id
        return f.linked.filter fun e => won.any fun c => e.identity = c.identity) := by
  refine ⟨fun c d => ⟨?_, ?_⟩, fun s scope gate id f => ⟨?_, ?_⟩⟩
  · rw [Campaign.identity_eq_iff, GroupWinner.of_eq_iff]
  · rw [GroupWinner.admits_of_iff, eq_comm]
  · simp only [Contest.winner?_eq_overall, Contest.links_eq_any_admits]
  · rw [Contest.winner?_eq_overall, bind_assoc]
    refine bind_congr fun won => ?_
    rw [pure_bind, Contest.filter_admits_attributed]

end FeatureFlags
