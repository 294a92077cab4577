import FeatureFlags.Proofs.Exclusivity
import FeatureFlags.Proofs.Likeness

namespace FeatureFlags

open Inquiry

variable {ω : Type}

/-- No condition of a campaign takes more than the campaign requires. -/
theorem Campaign.of_requiresGateway_eq_false {c : Campaign ω} (plain : c.requiresGateway = false) :
    c.entryNeedsGateway = false ∧
      ∀ v ∈ c.variations, ∀ t ∈ v.segment, t.requiresGateway = false := by
  rw [requiresGateway, List.any_append, Bool.or_eq_false_iff] at plain
  obtain ⟨own, others⟩ := plain
  have each : ∀ v ∈ c.variations, ∀ t ∈ v.segment, t.requiresGateway = false := by
    intro v member t found
    have inside : t ∈ c.variations.filterMap (·.segment) :=
      List.mem_filterMap.mpr ⟨v, member, found⟩
    simpa using List.any_eq_false.mp others t inside
  refine ⟨?_, each⟩
  have entry : ∀ t ∈ c.entrySegment?, t.requiresGateway = false := by
    intro t found
    unfold entrySegment? at found
    split at found
    · have inside : t ∈ c.segment.toList := Option.mem_toList.mpr found
      simpa using List.any_eq_false.mp own t inside
    all_goals
      obtain ⟨v, first, found⟩ := Option.bind_eq_some_iff.mp found
      exact each v (List.mem_of_head? first) t found
  unfold entryNeedsGateway
  cases found : c.entrySegment? with
  | none => rfl
  | some t => exact entry t found

/-- Whether it takes gateway data to hold the contest of a campaign's group. -/
def Settings.contestNeedsGateway (settings : Settings ω) (c : Campaign ω) : Bool :=
  ((settings.groupOf? c).bind settings.group?).any fun group =>
    (settings.contested group).any (·.entryNeedsGateway)

/-- What the settings say about a feature whose decision does not take gateway data: neither what
it links requires them, nor a contest that it may hold. -/
structure Settings.Unsighted (settings : Settings ω) (f : Feature ω) : Prop where
  linked : ∀ c ∈ f.linked, c.requiresGateway = false
  contests : ∀ c ∈ f.linked, settings.contestNeedsGateway c = false

section Blind

variable [Quantity ω] {settings : Settings ω} {f : Feature ω}

/-- Scopes that differ in gateway data only decide alike where these are not needed. -/
theorem Settings.Unsighted.decideAlike {first second : Scope ω}
    (unsighted : second.settings.Unsighted f) (alike : first.Alike second)
    (entering : first.user.customVariables = second.user.customVariables)
    (forcing : first.user.targetingVariables = second.user.targetingVariables) :
    first.DecideAlike second f where
  toAlike := alike
  forced c linked := by
    obtain ⟨-, targeted⟩ := Campaign.of_requiresGateway_eq_false (unsighted.linked c linked)
    refine Rules.forced?_alike alike (alike.forcingAttributes_eq forcing c) ?_
    intro v member t found required
    exact absurd ((targeted v member t found).symm.trans required) Bool.false_ne_true
  enter c linked := by
    obtain ⟨entry, -⟩ := Campaign.of_requiresGateway_eq_false (unsighted.linked c linked)
    exact alike.enter entering fun needs =>
      absurd (entry.symm.trans needs) Bool.false_ne_true
  contests c linked id grouped group found d inside := by
    have plain := unsighted.contests c linked
    rw [Settings.contestNeedsGateway, grouped, Option.bind_some, found, Option.any_some,
      List.any_eq_false] at plain
    exact alike.enter entering fun needs => absurd needs (plain d inside)

theorem Settings.Processed.unsighted (processed : settings.Processed)
    (member : f ∈ settings.features) (free : f.requiresGateway = false)
    (contests : ∀ c ∈ f.linked, settings.contestNeedsGateway c = false) :
    settings.Unsighted f where
  linked c inside := by
    rw [processed.requiresGateway_eq member, List.any_eq_false] at free
    simpa using free c inside
  contests := contests

theorem Evaluation.resume_blind {featureKey : String}
    (found : settings.feature? featureKey = some f) (unsighted : settings.Unsighted f)
    (free : f.requiresGateway = false) (user : User) (data : Option GatewayData)
    (settled : Kept ω) :
    resume settings featureKey { user with gateway := data } settled =
      resume settings featureKey { user with gateway := none } settled := by
  have unfetched (u : User) : fetched settings u f = pure none := by
    rw [fetched, free]
    rfl
  refine resume_alike (by rfl) (fun g same => ?_) settled
  obtain rfl := Option.some.inj (found.symm.trans same)
  refine ⟨(unfetched _).trans (unfetched _).symm, fun told => ?_⟩
  exact unsighted.decideAlike ⟨rfl, rfl, rfl, rfl⟩ rfl rfl

end Blind

/-- A feature for which no gateway data are fetched decides, asks and reports the same with such
data as without, as long as they are not needed in the contests of its groups. -/
theorem gateway_data_do_not_count [Quantity ω] {σ : Type} (services : Services σ)
    {settings : Settings ω} (processed : settings.Processed) {featureKey : String} {f : Feature ω}
    (found : settings.feature? featureKey = some f) (free : f.requiresGateway = false)
    (contests : ∀ c ∈ f.linked, settings.contestNeedsGateway c = false) (user : User)
    (data : GatewayData) (journal : Journal σ) :
    (Evaluation.evaluate settings featureKey { user with gateway := some data }).run services
        journal =
      (Evaluation.evaluate settings featureKey { user with gateway := none }).run services
        journal := by
  have member : f ∈ settings.features := List.mem_of_find?_eq_some found
  have unsighted := processed.unsighted member free contests
  have decides : Evaluation.decide settings featureKey { user with gateway := some data } =
      Evaluation.decide settings featureKey { user with gateway := none } := by
    rw [Evaluation.decide_eq, Evaluation.decide_eq]
    exact congrArg (recordOf featureKey user.id >>= ·) (funext fun record =>
      Evaluation.resume_blind found unsighted free user (some data) _)
  unfold Evaluation.evaluate Evaluation.tryEvaluate
  rw [decides]
  rfl

/-- A search is personal for all users, and offers are tried out with users of a plan; who tries
them out does not get the search. -/
def offers : Settings Binary64 where
  features := [
    { id := 1, key := "search", name := none, rules := [⟨20, none, none, none⟩], values := [] },
    { id := 2, key := "offers", name := none, rules := [⟨30, none, none, none⟩], values := [] }]
  campaigns := [
    trial 20 "search_personal" .personalize .null,
    trial 30 "offers_ab" .ab
      (.object [("custom_variable", .object [("plan", .string "wildcard(pro*)")])])]
  groups := [(5, ⟨none, ["30", "20_1"], some 2, ["30"], []⟩)]
  campaignGroups := [("30", 5), ("20_1", 5)]
  account := 1
  sdkKey := none
  version := none

def offerSettings : Settings Binary64 := offers.process.toOption.getD .empty

def offerUser : User := { id := "ann", customVariables := [("plan", .string "pro 3")] }

/-- The country of a user. -/
def countryData : GatewayData := { location := [("country", "US")] }

/-- The offers win the contest wherever the user is. -/
theorem offers_do_not_see_country : ∃ f,
    offerSettings.feature? "offers" = some f ∧ f.requiresGateway = false ∧
      (∀ c ∈ f.linked, offerSettings.contestNeedsGateway c = false) ∧
      ((Evaluation.evaluate offerSettings "offers" offerUser).run Services.none
        ⟨(), [], []⟩).1.experiment = some ⟨30, "offers_ab", 1, "on", false⟩ ∧
      (Evaluation.evaluate offerSettings "offers"
          { offerUser with gateway := some countryData }).run Services.none ⟨(), [], []⟩ =
        (Evaluation.evaluate offerSettings "offers"
          { offerUser with gateway := none }).run Services.none ⟨(), [], []⟩ := by
  have present : (offerSettings.feature? "offers").isSome := by decide +kernel
  obtain ⟨f, found⟩ := Option.isSome_iff_exists.mp present
  have free : ∀ g ∈ offerSettings.feature? "offers", g.requiresGateway = false ∧
      ∀ c ∈ g.linked, offerSettings.contestNeedsGateway c = false := by
    decide +kernel
  obtain ⟨unfetched, contests⟩ := free f found
  have processed : offerSettings.Processed := Settings.processed_getD (by decide +kernel)
  exact ⟨f, found, unfetched, contests, by decide +kernel,
    gateway_data_do_not_count Services.none processed found unfetched contests offerUser
      countryData _⟩

/-- No gateway data are fetched for the search, and yet with such data it loses the contest that it
wins without. -/
theorem search_sees_country : trialSettings.Processed ∧
    (trialSettings.feature? "search").map (·.requiresGateway) = some false ∧
    trialUser.gateway.isNone ∧
    ((Evaluation.evaluate trialSettings "search" trialUser).run
      (Services.fixed (fun _ _ => .ok none) (fun _ => .ok none) trialGateway)
      ⟨(), [], []⟩).1.experiment = some ⟨20, "search_personal", 1, "on", false⟩ ∧
    ((Evaluation.evaluate trialSettings "search"
        { trialUser with gateway := some countryData }).run
      (Services.fixed (fun _ _ => .ok none) (fun _ => .ok none) trialGateway)
      ⟨(), [], []⟩).1.enabled = false :=
  ⟨trialSettings_processed, by decide +kernel, rfl, by decide +kernel, by decide +kernel⟩

end FeatureFlags
