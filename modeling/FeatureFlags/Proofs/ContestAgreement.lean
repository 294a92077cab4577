import FeatureFlags.Proofs.Exclusivity
import FeatureFlags.Proofs.SessionMemo

namespace FeatureFlags

open Inquiry

variable {ω : Type} [Quantity ω]

/-- A feature learns of the champion of a group that it links. -/
theorem Scope.verdict_of_wins {scope : Scope ω} {replies : Replies} {f : Feature ω}
    {c : Campaign ω} {id : UInt64} (wins : scope.Wins replies c) (linked : c ∈ f.linked)
    (grouped : scope.settings.groupOf? c = some id) : scope.verdict replies f id = .of c := by
  obtain ⟨champion, won, same⟩ := wins id grouped
  have links : Contest.links f champion.identity = true := by
    rw [GroupWinner.identity_eq_of_eq same]
    exact List.any_eq_true.mpr ⟨c, linked, decide_eq_true rfl⟩
  rw [verdict, won, Option.filter_some, if_pos links]
  exact same

/-- A contest that is held on its own gives what the asking feature learns of the champion. -/
theorem Evaluation.answer_groupWinner? {settings : Settings ω}
    (distinct : (settings.features.map (·.key)).Nodup) {f : Feature ω}
    (member : f ∈ settings.features) (user : User) (replies : Replies) (id : UInt64) :
    ∃ winner : Option (Campaign ω),
      (groupWinner? settings id f.key user).answer replies = winner.map (·.id) ∧
      winner.elim .nobody .of = Scope.verdict ⟨settings, user, none⟩ replies f id := by
  let scope : Scope ω := ⟨settings, user, none⟩
  have fair := (Session.sound_empty scope replies).fair rfl f
  have contest : Leads replies (·.Fair scope replies f)
      (Contest.winner? scope (Rules.rolloutPassed scope) id f) _ :=
    Contest.winner?_leads (Rules.rolloutPassed_fair replies f distinct) id f
  obtain ⟨learns, -⟩ := contest {} fair
  refine ⟨_, ?_, learns⟩
  rw [groupWinner?, Settings.feature?_of_mem distinct member]
  exact answer_bind _ _ _

/-- Where nothing is kept, the contest that is held on its own gives the campaign that evaluation
grants, if the variation is not forced. -/
theorem contest_agrees_with_evaluation (list : ListQuery → Except ServiceError (Option String))
    (gateway : GatewayQuery → Except ServiceError (Option String)) {settings : Settings ω}
    (processed : settings.Processed) (distinct : (settings.features.map (·.key)).Nodup)
    (rollouts : settings.RolloutsUngrouped) {user : User} (own : user.gateway.isSome)
    {f : Feature ω} (member : f ∈ settings.features) {journal journal' : Journal Unit}
    {grant : Grant} (granted : ((Evaluation.evaluate settings f.key user).run
      (Services.fixed (fun _ _ => .ok none) list gateway) journal).1.experiment = some grant)
    (unforced : grant.forced = false) {c : Campaign ω} (linked : c ∈ f.linked)
    (names : grant.Names c) {id : UInt64} (grouped : settings.groupOf? c = some id) :
    ((Evaluation.groupWinner? settings id f.key user).run
      (Services.fixed (fun _ _ => .ok none) list gateway) journal').1 = some c.id := by
  rw [run_fixed] at granted ⊢
  have backs := Evaluation.backs_of_granted member distinct rollouts (fun _ => rfl) granted
  rw [Evaluation.fetched_of_own settings own, answer_pure] at backs
  have grounds := backs.grounds_of_unforced unforced
  have wins := grounds.wins processed member member linked names
  obtain ⟨winner, given, learns⟩ := Evaluation.answer_groupWinner? distinct member user
    (Replies.ofFixed (fun _ _ => .ok none) list gateway) id
  rw [Scope.verdict_of_wins wins linked grouped] at learns
  rw [given]
  cases winner with
  | none => exact absurd learns.symm (GroupWinner.of_ne_nobody c)
  | some champion => exact congrArg some (GroupWinner.of_eq_iff.mp learns).1

/-- A cart is rolled out, and then tried in two groups: in the first, a search that forces its
variations on some goes before it, and in the second, offers for users of another country do. -/
def shops : Settings Binary64 where
  features := [
    { id := 1, key := "cart", name := none, values := [],
      rules := [⟨30, some 1, none, none⟩, ⟨10, none, none, none⟩, ⟨20, none, none, none⟩] },
    { id := 2, key := "search", name := none, rules := [⟨40, none, none, none⟩], values := [] },
    { id := 3, key := "offers", name := none, rules := [⟨50, none, none, none⟩], values := [] }]
  campaigns := [
    trial 30 "cart_rollout" .rollout .null,
    trial 10 "cart_ab" .ab .null,
    trial 20 "cart_personal" .personalize .null,
    { trial 40 "search_ab" .ab .null with forcesVariations := true },
    trial 50 "offers_ab" .ab (.object [("and", .array [.object [("country", .string "FR")]])])]
  groups := [(5, ⟨none, ["10", "40"], some 2, ["40"], []⟩),
    (6, ⟨none, ["50", "20_1"], some 2, ["50"], []⟩)]
  campaignGroups := [("10", 5), ("40", 5), ("20_1", 6), ("50", 6)]
  account := 1
  sdkKey := none
  version := none

def shopSettings : Settings Binary64 := shops.process.toOption.getD .empty

/-- A user who brings the country along. -/
def shopUser : User :=
  { id := "ann", ipAddress := some "10.0.0.1", gateway := some { location := [("country", "US")] } }

/-- The cart loses the first group and wins the second, and so it does where the second contest is
held on its own. -/
theorem cart_wins_second_contest : shopSettings.Processed ∧
    (shopSettings.features.map (·.key)).Nodup ∧ shopSettings.RolloutsUngrouped ∧
    shopUser.gateway.isSome ∧ ∃ f ∈ shopSettings.features, ∃ c ∈ f.linked, ∃ grant : Grant,
      f.key = "cart" ∧ c.id = 20 ∧ shopSettings.groupOf? c = some 6 ∧ grant.Names c ∧
      grant.forced = false ∧
      ((Evaluation.evaluate shopSettings "cart" shopUser).run
        (Services.fixed (fun _ _ => .ok none) (fun _ => .ok none) fun _ => .ok none)
        ⟨(), [], []⟩).1.experiment = some grant ∧
      ((Evaluation.groupWinner? shopSettings 6 "cart" shopUser).run
        (Services.fixed (fun _ _ => .ok none) (fun _ => .ok none) fun _ => .ok none)
        ⟨(), [], []⟩).1 = some 20 := by
  have processed : shopSettings.Processed := Settings.processed_getD (by decide +kernel)
  have distinct : (shopSettings.features.map (·.key)).Nodup := by decide +kernel
  have rollouts : shopSettings.RolloutsUngrouped := by
    unfold Settings.RolloutsUngrouped
    decide +kernel
  obtain ⟨f, member, c, linked, isCart, isPersonal, grouped, names, granted⟩ :
      ∃ f ∈ shopSettings.features, ∃ c ∈ f.linked, f.key = "cart" ∧ c.id = 20 ∧
        shopSettings.groupOf? c = some 6 ∧ Grant.Names ⟨20, "cart_personal", 1, "on", false⟩ c ∧
        ((Evaluation.evaluate shopSettings "cart" shopUser).run
          (Services.fixed (fun _ _ => .ok none) (fun _ => .ok none) fun _ => .ok none)
          ⟨(), [], []⟩).1.experiment = some ⟨20, "cart_personal", 1, "on", false⟩ := by
    decide +kernel
  refine ⟨processed, distinct, rollouts, rfl, f, member, c, linked, _, isCart, isPersonal, grouped,
    names, rfl, granted, ?_⟩
  rw [← isCart] at granted ⊢
  rw [contest_agrees_with_evaluation _ _ processed distinct rollouts rfl member granted rfl linked
    names grouped, isPersonal]

end FeatureFlags
