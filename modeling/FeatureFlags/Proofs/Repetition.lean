import FeatureFlags.Proofs.Indifference

namespace FeatureFlags

open Inquiry

variable {ω : Type}

/-- Campaigns have keys of their own, and their variations ids of their own, rollouts are in no
group, and no condition asks for kept decisions. -/
structure Settings.Repeatable [Quantity ω] (settings : Settings ω) : Prop where
  processed : settings.Processed
  keys : (settings.campaigns.map (·.key)).Nodup
  named : ∀ c ∈ settings.campaigns, c.key ≠ ""
  variations : ∀ c ∈ settings.campaigns, (c.variations.map (·.id)).Nodup
  ungrouped : ∀ c ∈ settings.campaigns, c.kind = .rollout → settings.groupOf? c = none
  free : settings.ToggleFree

namespace Settings.Repeatable

variable [Quantity ω] {settings : Settings ω} (repeatable : settings.Repeatable) {f : Feature ω}
variable {c : Campaign ω} (member : f ∈ settings.features) (linked : c ∈ f.linked)
include repeatable member linked

/-- What a grant names is found again, as the variation that was granted. -/
theorem variationByKey? {v : Variation ω} (inside : v ∈ c.variations) :
    c.key ≠ "" ∧ ∃ source : Campaign ω, settings.variationByKey? c.key v.id = some (source, v) ∧
      source.id = c.id ∧ source.key = c.key := by
  obtain ⟨source, among, rule, rfl⟩ := repeatable.processed.source member linked
  refine ⟨repeatable.named source among, source, ?_, rfl, rfl⟩
  have found : settings.campaigns.find? (fun d => d.key = (source.narrowed rule).key) = some source :=
    find?_of_nodup_map repeatable.keys among
  have own : source.variation? v.id = some v :=
    find?_of_nodup_map (repeatable.variations source among)
      (Campaign.narrowed_variations_subset inside)
  rw [Settings.variationByKey?, found]
  change (source.variation? v.id).bind _ = _
  rw [own]
  rfl

theorem groupOf?_of_rollout (kind : c.kind = .rollout) : settings.groupOf? c = none := by
  obtain ⟨source, among, rule, rfl⟩ := repeatable.processed.source member linked
  have plain : source.kind = .rollout := kind
  have same : GroupWinner.of (source.narrowed rule) = GroupWinner.of source := by
    simp [GroupWinner.of, kind, plain]
    rfl
  rw [settings.groupOf?_of_eq same, repeatable.ungrouped source among plain]

end Settings.Repeatable

/-- Keeping a record twice is keeping it once. -/
theorem Store.insert_insert (store : Store) (record : Record) :
    (store.insert record).insert record = store.insert record := by
  simp [insert, List.filter_append, List.filter_filter]

/-- What a user gets by a decision: whether the feature is enabled, the campaign and the variation
that count, and the values. -/
def Decision.given (decision : Decision) : Bool × Option (UInt64 × UInt64) × List Variable :=
  (decision.enabled, decision.grant?.map fun grant => (grant.campaign, grant.variation),
    decision.values)

theorem Record.keptExperiment_of_bare {decision : Decision} (bare : decision.experiment = none)
    (user : String) : keptExperiment (some (decision.record user)) = keptExperiment none := by
  simp [keptExperiment, Decision.record, bare]

theorem Replies.keepAlike_insert {list : ListQuery → Except ServiceError (Option String)}
    {gateway : GatewayQuery → Except ServiceError (Option String)} {store : Store}
    {decision : Decision} {user : String} (bare : decision.experiment = none)
    (new : store.get? decision.featureKey user = none) :
    Replies.KeepAlike user (.ofStore store list gateway)
      (.ofStore (store.insert (decision.record user)) list gateway) where
  lists := Replies.ofStore_agree _ _
  experiments key := by
    change Record.keptExperiment (store.get? key user) =
      Record.keptExperiment ((store.insert (decision.record user)).get? key user)
    rw [Store.get?_insert]
    split
    · rename_i same
      obtain rfl : key = decision.featureKey := same.1
      rw [new, Record.keptExperiment_of_bare bare]
    · rfl

namespace Evaluation

/-- A kept rollout whose variation still exists lets the user in. -/
theorem keptBy_of_rollout {settings : Settings ω} {decision : Decision} {user : String}
    {grant : Grant} {c : Campaign ω} {v : Variation ω} (bare : decision.experiment = none)
    (entered : decision.rollout = some grant) (named : grant.campaignKey ≠ "")
    (available : settings.variationByKey? grant.campaignKey grant.variation = some (c, v)) :
    keptBy settings (some (decision.record user)) = .rollout c v := by
  simp [keptBy, kept, Decision.record, Record.rollout?, nonEmpty?, bare, entered, named, available]

variable [Quantity ω] {scope : Scope ω} {replies : Replies} {f : Feature ω}

theorem answer_byRules_of_admitted {begun : Decision}
    (admitted : f.rollouts = [] ∨ begun.enabled = true) (session : Session) :
    ((byRules scope f begun).run session).answer replies =
      ((grantExperiment scope f begun f.experiments).run session).answer replies := by
  have needless : (!f.rollouts.isEmpty && !begun.enabled) = false := by
    rcases admitted with none | enabled
    · simp [none]
    · simp [enabled]
  have inTurn : ((grantInTurn scope f begun).run session).answer replies =
      ((grantExperiment scope f begun f.experiments).run session).answer replies := by
    rw [grantInTurn, needless]
    rfl
  rw [byRules_eq]
  split
  · exact inTurn
  · exact inTurn

theorem answer_byRules_of_rollouts {begun : Decision} (needed : f.rollouts ≠ [])
    (disabled : begun.enabled = false) (session : Session) :
    let entered := ((grantRollout scope f begun).run session).answer replies
    ((byRules scope f begun).run session).answer replies =
      if entered.1.enabled then
        ((grantExperiment scope f entered.1 f.experiments).run entered.2).answer replies
      else entered := by
  have nonempty : f.rollouts.isEmpty = false := List.isEmpty_eq_false_iff.mpr needed
  intro entered
  rw [byRules_eq, if_neg (by simp [needed]), grantInTurn, nonempty, disabled]
  simp only [Bool.not_false, Bool.and_self, if_true, Bool.true_and]
  rw [StateT.run_bind, answer_bind]
  cases admitted : entered.1.enabled <;> rfl

section Rollouts

variable (ungrouped : ∀ c ∈ f.rollouts, scope.settings.groupOf? c = none)
include ungrouped

theorem answer_byRules_of_unadmitted (needed : f.rollouts ≠ []) {begun : Decision}
    (disabled : begun.enabled = false) (nobody : scope.admission? replies f = none)
    (session : Session) : (((byRules scope f begun).run session).answer replies).1 = begun := by
  have still := answer_grantRollout_of_unadmitted ungrouped nobody begun session
  rw [answer_byRules_of_rollouts needed disabled, still, disabled, if_neg Bool.false_ne_true, still]

/-- A rollout that lets the user in is granted, and experiments are granted from there. -/
theorem answer_byRules_of_admission {begun : Decision} (disabled : begun.enabled = false)
    {c : Campaign ω} {v : Variation ω} (admission : scope.admission? replies f = some (c, v))
    (session : Session) :
    ((byRules scope f begun).run session).answer replies =
      ((grantExperiment scope f (begun.withRollout c v) f.experiments).run
        (session.withRollout f.key ⟨c.id, c.key, some v.id⟩)).answer replies := by
  have needed : f.rollouts ≠ [] := List.ne_nil_of_mem (Scope.admission?_eq_some admission).1
  rw [answer_byRules_of_rollouts needed disabled,
    answer_grantRollout_of_admission ungrouped admission]
  rfl

/-- If rules enable a feature with rollouts, one of these has let the user in, and experiments are
granted from there. -/
theorem byRules_from_rollout (needed : f.rollouts ≠ []) {begun : Decision}
    (disabled : begun.enabled = false) {session : Session}
    (enabled : (((byRules scope f begun).run session).answer replies).1.enabled = true) :
    ∃ c ∈ f.rollouts, ∃ v ∈ c.variations,
      ((byRules scope f begun).run session).answer replies =
        ((grantExperiment scope f (begun.withRollout c v) f.experiments).run
          (session.withRollout f.key ⟨c.id, c.key, some v.id⟩)).answer replies := by
  cases admission : scope.admission? replies f with
  | none =>
    rw [answer_byRules_of_unadmitted ungrouped needed disabled admission, disabled] at enabled
    cases enabled
  | some entered =>
    obtain ⟨c, v⟩ := entered
    obtain ⟨among, given⟩ := Scope.admission?_eq_some admission
    exact ⟨c, among, v, Campaign.mem_of_allotted? given,
      answer_byRules_of_admission ungrouped disabled admission session⟩

end Rollouts

section Memory

variable {list : ListQuery → Except ServiceError (Option String)}
variable {gateway : GatewayQuery → Except ServiceError (Option String)} {store : Store}
variable {settings : Settings ω} {featureKey : String} {user : User} {before after last : Store}
variable {decision again : Decision}

/-- Where a computation always ends with something, it answers that when records are in memory. -/
theorem answer_of_ends {s α : Type} {gives : α → Prop} {x : StateT s Inquiry α}
    {post : α → s → Prop}
    (ends : Ends (Services.inMemory list gateway) (· = store) (fun _ => True) x post)
    (asks : Always Call.isQuestion gives x) (state : s) :
    post ((x.run state).answer (.ofStore store list gateway)).1
      ((x.run state).answer (.ofStore store list gateway)).2 := by
  let journal : Journal Store := ⟨store, [], []⟩
  have same : ((x.run state).run (Services.inMemory list gateway) journal).1 = _ :=
    (asks state).run_answer (Services.inMemory_stay store) (Services.inMemory_answer store) rfl
  rw [← same]
  exact (ends state journal rfl trivial).2

omit [Quantity ω] in
/-- The data that are fetched do not depend on what is kept. -/
theorem run_fetched (settings : Settings ω) (user : User) (f : Feature ω)
    (journal : Journal Store) :
    ((fetched settings user f).run (Services.inMemory list gateway) journal).1 =
      (fetched settings user f).answer (.ofStore ⟨[]⟩ list gateway) := by
  unfold fetched fetchGateway
  split
  · split <;> rfl
  · rfl

/-- With records in memory, the rules of a feature decide it unless an experiment is kept. -/
theorem Effect.ruled
    (effect : Effect (Services.inMemory list gateway) id settings featureKey user before decision
      after) (accepted : refusal? featureKey user = none)
    (unsettled : ∀ c v, keptBy settings (before.get? featureKey user.id) ≠ .experiment c v)
    (found : settings.feature? featureKey = some f) :
    let scope : Scope ω :=
      ⟨settings, user, (fetched settings user f).answer (.ofStore ⟨[]⟩ list gateway)⟩
    let begun := start featureKey (keptBy settings (before.get? featureKey user.id))
    let ruled := (((byRules scope f begun.1).run begun.2).answer (.ofStore before list gateway)).1
    decision = (if ruled.enabled then ruled else { featureKey := featureKey }) ∧
      after = if ruled.enabled then before.insert (ruled.record user.id) else before := by
  intro scope begun ruled
  cases effect with
  | refused refused => rw [accepted] at refused; cases refused
  | kept _ settled => exact absurd settled (unsettled _ _)
  | missing _ _ missing => rw [found] at missing; cases missing
  | @decided g asked deciding other granted _ _ found' same sameScope shape =>
    obtain rfl : f = g := Option.some.inj (found.symm.trans found')
    rw [run_fetched] at sameScope
    obtain rfl : other = scope := sameScope
    have asks := byRules_guarantees scope.asks_isQuestion f begun.1 begun.2
    rw [asks.run_answer (Services.inMemory_stay before) (Services.inMemory_answer before) same]
      at shape
    obtain rfl : granted = ruled := shape
    exact ⟨rfl, rfl⟩

omit [Quantity ω] in
/-- Starting from a rollout that is kept is starting from where it has been granted. -/
theorem start_of_kept {source c : Campaign ω} {v : Variation ω} (sameId : source.id = c.id)
    (sameKey : source.key = c.key) :
    start featureKey (.rollout source v) =
      (Decision.withRollout { featureKey := featureKey } c v,
        Session.withRollout {} featureKey ⟨c.id, c.key, some v.id⟩) := by
  simp [start, Decision.withRollout, Grant.of, sameId, sameKey]

section Ruled

variable (list gateway store)
variable (repeatable : scope.settings.Repeatable) (member : f ∈ scope.settings.features)

/-- What the rules of a feature make of nothing where these records are kept. -/
def afresh (scope : Scope ω) (f : Feature ω) : Decision :=
  (((byRules scope f { featureKey := f.key }).run {}).answer (.ofStore store list gateway)).1

theorem grants_afresh : scope.Grants (Services.inMemory list gateway) (· = store) f
    { featureKey := f.key } (afresh list gateway store scope f) :=
  answer_of_ends (byRules_ends (Services.inMemory_stay store) f _)
    (byRules_guarantees scope.asks_isQuestion f _) {}

include repeatable member

/-- When rules enable a feature without an experiment, a rollout has been granted, and experiments
have been looked for from there. -/
theorem afresh_without_experiment (enabled : (afresh list gateway store scope f).enabled = true)
    (bare : (afresh list gateway store scope f).experiment = none) :
    ∃ c ∈ f.linked, ∃ v ∈ c.variations,
      afresh list gateway store scope f = Decision.withRollout { featureKey := f.key } c v ∧
      (((grantExperiment scope f (afresh list gateway store scope f) f.experiments).run
        (Session.withRollout {} f.key ⟨c.id, c.key, some v.id⟩)).answer
          (.ofStore store list gateway)).1 = afresh list gateway store scope f := by
  have stay : (Services.inMemory list gateway).Stay Call.isQuestion (· = store) :=
    Services.inMemory_stay store
  have needed : f.rollouts ≠ [] :=
    (grants_afresh list gateway store).rollouts_ne_nil rfl enabled bare
  have ungrouped : ∀ c ∈ f.rollouts, scope.settings.groupOf? c = none := fun c inside =>
    let ⟨linked, kind⟩ := Feature.mem_rollouts.mp inside
    repeatable.groupOf?_of_rollout member linked kind
  obtain ⟨c, inside, v, own, shape⟩ := byRules_from_rollout ungrouped needed rfl enabled
  have ends := answer_of_ends (grantExperiment_ends stay f
    (Decision.withRollout { featureKey := f.key } c v) fun d inside => inside)
    (grantExperiment_guarantees scope.asks_isQuestion f _ _)
    (Session.withRollout {} f.key ⟨c.id, c.key, some v.id⟩)
  rw [← shape] at ends
  have entered : afresh list gateway store scope f =
      Decision.withRollout { featureKey := f.key } c v := by
    rcases ends with same | ⟨d, -, w, -, forced, same, -⟩
    · exact same
    · change afresh list gateway store scope f = _ at same
      rw [same] at bare
      cases bare
  refine ⟨c, (Feature.mem_rollouts.mp inside).1, v, own, entered, ?_⟩
  rw [entered, ← shape]
  exact entered

/-- Where a decision without an experiment is kept, rules make the same decision again. -/
theorem byRules_again (new : store.get? f.key scope.user.id = none)
    (enabled : (afresh list gateway store scope f).enabled = true)
    (bare : (afresh list gateway store scope f).experiment = none) :
    let ruled := afresh list gateway store scope f
    let kept := store.insert (ruled.record scope.user.id)
    let settled := keptBy scope.settings (kept.get? f.key scope.user.id)
    (∀ c v, settled ≠ .experiment c v) ∧
      (((byRules scope f (start f.key settled).1).run (start f.key settled).2).answer
        (.ofStore kept list gateway)).1 = ruled := by
  obtain ⟨c, linked, v, own, entered, shape⟩ :=
    afresh_without_experiment list gateway store repeatable member enabled bare
  obtain ⟨named, source, available, sameId, sameKey⟩ :=
    repeatable.variationByKey? member linked own
  intro ruled kept settled
  have about : ruled.featureKey = f.key := congrArg Decision.featureKey entered
  have found : kept.get? f.key scope.user.id = some (ruled.record scope.user.id) := by
    have inserted : kept.get? ruled.featureKey scope.user.id = _ :=
      Store.get?_insert_self store (ruled.record scope.user.id)
    rwa [about] at inserted
  have rollout : ruled.rollout = some (.of c v false) := congrArg Decision.rollout entered
  have again : settled = .rollout source v := by
    unfold settled
    rw [found]
    exact keptBy_of_rollout bare rollout named available
  have alike : Replies.KeepAlike scope.user.id (.ofStore store list gateway)
      (.ofStore kept list gateway) := Replies.keepAlike_insert bare (by rwa [about])
  have experiments : ∀ d ∈ f.experiments, d ∈ f.linked :=
    fun d inside => (Feature.mem_experiments.mp inside).1
  rw [again, start_of_kept sameId sameKey, ← entered]
  refine ⟨by simp, ?_⟩
  rw [answer_byRules_of_admitted (Or.inr enabled),
    ← grantExperiment_indifferent repeatable.processed repeatable.free alike member ruled experiments]
  exact shape

end Ruled

/-- After an evaluation that has kept its decision, the next one gives the user the same and leaves
the store as it is. -/
theorem Effect.settles (repeatable : settings.Repeatable)
    (new : before.get? featureKey user.id = none)
    (first : Effect (Services.inMemory list gateway) id settings featureKey user before decision
      after) (changed : after ≠ before)
    (second : Effect (Services.inMemory list gateway) id settings featureKey user after again
      last) : last = after ∧ again.given = decision.given := by
  obtain ⟨f, accepted, found⟩ :
      ∃ f, refusal? featureKey user = none ∧ settings.feature? featureKey = some f := by
    cases first with
    | decided accepted _ found _ _ _ => exact ⟨_, accepted, found⟩
    | _ => exact absurd rfl changed
  have member : f ∈ settings.features := List.mem_of_find?_eq_some found
  obtain rfl : f.key = featureKey := by simpa using List.find?_some found
  let scope : Scope ω :=
    ⟨settings, user, (fetched settings user f).answer (.ofStore ⟨[]⟩ list gateway)⟩
  let ruled := afresh list gateway before scope f
  obtain ⟨given, kept⟩ : decision = (if ruled.enabled then ruled else { featureKey := f.key }) ∧
      after = if ruled.enabled then before.insert (ruled.record user.id) else before := by
    have shape := first.ruled accepted (by rw [new]; exact fun _ _ => nofun) found
    rwa [new] at shape
  have enabled : ruled.enabled = true := by
    by_contra disabled
    rw [if_neg disabled] at kept
    exact changed kept
  rw [if_pos enabled] at given kept
  cases experiment : ruled.experiment with
  | some grant =>
    -- The experiment is kept, so it is restored.
    have grants : scope.Grants (Services.inMemory list gateway) (· = before) f
        { featureKey := f.key } ruled := grants_afresh list gateway before
    have granted := Decision.GrantedBy.of_grants grants
    obtain ⟨c, linked, -, v, own, shape, values, -⟩ := granted.experiment grant experiment
    obtain ⟨named, source, available, sameId, -⟩ := repeatable.variationByKey? member linked own
    have campaign : grant.campaign = c.id := congrArg Grant.campaign shape
    have key : grant.campaignKey = c.key := congrArg Grant.campaignKey shape
    have variation : grant.variation = v.id := congrArg Grant.variation shape
    have kept := first.keeps_experiment (given ▸ experiment) (key ▸ named)
    rw [key, variation] at kept
    obtain ⟨restores, stays⟩ := second.of_keeps accepted kept available
    refine ⟨stays, ?_⟩
    rw [restores, given]
    simp [Decision.given, Decision.grant?, restored, Grant.of, experiment, enabled, values, sameId,
      campaign, variation]
  | none =>
    -- Only a rollout is kept, so the rules are gone through again.
    obtain ⟨unsettled, same⟩ :=
      byRules_again list gateway before repeatable member new enabled experiment
    subst kept
    obtain ⟨givenAgain, keptAgain⟩ := second.ruled accepted unsettled found
    rw [same, if_pos enabled] at givenAgain keptAgain
    exact ⟨keptAgain.trans (Store.insert_insert ..), by rw [givenAgain, given]⟩

end Memory

end Evaluation

section Visits

variable [Quantity ω] {σ : Type} (services : Services σ) (settings : Settings ω)
variable (featureKey : String) (user : User)

/-- What one evaluation decides in a world, and the world it leads to. -/
def Evaluation.visit (world : σ) : Decision × σ :=
  let ended := (evaluate settings featureKey user).run services ⟨world, [], []⟩
  (ended.1, ended.2.world)

theorem Evaluation.run_evaluate (journal : Journal σ) :
    let ended := (evaluate settings featureKey user).run services journal
    visit services settings featureKey user journal.world = (ended.1, ended.2.world) := by
  obtain ⟨decided, moved⟩ := Inquiry.run_of_world services (evaluate settings featureKey user)
    (show (⟨journal.world, [], []⟩ : Journal σ).world = journal.world from rfl)
  exact Prod.ext decided moved

/-- Evaluations that lead back to their world decide the same again and again. -/
theorem serve_of_settled {world : σ} {decision : Decision}
    (settled : Evaluation.visit services settings featureKey user world = (decision, world)) (n : Nat)
    (journal : Journal σ) (inside : journal.world = world) :
    ((serve settings (List.replicate n (.evaluate featureKey user))).run services journal).1 =
      List.replicate n ⟨settings, featureKey, user, decision⟩ := by
  induction n generalizing journal with
  | zero => rfl
  | succ n ih =>
    have visited := Evaluation.run_evaluate services settings featureKey user journal
    rw [inside, settled] at visited
    obtain ⟨decided, moved⟩ := Prod.mk.inj visited
    simp only [List.replicate_succ, serve, run_bind, run_pure]
    rw [ih _ moved.symm, ← decided]

end Visits

section Repeated

variable [Quantity ω] (list : ListQuery → Except ServiceError (Option String))
variable (gateway : GatewayQuery → Except ServiceError (Option String)) {settings : Settings ω}
variable (repeatable : settings.Repeatable) (featureKey : String) (user : User) {store : Store}
variable (new : store.get? featureKey user.id = none)
include repeatable new

/-- A second evaluation gives the user the same as the first, and leads back to its world. -/
theorem Evaluation.visit_again :
    let visit := visit (Services.inMemory list gateway) settings featureKey user
    (visit (visit store).2).2 = (visit store).2 ∧
      (visit (visit store).2).1.given = (visit store).1.given := by
  intro visit
  have effect (world : Store) : Effect (Services.inMemory list gateway) id settings featureKey user
      world (visit world).1 (visit world).2 :=
    evaluate_effect (Services.inMemory_keepsRecords list gateway) settings featureKey user
      ⟨world, [], []⟩
  by_cases unchanged : (visit store).2 = store
  · rw [unchanged]
    exact ⟨unchanged, rfl⟩
  · exact (effect store).settles repeatable new unchanged (effect (visit store).2)

theorem serve_repeated (n : Nat) (journal : Journal Store) (inside : journal.world = store) :
    let run := ((serve settings (List.replicate n (.evaluate featureKey user))).run
      (Services.inMemory list gateway) journal).1
    let given := (Evaluation.visit (Services.inMemory list gateway) settings featureKey user
      store).1.given
    run.length = n ∧ ∀ served ∈ run, served.decision.given = given := by
  cases n with
  | zero => exact ⟨rfl, List.forall_mem_nil _⟩
  | succ n =>
    let services := Services.inMemory list gateway
    have visited := Evaluation.run_evaluate services settings featureKey user journal
    rw [inside] at visited
    obtain ⟨back, same⟩ := Evaluation.visit_again list gateway repeatable featureKey user new
    have later := serve_of_settled services settings featureKey user (Prod.ext rfl back) n
      ((Evaluation.evaluate settings featureKey user).run services journal).2
      (congrArg Prod.snd visited).symm
    simp only [List.replicate_succ, serve, run_bind, run_pure]
    rw [later]
    refine ⟨by simp, fun served member => ?_⟩
    rcases List.mem_cons.mp member with rfl | again
    · rw [visited]
    · rw [(List.mem_replicate.mp again).2]
      exact same

end Repeated

/-- However often a feature is decided for a user of whom nothing is kept about it, the decisions
give the user the same. -/
theorem repetition_changes_nothing [Quantity ω]
    (list : ListQuery → Except ServiceError (Option String))
    (gateway : GatewayQuery → Except ServiceError (Option String)) {settings : Settings ω}
    (repeatable : settings.Repeatable) (featureKey : String) (user : User) {store : Store}
    (new : store.get? featureKey user.id = none) (calls : List Call) (events : List Event)
    (n : Nat) :
    let run := ((serve settings (List.replicate n (.evaluate featureKey user))).run
      (Services.inMemory list gateway) ⟨store, calls, events⟩).1
    run.length = n ∧ ∀ first ∈ run, ∀ second ∈ run,
      second.decision.enabled = first.decision.enabled ∧
      second.decision.grant?.map (fun grant => (grant.campaign, grant.variation)) =
        first.decision.grant?.map (fun grant => (grant.campaign, grant.variation)) ∧
      second.decision.values = first.decision.values := by
  intro run
  obtain ⟨length, given⟩ :=
    serve_repeated list gateway repeatable featureKey user new n ⟨store, calls, events⟩ rfl
  refine ⟨length, fun first member second member' => ?_⟩
  have same : second.decision.given = first.decision.given :=
    (given second member').trans (given first member).symm
  obtain ⟨enabled, granted, values⟩ : _ = _ ∧ _ = _ ∧ _ = _ := by
    simpa only [Decision.given, Prod.mk.injEq] using same
  exact ⟨enabled, granted, values⟩

/-- A cart that is rolled out to all users, and that is tried out with those at home. -/
def cart : Settings Binary64 where
  features := [{
    id := 1
    key := "cart"
    name := none
    rules := [⟨30, some 1, none, none⟩, ⟨10, none, none, none⟩]
    values := [] }]
  campaigns := [
    trial 10 "cart_ab" .ab (.object [("and", .array [.object [("country", .string "US")]])]),
    trial 30 "cart_rollout" .rollout .null]
  groups := []
  campaignGroups := []
  account := 1
  sdkKey := none
  version := none

def cartSettings : Settings Binary64 := cart.process.toOption.getD .empty

theorem cartSettings_repeatable : cartSettings.Repeatable where
  processed := Settings.processed_getD (by decide +kernel)
  keys := by decide +kernel
  named := by decide +kernel
  variations := by decide +kernel
  ungrouped := by decide +kernel
  free := by
    unfold Settings.ToggleFree
    decide +kernel

/-- The cart is decided three times for a user, when it has been decided for somebody else. -/
def cartRun (user : User) : List (Served Binary64) :=
  ((serve cartSettings (List.replicate 3 (.evaluate "cart" user))).run
    (Services.inMemory (fun _ => .ok none) trialGateway)
    ⟨⟨[{ featureKey := "cart", user := "bob" }]⟩, [], []⟩).1

/-- At home the experiment is restored from the second time on, and gives the user the same. -/
theorem cart_stays_the_same : cartSettings.Repeatable ∧
    (⟨[{ featureKey := "cart", user := "bob" }]⟩ : Store).get? "cart" trialUser.id = none ∧
    (cartRun trialUser).map (fun served => (served.decision.rollout, served.decision.experiment)) =
      [(some ⟨30, "cart_rollout", 1, "on", false⟩, some ⟨10, "cart_ab", 1, "on", false⟩),
       (none, some ⟨10, "cart_ab", 1, "on", false⟩), (none, some ⟨10, "cart_ab", 1, "on", false⟩)] ∧
    ∀ first ∈ cartRun trialUser, ∀ second ∈ cartRun trialUser,
      second.decision.enabled = first.decision.enabled ∧
      second.decision.grant?.map (fun grant => (grant.campaign, grant.variation)) =
        first.decision.grant?.map (fun grant => (grant.campaign, grant.variation)) ∧
      second.decision.values = first.decision.values :=
  ⟨cartSettings_repeatable, by decide, by decide +kernel,
    (repetition_changes_nothing _ _ cartSettings_repeatable "cart" trialUser (by decide) [] []
      3).2⟩

/-- Abroad only the rollout is kept, and the rules are gone through each time. -/
example : (cartRun farUser).map (fun served => (served.decision.rollout, served.decision.experiment)) =
    List.replicate 3 (some ⟨30, "cart_rollout", 1, "on", false⟩, none) := by decide +kernel

end FeatureFlags
