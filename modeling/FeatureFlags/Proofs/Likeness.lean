import FeatureFlags.Proofs.Candidates
import FeatureFlags.Proofs.Grounds
import FeatureFlags.Proofs.Keeping
import FeatureFlags.Proofs.NamedData

namespace FeatureFlags

open Inquiry

variable {ω : Type}

section Congr

variable {s α β : Type} {asks : Call → Prop} {gives : α → Prop}

/-- What follows a computation matters only for the results that it can have. -/
theorem Inquiry.Guarantees.bind_congr {x : Inquiry α} {f g : α → Inquiry β}
    (held : x.Guarantees asks gives) (same : ∀ a, gives a → f a = g a) : x >>= f = x >>= g := by
  change x.bind f = x.bind g
  induction x with
  | done a => exact same a held
  | read purpose key user next ih =>
    exact congrArg (Inquiry.read purpose key user) (funext fun r => ih r (held.2 r))
  | isMember query next ih =>
    exact congrArg (Inquiry.isMember query) (funext fun b => ih b (held.2 b))
  | classify query next ih =>
    exact congrArg (Inquiry.classify query) (funext fun d => ih d (held.2 d))
  | write record next ih => exact congrArg (Inquiry.write record) (ih held.2)
  | note event next ih => exact congrArg (Inquiry.note event) (ih held)

theorem Inquiry.Always.bind_congr {x : StateT s Inquiry α} {f g : α → StateT s Inquiry β}
    (held : Always asks gives x) (same : ∀ a, gives a → f a = g a) : x >>= f = x >>= g := by
  refine StateT.ext fun state => ?_
  rw [StateT.run_bind, StateT.run_bind]
  exact (held state).bind_congr fun result given => by rw [same _ given]

end Congr

/-- Two scopes are about the same settings, and about users who differ at most in their variables
and in what a gateway tells of them. -/
structure Scope.Alike (first second : Scope ω) : Prop where
  settings : first.settings = second.settings
  id : first.user.id = second.user.id
  address : first.user.ip? = second.user.ip?
  agent : first.user.agent? = second.user.agent?

section Alike

variable {first second : Scope ω}

/-- A condition does not look at gateway data unless it requires them. -/
theorem Segment.holds_alike (alike : first.Alike second) (attributes : Attributes)
    {segment : Segment} (seen : segment.requiresGateway → first.gateway? = second.gateway?) :
    holds first attributes segment = holds second attributes segment := by
  refine holds_congr ⟨alike.settings, alike.id, alike.agent, by rw [alike.address], rfl,
    fun _ _ => rfl, fun required name => ?_, fun required entry => ?_⟩
  · rw [Scope.location, Scope.location, seen required]
  · rw [Scope.device, Scope.device, seen required]

theorem Scope.Alike.identity_eq (alike : first.Alike second) (c : Campaign ω) :
    first.identity c = second.identity c := by
  unfold identity
  rw [alike.settings, alike.id]

theorem Scope.Alike.entryAttributes_eq (alike : first.Alike second)
    (same : first.user.customVariables = second.user.customVariables) (c : Campaign ω) :
    first.entryAttributes c = second.entryAttributes c := by
  unfold entryAttributes
  rw [same, alike.identity_eq]

theorem Scope.Alike.forcingAttributes_eq (alike : first.Alike second)
    (same : first.user.targetingVariables = second.user.targetingVariables) (c : Campaign ω) :
    first.forcingAttributes c = second.forcingAttributes c := by
  unfold forcingAttributes
  rw [same, alike.identity_eq]

end Alike

/-- Whether it takes gateway data to tell who may enter. -/
def Campaign.entryNeedsGateway (c : Campaign ω) : Bool := c.entrySegment?.any (·.requiresGateway)

namespace Settings

/-- The campaigns that a contest may look at: members, and rollouts of the features that link
them. -/
def contested (settings : Settings ω) (group : Group ω) : List (Campaign ω) :=
  (Contest.features settings.features [] group.members).flatMap fun f =>
    f.linked.filter fun c => c.kind = .rollout ∨ c.identity ∈ group.members

theorem mem_contested {settings : Settings ω} {group : Group ω} {c : Campaign ω} :
    c ∈ settings.contested group ↔
      ∃ f ∈ Contest.features settings.features [] group.members,
        c ∈ f.linked ∧ (c.kind = .rollout ∨ c.identity ∈ group.members) := by
  simp [contested]

end Settings

/-- The same is asked in both scopes to tell whether the user may enter a campaign. -/
def Scope.EnterAlike (first second : Scope ω) (c : Campaign ω) : Prop :=
  c.mayEnter first (first.entryAttributes c) = c.mayEnter second (second.entryAttributes c)

section Alike

variable {first second : Scope ω} (alike : first.Alike second)

theorem Rules.firstEntered?_alike {cs : List (Campaign ω)}
    (enter : ∀ c ∈ cs, first.EnterAlike second c) :
    firstEntered? first cs = firstEntered? second cs := by
  induction cs with
  | nil => rfl
  | cons c rest ih =>
    have later := ih fun d inside => enter d (List.mem_cons_of_mem _ inside)
    unfold firstEntered?
    rw [later, enter c (List.mem_cons_self ..)]

theorem Contest.candidates_congr {s : Type} {gate other : Feature ω → StateT s Inquiry Bool}
    (members seen : List String) {fs : List (Feature ω)} (same : ∀ f ∈ fs, gate f = other f) :
    candidates gate members seen fs = candidates other members seen fs := by
  induction fs generalizing seen with
  | nil => rfl
  | cons f rest ih =>
    have later (seen : List String) := ih seen fun g inside => same g (List.mem_cons_of_mem _ inside)
    unfold candidates
    simp only [later, same f (List.mem_cons_self ..)]

include alike

theorem Campaign.mayEnter_alike {c : Campaign ω} (attributes : Attributes)
    (seen : c.entryNeedsGateway → first.gateway? = second.gateway?) :
    c.mayEnter first attributes = c.mayEnter second attributes := by
  unfold mayEnter
  unfold entryNeedsGateway at seen
  rw [alike.id]
  cases found : c.entrySegment? with
  | none => rfl
  | some t =>
    rw [found, Option.any_some] at seen
    dsimp only
    rw [t.holds_alike alike attributes seen]

theorem Scope.Alike.enter (same : first.user.customVariables = second.user.customVariables)
    {c : Campaign ω} (seen : c.entryNeedsGateway → first.gateway? = second.gateway?) :
    first.EnterAlike second c := by
  unfold EnterAlike
  rw [alike.entryAttributes_eq same, c.mayEnter_alike alike _ seen]

theorem Campaign.targetedVariations_alike (c : Campaign ω) (attributes : Attributes)
    {vs : List (Variation ω)} (seen : ∀ v ∈ vs, ∀ t ∈ v.segment,
      t.requiresGateway → first.gateway? = second.gateway?) :
    c.targetedVariations first attributes vs = c.targetedVariations second attributes vs := by
  induction vs with
  | nil => rfl
  | cons v rest ih =>
    have later := ih fun w inside => seen w (List.mem_cons_of_mem _ inside)
    unfold targetedVariations
    rw [later, alike.id]
    cases found : v.segment with
    | none => rfl
    | some t =>
      dsimp only
      rw [t.holds_alike alike attributes (seen v (List.mem_cons_self ..) t found)]

theorem Rules.storedWinner?_alike (id : UInt64) :
    storedWinner? first id = storedWinner? second id := by
  unfold storedWinner?
  rw [alike.settings, alike.id]

variable [Quantity ω]

/-- What is forced by campaigns is asked alike where the same is known for it. -/
theorem Rules.forced?_alike {c : Campaign ω}
    (known : first.forcingAttributes c = second.forcingAttributes c)
    (seen : ∀ v ∈ c.variations, ∀ t ∈ v.segment,
      t.requiresGateway → first.gateway? = second.gateway?) :
    forced? first c = forced? second c := by
  have same := c.targetedVariations_alike alike (second.forcingAttributes c) seen
  unfold forced? Campaign.forced?
  rw [known, same, alike.id]

theorem Rules.rolloutPassed_alike {f : Feature ω}
    (enter : ∀ c ∈ f.rollouts, first.EnterAlike second c) :
    rolloutPassed first f = rolloutPassed second f := by
  unfold rolloutPassed
  rw [firstEntered?_alike enter, alike.settings, alike.id]

theorem Contest.sorted_alike {found : List (Feature ω × Campaign ω)}
    (enter : ∀ candidate ∈ found, first.EnterAlike second candidate.2) :
    sorted first found = sorted second found := by
  induction found with
  | nil => rfl
  | cons candidate rest ih =>
    have later := ih fun other inside => enter other (List.mem_cons_of_mem _ inside)
    unfold sorted
    rw [later, enter candidate (List.mem_cons_self ..), alike.settings, alike.id]

/-- A contest asks about entry into the campaigns that it may look at, and about nothing else of the
user but the id. -/
theorem Contest.winner?_alike {id : UInt64} (f : Feature ω)
    (enter : ∀ group, second.settings.group? id = some group →
      ∀ c ∈ second.settings.contested group, first.EnterAlike second c) :
    winner? first (Rules.rolloutPassed first) id f =
      winner? second (Rules.rolloutPassed second) id f := by
  unfold winner?
  rw [alike.settings, alike.id]
  cases found : second.settings.group? id with
  | none => rfl
  | some group =>
    have entering := enter group found
    -- The gates look at rollouts only, and sorting looks at members only.
    have gated : ∀ g ∈ features second.settings.features [] group.members,
        Rules.rolloutPassed first g = Rules.rolloutPassed second g := by
      refine fun g inside => Rules.rolloutPassed_alike alike fun c member => entering c ?_
      obtain ⟨links, kind⟩ := Feature.mem_rollouts.mp member
      exact Settings.mem_contested.mpr ⟨g, inside, links, Or.inl kind⟩
    have same : candidates (Rules.rolloutPassed first) group.members []
          (features second.settings.features [] group.members) =
        candidates (Rules.rolloutPassed second) group.members []
          (features second.settings.features [] group.members) :=
      candidates_congr group.members [] gated
    dsimp only
    rw [same]
    refine (candidates_linked _ _ _ _).bind_congr fun brought linked => ?_
    have sorts : sorted first brought = sorted second brought := by
      refine sorted_alike alike fun candidate inside => entering candidate.2 ?_
      obtain ⟨among, links, member⟩ := linked candidate inside
      exact Settings.mem_contested.mpr ⟨candidate.1, among, links, Or.inr member⟩
    rw [sorts]

end Alike

/-- The rules of a feature ask the same in both scopes: what they force, and who may enter what they
link and what a contest may look at. -/
structure Scope.DecideAlike [Quantity ω] (first second : Scope ω) (f : Feature ω) : Prop extends
    first.Alike second where
  forced : ∀ c ∈ f.linked, Rules.forced? first c = Rules.forced? second c
  enter : ∀ c ∈ f.linked, first.EnterAlike second c
  contests : ∀ c ∈ f.linked, ∀ id, second.settings.groupOf? c = some id →
    ∀ group, second.settings.group? id = some group →
      ∀ d ∈ second.settings.contested group, first.EnterAlike second d

section DecideAlike

variable [Quantity ω] {first second : Scope ω} {f : Feature ω} (alike : first.DecideAlike second f)
include alike

theorem Rules.outcome_alike {c : Campaign ω} (linked : c ∈ f.linked) :
    outcome first f c = outcome second f c := by
  have enters : c.mayEnter first (first.entryAttributes c) =
      c.mayEnter second (second.entryAttributes c) := alike.enter c linked
  rw [outcome_eq, outcome_eq, alike.forced c linked]
  suffices same : unforced first f c = unforced second f c by rw [same]
  unfold unforced
  rw [alike.settings, enters]
  cases grouped : second.settings.groupOf? c with
  | none => rfl
  | some id =>
    have contest := Contest.winner?_alike alike.toAlike f (alike.contests c linked id grouped)
    dsimp only
    rw [storedWinner?_alike alike.toAlike, contest]

theorem Evaluation.firstPassed?_alike {cs : List (Campaign ω)} (linked : ∀ c ∈ cs, c ∈ f.linked) :
    firstPassed? first f cs = firstPassed? second f cs := by
  induction cs with
  | nil => rfl
  | cons c rest ih =>
    have later := ih fun d inside => linked d (List.mem_cons_of_mem _ inside)
    unfold firstPassed?
    rw [later, Rules.outcome_alike alike (linked c (List.mem_cons_self ..))]

theorem Evaluation.grantRollout_alike (decision : Decision) :
    grantRollout first f decision = grantRollout second f decision := by
  unfold grantRollout
  rw [firstPassed?_alike alike fun c inside => (Feature.mem_rollouts.mp inside).1, alike.settings,
    alike.id]

theorem Evaluation.grantExperiment_alike (decision : Decision) {cs : List (Campaign ω)}
    (linked : ∀ c ∈ cs, c ∈ f.linked) :
    grantExperiment first f decision cs = grantExperiment second f decision cs := by
  induction cs with
  | nil => rfl
  | cons c rest ih =>
    have later := ih fun d inside => linked d (List.mem_cons_of_mem _ inside)
    unfold grantExperiment
    rw [later, Rules.outcome_alike alike (linked c (List.mem_cons_self ..)), alike.settings,
      alike.id]

theorem Evaluation.byRules_alike (begun : Decision) :
    byRules first f begun = byRules second f begun := by
  have experiments (decision : Decision) :
      grantExperiment first f decision f.experiments =
        grantExperiment second f decision f.experiments :=
    grantExperiment_alike alike decision fun c inside => (Feature.mem_experiments.mp inside).1
  unfold byRules
  simp only [grantRollout_alike alike, experiments]

end DecideAlike

/-- The same data are fetched for two users before a feature is decided, and then its rules ask the
same about them. -/
structure Settings.DecidesAlike [Quantity ω] (settings : Settings ω) (f : Feature ω)
    (first second : User) : Prop where
  fetched : Evaluation.fetched settings first f = Evaluation.fetched settings second f
  rules : ∀ data, Scope.DecideAlike ⟨settings, first, data⟩ ⟨settings, second, data⟩ f

namespace Evaluation

variable [Quantity ω] {settings : Settings ω} {featureKey : String} {first second : User}
  (id : first.id = second.id)
  (alike : ∀ f, settings.feature? featureKey = some f → settings.DecidesAlike f first second)
include id alike

theorem resume_alike (settled : Kept ω) :
    resume settings featureKey first settled = resume settings featureKey second settled := by
  have decides : anew settings featureKey first settled =
      anew settings featureKey second settled := by
    unfold anew
    cases found : settings.feature? featureKey with
    | none => rfl
    | some f =>
      have decided := alike f found
      dsimp only
      rw [ofFeature_eq, ofFeature_eq, decided.fetched, id]
      simp only [byRules_alike (decided.rules _)]
  unfold resume
  rw [decides, id]

/-- Users of one id about whom the same is asked are decided alike, with the same calls and
reports. -/
theorem evaluate_alike : evaluate settings featureKey first = evaluate settings featureKey second := by
  have decides : decide settings featureKey first = decide settings featureKey second := by
    rw [decide_eq, decide_eq, id]
    exact congrArg (recordOf featureKey second.id >>= ·) (funext fun record =>
      resume_alike id alike _)
  unfold evaluate tryEvaluate refusal?
  rw [decides, id]

end Evaluation

end FeatureFlags
