import FeatureFlags.Proofs.Gates

namespace FeatureFlags

open Inquiry

variable {ω : Type}

namespace Contest

theorem newFeatures_subset {member : String} {known : List String} {all : List (Feature ω)}
    {f : Feature ω} (new : f ∈ newFeatures member known all) : f ∈ all := by
  induction all generalizing known with
  | nil => exact new
  | cons g rest ih =>
    unfold newFeatures at new
    split at new
    · rcases List.mem_cons.mp new with same | later
      · exact same ▸ List.mem_cons_self ..
      · exact List.mem_cons_of_mem _ (ih later)
    · exact List.mem_cons_of_mem _ (ih new)

theorem features_subset {all : List (Feature ω)} {known members : List String} {f : Feature ω}
    (found : f ∈ features all known members) : f ∈ all := by
  induction members generalizing known with
  | nil => cases found
  | cons member rest ih =>
    rcases List.mem_append.mp found with new | later
    · exact newFeatures_subset new
    · exact ih later

theorem newCandidates_subset {members seen : List String} {linked : List (Campaign ω)}
    {c : Campaign ω} (new : c ∈ newCandidates members seen linked) : c ∈ linked := by
  induction linked generalizing seen with
  | nil => exact new
  | cons d rest ih =>
    unfold newCandidates at new
    split at new
    · rcases List.mem_cons.mp new with same | later
      · exact same ▸ List.mem_cons_self ..
      · exact List.mem_cons_of_mem _ (ih later)
    · exact List.mem_cons_of_mem _ (ih new)

/-- What features bring in order: the members each of them links that none before it has brought. -/
def brought (members seen : List String) : List (Feature ω) → List (Feature ω × Campaign ω)
  | [] => []
  | f :: rest =>
    let new := newCandidates members seen f.linked
    new.map (fun c => (f, c)) ++ brought members (seen ++ new.map (·.identity)) rest

theorem mem_brought {members seen : List String} {fs : List (Feature ω)} {f : Feature ω}
    {c : Campaign ω} (member : (f, c) ∈ brought members seen fs) : f ∈ fs ∧ c ∈ f.linked := by
  induction fs generalizing seen with
  | nil => cases member
  | cons g rest ih =>
    rcases List.mem_append.mp member with new | later
    · obtain ⟨d, inside, same⟩ := List.mem_map.mp new
      obtain ⟨rfl, rfl⟩ := Prod.mk.inj same
      exact ⟨List.mem_cons_self .., newCandidates_subset inside⟩
    · obtain ⟨inside, linked⟩ := ih later
      exact ⟨List.mem_cons_of_mem _ inside, linked⟩

/-- When a gate only shows which features are open, the candidates are what the open ones bring. -/
theorem candidates_leads {s : Type} {replies : Replies} {inv : s → Prop}
    {gate : Feature ω → StateT s Inquiry Bool} {opens : Feature ω → Bool} (members seen : List String)
    {fs : List (Feature ω)}
    (gated : ∀ f ∈ fs, Leads replies inv (gate f) fun passed state =>
      passed = opens f ∧ inv state) :
    Leads replies inv (candidates gate members seen fs) fun found state =>
      found = brought members seen (fs.filter opens) ∧ inv state := by
  induction fs generalizing seen with
  | nil => exact leads_pure fun state held => ⟨rfl, held⟩
  | cons f rest ih =>
    have later (seen : List String) := ih seen fun g inside => gated g (List.mem_cons_of_mem _ inside)
    refine (gated f (List.mem_cons_self ..)).bind fun passed => ?_
    split
    · rename_i passes
      refine Leads.through (fun others state => passed = opens f ∧
        others = brought members (seen ++ (newCandidates members seen f.linked).map (·.identity))
          (rest.filter opens) ∧ inv state) ?_ fun others => leads_pure fun state held => ?_
      · intro state held
        exact ⟨held.1, later _ state held.2⟩
      · obtain ⟨opened, rfl, held⟩ := held
        rw [List.filter_cons_of_pos (by rw [← opened, passes])]
        exact ⟨rfl, held⟩
    · rename_i closed
      intro state held
      rw [List.filter_cons_of_neg (by rw [← held.1]; exact closed)]
      exact later seen state held.2

variable [Quantity ω]

theorem draw_mem {group : UInt64} {user : String} {weighted : List (Campaign ω × ω)}
    {c : Campaign ω} (drawn : draw group user weighted = some c) :
    c ∈ weighted.map (·.1) := by
  obtain ⟨i, _, atI⟩ := Option.bind_eq_some_iff.mp drawn
  exact List.mem_of_getElem? atI

theorem poolWinner_mem {id : UInt64} {group : Group ω} {user : String}
    {pool : List (Campaign ω)} {c : Campaign ω} (won : poolWinner id group user pool = some c) :
    c ∈ pool := by
  unfold poolWinner at won
  split at won
  · cases won
  · exact List.mem_singleton.mpr (Option.some.inj won).symm
  split at won
  · obtain ⟨⟨d, w⟩, weighed, rfl⟩ := List.mem_map.mp (draw_mem won)
    obtain ⟨e, inside, paired⟩ := List.mem_map.mp weighed
    exact (Prod.mk.inj paired).1 ▸ inside
  · unfold advancedWinner at won
    split at won
    · rename_i first
      obtain ⟨p, _, found⟩ := List.exists_of_findSome?_eq_some first
      exact Option.some.inj won ▸ List.mem_of_find?_eq_some found
    · obtain ⟨⟨d, w⟩, weighed, rfl⟩ := List.mem_map.mp (draw_mem won)
      obtain ⟨e, inside, paired⟩ := List.mem_filterMap.mp weighed
      obtain ⟨_, _, same⟩ := Option.map_eq_some_iff.mp paired
      exact (Prod.mk.inj same).1 ▸ inside

end Contest

variable [Quantity ω]

namespace Scope

variable (scope : Scope ω) (replies : Replies)

/-- Whether a decision for this candidate is kept with its feature. -/
def keepsCandidate (candidate : Feature ω × Campaign ω) : Bool :=
  (replies.record candidate.1.key scope.user.id).any fun r =>
    Contest.isNamedBy scope.settings r candidate.2

/-- Whether the user may enter the campaign and takes part in it. -/
def joins (c : Campaign ω) : Bool := scope.enters replies c && c.includes scope.user.id

/-- The candidates of a group: what those of its features bring that the user gets into. -/
def contenders (group : Group ω) : List (Feature ω × Campaign ω) :=
  Contest.brought group.members []
    ((Contest.features scope.settings.features [] group.members).filter (scope.passes replies))

def keptContenders (group : Group ω) : List (Campaign ω) :=
  ((scope.contenders replies group).filter (scope.keepsCandidate replies)).map (·.2)

def eligibleContenders (group : Group ω) : List (Campaign ω) :=
  ((scope.contenders replies group).filter fun candidate =>
    !scope.keepsCandidate replies candidate && scope.joins replies candidate.2).map (·.2)

/-- The campaign that wins a group, whichever feature asks. -/
def champion? (id : UInt64) : Option (Campaign ω) :=
  (scope.settings.group? id).bind fun group =>
    Contest.poolWinner id group scope.user.id
      (if (scope.keptContenders replies group).isEmpty then scope.eligibleContenders replies group
       else scope.keptContenders replies group)

/-- What a feature learns of a contest: the champion, if the feature links it. -/
def verdict (feature : Feature ω) (id : UInt64) : GroupWinner :=
  ((scope.champion? replies id).filter fun c => Contest.links feature c.identity).elim .nobody .of

end Scope

theorem Contest.answer_sorted (scope : Scope ω) (replies : Replies)
    (found : List (Feature ω × Campaign ω)) :
    (sorted scope found).answer replies =
      ((found.filter (scope.keepsCandidate replies)).map (·.2),
       (found.filter fun candidate => !scope.keepsCandidate replies candidate &&
         scope.joins replies candidate.2).map (·.2)) := by
  induction found with
  | nil => rfl
  | cons candidate rest ih =>
    obtain ⟨f, c⟩ := candidate
    rw [sorted, answer_bind, answer_recordOf]
    split
    · rename_i named
      have kept : scope.keepsCandidate replies (f, c) = true := named
      simp only [answer_bind, ih, answer_pure, List.filter_cons, kept, Bool.not_true,
        Bool.false_and, if_true, List.map_cons, Bool.false_eq_true, if_false]
    · rename_i unnamed
      have unkept : scope.keepsCandidate replies (f, c) = false := Bool.eq_false_iff.mpr unnamed
      rw [answer_bind, Scope.answer_mayEnter]
      dsimp only
      split
      · rename_i enters
        rw [answer_bind, Campaign.answer_reportInclusion]
        split
        · rename_i part
          have joins : scope.joins replies c = true := by rw [Scope.joins, enters, part]; rfl
          simp only [answer_bind, ih, answer_pure, List.filter_cons, unkept, joins, Bool.not_false,
            Bool.and_self, if_true, List.map_cons, Bool.false_eq_true, if_false]
        · rename_i away
          have apart : scope.joins replies c = false := by
            rw [Scope.joins, Bool.eq_false_iff.mpr away, Bool.and_false]
          simp only [answer_bind, ih, answer_pure, List.filter_cons, unkept, apart, Bool.and_false,
            Bool.false_eq_true, if_false]
      · rename_i stays
        have apart : scope.joins replies c = false := by
          rw [Scope.joins, Bool.eq_false_iff.mpr stays, Bool.false_and]
        simp only [answer_bind, ih, answer_pure, List.filter_cons, unkept, apart, Bool.and_false,
          Bool.false_eq_true, if_false]

/-- A contest gives what the asking feature learns of the champion. -/
theorem Contest.winner?_leads {scope : Scope ω} {replies : Replies} {inv : Session → Prop}
    (gated : ∀ f ∈ scope.settings.features, Leads replies inv (Rules.rolloutPassed scope f)
      fun passed session => passed = scope.passes replies f ∧ inv session)
    (id : UInt64) (feature : Feature ω) :
    Leads replies inv (winner? scope (Rules.rolloutPassed scope) id feature) fun winner session =>
      winner.elim .nobody .of = scope.verdict replies feature id ∧ inv session := by
  unfold winner?
  split
  · rename_i missing
    refine (leads_answer _).bind fun _ => leads_pure fun session held => ⟨?_, held.2⟩
    rw [Scope.verdict, Scope.champion?, missing]
    rfl
  · rename_i group found
    refine (candidates_leads group.members [] fun f member =>
      gated f (features_subset member)).bind fun candidates => ?_
    refine (leads_answer _).bind fun parts => ?_
    have champion (same : candidates = scope.contenders replies group)
        (sorted : parts = (Contest.sorted scope candidates).answer replies) :
        scope.champion? replies id = poolWinner id group scope.user.id
          (if parts.1.isEmpty then parts.2 else parts.1) := by
      rw [Scope.champion?, found, Option.bind_some, sorted, answer_sorted, same]
      rfl
    split
    rename_i stored eligible
    split
    · rename_i nobody
      refine (leads_answer _).bind fun _ => leads_pure fun session held => ?_
      obtain ⟨-, sorted, same, held⟩ := held
      refine ⟨?_, held⟩
      rw [Scope.verdict, champion same sorted, nobody]
      rfl
    · rename_i c won
      refine (leads_answer _).bind fun _ => leads_pure fun session held => ?_
      obtain ⟨-, sorted, same, held⟩ := held
      refine ⟨?_, held⟩
      rw [Scope.verdict, champion same sorted, won]
      simp only [Option.filter_some]

namespace Session

/-- All that is remembered while a feature is decided is what anybody would find out. -/
structure Fair (session : Session) (scope : Scope ω) (replies : Replies) (feature : Feature ω) :
    Prop where
  sound : session.Sound scope replies
  settled : ∀ id winner, session.winner? id = some winner →
    winner = scope.verdict replies feature id

theorem Sound.fair {session : Session} {scope : Scope ω} {replies : Replies}
    (sound : session.Sound scope replies) (none : session.winners = []) (feature : Feature ω) :
    session.Fair scope replies feature where
  sound := sound
  settled id winner known := by
    rw [winner?, none] at known
    cases known

omit [Quantity ω] in
theorem winner?_withWinner (session : Session) (id other : UInt64) (winner : GroupWinner) :
    (session.withWinner id winner).winner? other =
      if other = id then some winner else session.winner? other := by
  simp only [withWinner, winner?, List.lookup_cons]
  split <;> simp_all

theorem Fair.withWinner {session : Session} {scope : Scope ω} {replies : Replies}
    {feature : Feature ω} (fair : session.Fair scope replies feature) (id : UInt64) :
    (session.withWinner id (scope.verdict replies feature id)).Fair scope replies feature where
  sound := fair.sound
  settled other winner known := by
    rw [winner?_withWinner] at known
    split at known
    · rename_i same
      rw [same, ← Option.some.inj known]
    · exact fair.settled other winner known

end Session

theorem Rules.rolloutPassed_fair {scope : Scope ω} (replies : Replies) (feature : Feature ω)
    (distinct : (scope.settings.features.map (·.key)).Nodup) :
    ∀ f ∈ scope.settings.features, Leads replies (·.Fair scope replies feature)
      (rolloutPassed scope f) fun passed session =>
        passed = scope.passes replies f ∧ session.Fair scope replies feature := by
  intro f member session fair
  obtain ⟨passed, sound, same⟩ := rolloutPassed_leads distinct member session.winners session
    ⟨fair.sound, rfl⟩
  refine ⟨passed, sound, fun id winner known => fair.settled id winner ?_⟩
  rwa [Session.winner?, ← same]

/-- A campaign is the champion of the group that it is in, if it is in one. -/
def Scope.Wins (scope : Scope ω) (replies : Replies) (c : Campaign ω) : Prop :=
  ∀ id, scope.settings.groupOf? c = some id →
    ∃ champion, scope.champion? replies id = some champion ∧ GroupWinner.of champion = .of c

omit [Quantity ω] in
theorem GroupWinner.of_ne_nobody (c : Campaign ω) : GroupWinner.of c ≠ .nobody := by
  unfold GroupWinner.of
  split <;> simp

omit [Quantity ω] in
/-- A winner admits a campaign exactly if it is the winner that the campaign is. -/
theorem GroupWinner.admits_iff {winner : GroupWinner} {c : Campaign ω} :
    winner.admits c = true ↔ winner = of c := decide_eq_true_iff

theorem Scope.champion_of_verdict {scope : Scope ω} {replies : Replies} {feature : Feature ω}
    {id : UInt64} {c : Campaign ω} (admitted : (scope.verdict replies feature id).admits c) :
    ∃ champion, scope.champion? replies id = some champion ∧ GroupWinner.of champion = .of c := by
  have same : scope.verdict replies feature id = .of c := GroupWinner.admits_iff.mp admitted
  unfold verdict at same
  cases won : (scope.champion? replies id).filter fun c => Contest.links feature c.identity with
  | none =>
    rw [won] at same
    exact absurd same.symm (GroupWinner.of_ne_nobody c)
  | some champion =>
    rw [won] at same
    exact ⟨champion, (Option.filter_eq_some_iff.mp won).1, same⟩

end FeatureFlags
