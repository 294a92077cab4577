import FeatureFlags.Proofs.Arena
import FeatureFlags.Proofs.Draws
import FeatureFlags.Settings.Process

namespace FeatureFlags

namespace Contest

theorem poolWinner_of_random {ω : Type} [Quantity ω] {group : Group ω} {pool : List (Campaign ω)}
    (random : group.algorithm = .random) (nonempty : pool ≠ [])
    (shares : SharesAll ω pool.length) (id : UInt64) (user : String) :
    ∃ c, poolWinner id group user pool = some c := by
  unfold poolWinner
  split
  · exact absurd rfl nonempty
  · exact ⟨_, rfl⟩
  · rw [random]
    exact randomWinner_of_sharesAll shares id user

namespace Arena

variable {ω s σ : Type}

/-- The services reply by what they are asked alone. -/
def Steady (arena : Arena ω s σ) : Prop := arena.services.Answer arena.within arena.replies

section OfRules

variable [Quantity ω] {scope : Scope ω} {services : Services σ} {within : σ → Prop}
variable {replies : Replies} {stay : services.Stay Call.isQuestion within}
variable {answers : services.Answer within replies}
variable {distinct : (scope.settings.features.map (·.key)).Nodup}

theorem steady_ofRules : (ofRules scope services within replies stay answers distinct).Steady :=
  answers

/-- Behind the gate that rules make, features see the champion, whatever rollouts are remembered. -/
theorem winner?_ofRules (start : (ofRules scope services within replies stay answers distinct).Start)
    (id : UInt64) (asking : Feature ω) :
    (ofRules scope services within replies stay answers distinct).winner? start id asking =
      (scope.champion? replies id).filter fun c => links asking c.identity := by
  have champion : scope.champion? replies id = scope.victor? replies (scope.passes replies) id := rfl
  rw [champion]
  exact winner?_steady steady_ofRules start id asking

end OfRules

/-- The feature links every member of the group. -/
def LinksAll (asking : Feature ω) (group : Group ω) : Prop :=
  ∀ member ∈ group.members, ∃ c ∈ asking.linked, c.identity = member

variable [Quantity ω]

/-- What entitles a campaign to win a group in the eyes of a feature: it is a member that the feature
links too, some open feature links it, and a decision about it is kept there, or about no candidate
at all while the user may enter it and takes part. -/
structure Deserves (arena : Arena ω s σ) (group : Group ω) (asking : Feature ω)
    (c : Campaign ω) : Prop where
  member : c.identity ∈ group.members
  linked : ∃ d ∈ asking.linked, d.identity = c.identity
  grounds : ∃ f ∈ arena.scope.settings.features, arena.opens f = true ∧ c ∈ f.linked ∧
    (arena.scope.Keeps arena.replies f c ∨
      (∀ g d, (g, d) ∈ arena.scope.field arena.opens group →
        ¬ arena.scope.Keeps arena.replies g d) ∧
      arena.scope.MayEnter arena.replies c ∧ c.includes arena.scope.user.id = true)

variable {arena : Arena ω s σ}

theorem deserves_of_winner? (steady : arena.Steady) {start : arena.Start} {id : UInt64}
    {asking : Feature ω} {c : Campaign ω} (won : arena.winner? start id asking = some c) :
    ∃ group, arena.scope.settings.group? id = some group ∧ arena.Deserves group asking c := by
  rw [winner?_steady steady, Option.filter_eq_some_iff] at won
  obtain ⟨victor, linked⟩ := won
  obtain ⟨group, found, winner⟩ := Option.bind_eq_some_iff.mp victor
  obtain ⟨f, inside, grounds⟩ := Scope.mem_pool (poolWinner_mem winner)
  obtain ⟨member, first, own⟩ := Scope.mem_field_iff.mp inside
  obtain ⟨known, opened⟩ := Scope.sponsor_of_sponsor? first
  refine ⟨group, found, member, links_iff.mp linked, f, known, opened, ?_, grounds⟩
  exact (Feature.linkedAs?_eq_some own).1

/-- Whichever features ask, and whenever, they see one winner or none. -/
theorem winner?_unique (steady : arena.Steady) {start start' : arena.Start} {id : UInt64}
    {f g : Feature ω} {c d : Campaign ω} (won : arena.winner? start id f = some c)
    (won' : arena.winner? start' id g = some d) : c = d := by
  rw [winner?_steady steady, Option.filter_eq_some_iff] at won won'
  exact Option.some.inj (won.1.symm.trans won'.1)

/-- A feature that links all members sees whoever wins in the pool. -/
theorem winner?_of_poolWinner (steady : arena.Steady) {id : UInt64} {group : Group ω}
    (found : arena.scope.settings.group? id = some group) {asking : Feature ω}
    (all : LinksAll asking group) {c : Campaign ω}
    (wins : poolWinner id group arena.scope.user.id
      (arena.scope.pool arena.replies arena.opens group) = some c) (start : arena.Start) :
    arena.winner? start id asking = some c := by
  obtain ⟨f, inside, -⟩ := Scope.mem_pool (poolWinner_mem wins)
  have linked : links asking c.identity = true :=
    links_iff.mpr (all c.identity (Scope.mem_field_iff.mp inside).1)
  have victor : arena.scope.victor? arena.replies arena.opens id = some c := by
    rw [Scope.victor?, found, Option.bind_some, wins]
  rw [winner?_steady steady, victor, Option.filter_some, if_pos linked]

/-- Under equal shares, somebody wins whenever the pool is not empty. -/
theorem winner?_of_random (steady : arena.Steady) {id : UInt64} {group : Group ω}
    (found : arena.scope.settings.group? id = some group) (random : group.algorithm = .random)
    {asking : Feature ω} (all : LinksAll asking group)
    (nonempty : arena.scope.pool arena.replies arena.opens group ≠ [])
    (shares : SharesAll ω (arena.scope.pool arena.replies arena.opens group).length)
    (start : arena.Start) : ∃ c, arena.winner? start id asking = some c := by
  obtain ⟨c, wins⟩ := poolWinner_of_random random nonempty shares id arena.scope.user.id
  exact ⟨c, winner?_of_poolWinner steady found all wins start⟩

end Arena

/-- The winner of a group deserves to win, is the same for all features, is whoever is alone in the
pool, and is not missing under equal shares: neither when these are reckoned exactly nor, for any
pool that a machine can hold, in double precision. -/
theorem winner_sound {s σ : Type} :
    (∀ (ω : Type) [Quantity ω] (arena : Arena ω s σ), arena.Steady → ∀ id : UInt64,
      (∀ start asking c, arena.winner? start id asking = some c →
        ∃ group, arena.scope.settings.group? id = some group ∧ arena.Deserves group asking c) ∧
      (∀ start start' f g c d, arena.winner? start id f = some c →
        arena.winner? start' id g = some d → c.identity = d.identity) ∧
      ∀ group, arena.scope.settings.group? id = some group →
        ∀ start asking, Arena.LinksAll asking group →
          ∀ c, arena.scope.pool arena.replies arena.opens group = [c] →
            arena.winner? start id asking = some c) ∧
    (∀ arena : Arena Rat s σ, arena.Steady → ∀ id group,
      arena.scope.settings.group? id = some group → group.algorithm = .random →
        ∀ start asking, Arena.LinksAll asking group →
          arena.scope.pool arena.replies arena.opens group ≠ [] →
            ∃ c, arena.winner? start id asking = some c) ∧
    ∀ arena : Arena Binary64 s σ, arena.Steady → ∀ id group,
      arena.scope.settings.group? id = some group → group.algorithm = .random →
        ∀ start asking, Arena.LinksAll asking group →
          arena.scope.pool arena.replies arena.opens group ≠ [] →
            (arena.scope.pool arena.replies arena.opens group).length < 2 ^ 64 →
              ∃ c, arena.winner? start id asking = some c := by
  refine ⟨fun ω _ arena steady id => ⟨?_, ?_, ?_⟩, ?_, ?_⟩
  · intro start asking c won
    exact Arena.deserves_of_winner? steady won
  · intro start start' f g c d won won'
    rw [Arena.winner?_unique steady won won']
  · intro group found start asking all c alone
    refine Arena.winner?_of_poolWinner steady found all ?_ start
    rw [alone]
    rfl
  · intro arena steady id group found random start asking all nonempty
    exact Arena.winner?_of_random steady found random all nonempty
      (sharesAll_rat (List.length_pos_iff.mpr nonempty)) start
  · intro arena steady id group found random start asking all nonempty word
    exact Arena.winner?_of_random steady found random all nonempty
      (sharesAll_binary64 (List.length_pos_iff.mpr nonempty) word) start

end Contest

section Kiosk

variable (ω : Type) [Quantity ω]

/-- A comparison of two forms that all users take part in. -/
def evenTrial (id : UInt64) (key : String) : Campaign ω :=
  ⟨id, key, none, .ab, Quantity.ofNat 100, .null, false, false,
    [⟨1, "old", none, Quantity.ofNat 50, .null, [], none, none, none⟩,
     ⟨2, "new", none, Quantity.ofNat 50, .null, [], none, none, none⟩], none, none, none, none⟩

/-- A kiosk that tries out its banner and its prices, of which a user sees one at most, and a cart that
tries out the prices alone. -/
def kiosk : Settings ω where
  features := [
    { id := 1, key := "kiosk", name := none,
      rules := [⟨10, none, none, none⟩, ⟨20, none, none, none⟩], values := [] },
    { id := 2, key := "cart", name := none, rules := [⟨20, none, none, none⟩], values := [] }]
  campaigns := [evenTrial ω 10 "banner_ab", evenTrial ω 20 "price_ab"]
  groups := [(5, ⟨none, ["10", "20"], some 1, [], []⟩)]
  campaignGroups := [("10", 5), ("20", 5)]
  account := 1
  sdkKey := none
  version := none

def kioskSettings : Settings ω := (kiosk ω).process.toOption.getD .empty

theorem kioskSettings_distinct : ((kioskSettings ω).features.map (·.key)).Nodup := by
  have keys : (kioskSettings ω).features.map (·.key) = ["kiosk", "cart"] := rfl
  rw [keys]
  decide

/-- The kiosk as a user finds it, with this store. -/
def kioskArena (store : Store) : Contest.Arena ω Session Store :=
  .ofRules ⟨kioskSettings ω, { id := "ann" }, none⟩
    (Services.inMemory (fun _ => .ok none) fun _ => .ok none) (· = store)
    (.ofStore store (fun _ => .ok none) fun _ => .ok none) (Services.inMemory_stay _)
    (Services.inMemory_answer _) (kioskSettings_distinct ω)

def kioskStart (store : Store) : (kioskArena ω store).Start :=
  ⟨{}, ⟨store, [], []⟩, rfl, Session.sound_empty _ _⟩

end Kiosk

/-- A store with what the kiosk keeps when it has granted the trial of the prices. -/
def priceStore : Store :=
  ⟨[{ featureKey := "kiosk", user := "ann", experimentId := some 20,
      experimentKey := some "price_ab", experimentVariation := some 2 }]⟩

/-- Where nothing is kept, one of the two trials wins, however shares are reckoned: the champion that
the rules know, and the only winner that any feature sees. Where the trial of the prices is kept, it is
alone in the pool and wins. -/
theorem kiosk_has_one_winner :
    (∃ f ∈ (kioskSettings Rat).features, f.key = "kiosk" ∧
      ∃ c, (kioskArena Rat {}).winner? (kioskStart Rat {}) 5 f = some c) ∧
    (∃ f ∈ (kioskSettings Binary64).features, f.key = "kiosk" ∧
      ∃ c, (kioskArena Binary64 {}).winner? (kioskStart Binary64 {}) 5 f = some c ∧
        (kioskArena Binary64 {}).scope.champion? (kioskArena Binary64 {}).replies 5 = some c ∧
        (∃ group, (kioskSettings Binary64).group? 5 = some group ∧
          (kioskArena Binary64 {}).Deserves group f c) ∧
        ∀ g d, (kioskArena Binary64 {}).winner? (kioskStart Binary64 {}) 5 g = some d →
          c.identity = d.identity) ∧
    ∃ f ∈ (kioskSettings Binary64).features, f.key = "kiosk" ∧ ∃ c, c.identity = "20" ∧
      (kioskArena Binary64 priceStore).winner? (kioskStart Binary64 priceStore) 5 f = some c := by
  obtain ⟨sound, byRationals, byDoubles⟩ := @Contest.winner_sound Session Store
  refine ⟨?_, ?_, ?_⟩
  · obtain ⟨group, found, f, inside, key, random, all, two⟩ : ∃ group ∈ (kioskSettings Rat).group? 5,
        ∃ f ∈ (kioskSettings Rat).features, f.key = "kiosk" ∧ group.algorithm = .random ∧
        (∀ member ∈ group.members, ∃ c ∈ f.linked, c.identity = member) ∧
        ((kioskArena Rat {}).scope.pool (kioskArena Rat {}).replies
          (kioskArena Rat {}).opens group).length = 2 := by decide +kernel
    have nonempty := List.length_pos_iff.mp (two.symm ▸ Nat.two_pos)
    exact ⟨f, inside, key, byRationals (kioskArena Rat {}) Contest.Arena.steady_ofRules 5 group found
      random (kioskStart Rat {}) f all nonempty⟩
  · obtain ⟨group, found, f, inside, key, random, all, two⟩ :
        ∃ group ∈ (kioskSettings Binary64).group? 5,
        ∃ f ∈ (kioskSettings Binary64).features, f.key = "kiosk" ∧ group.algorithm = .random ∧
        (∀ member ∈ group.members, ∃ c ∈ f.linked, c.identity = member) ∧
        ((kioskArena Binary64 {}).scope.pool (kioskArena Binary64 {}).replies
          (kioskArena Binary64 {}).opens group).length = 2 := by decide +kernel
    have steady : (kioskArena Binary64 {}).Steady := Contest.Arena.steady_ofRules
    have nonempty := List.length_pos_iff.mp (two.symm ▸ Nat.two_pos)
    obtain ⟨c, won⟩ := byDoubles (kioskArena Binary64 {}) steady 5 group found random
      (kioskStart Binary64 {}) f all nonempty (by omega)
    obtain ⟨deserved, unique, -⟩ := sound Binary64 (kioskArena Binary64 {}) steady 5
    obtain ⟨champion, -⟩ := Option.filter_eq_some_iff.mp
      ((Contest.Arena.winner?_ofRules (kioskStart Binary64 {}) 5 f).symm.trans won)
    exact ⟨f, inside, key, c, won, champion, deserved _ f c won,
      fun g d won' => unique _ _ f g c d won won'⟩
  · obtain ⟨group, found, f, inside, key, all, alone⟩ :
        ∃ group ∈ (kioskSettings Binary64).group? 5,
        ∃ f ∈ (kioskSettings Binary64).features, f.key = "kiosk" ∧
        (∀ member ∈ group.members, ∃ c ∈ f.linked, c.identity = member) ∧
        ((kioskArena Binary64 priceStore).scope.pool (kioskArena Binary64 priceStore).replies
          (kioskArena Binary64 priceStore).opens group).map (·.identity) = ["20"] := by
      decide +kernel
    obtain ⟨c, only, same⟩ := List.map_eq_singleton_iff.mp alone
    obtain ⟨-, -, lone⟩ := sound Binary64 (kioskArena Binary64 priceStore)
      Contest.Arena.steady_ofRules 5
    exact ⟨f, inside, key, c, same, lone group found (kioskStart Binary64 priceStore) f all c only⟩

end FeatureFlags
