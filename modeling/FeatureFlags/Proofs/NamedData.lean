import FeatureFlags.Proofs.Gathering

namespace FeatureFlags

variable {ω : Type}

/-- What is known of where the user is. -/
def Scope.location (scope : Scope ω) : List (String × String) :=
  (scope.gateway?.map (·.location)).getD []

/-- What is known of the user's device. -/
def Scope.device (scope : Scope ω) : List (String × String) :=
  (scope.gateway?.map (·.device)).getD []

theorem isEmpty_iff_lookup {α : Type} {entries : List (String × α)} :
    entries.isEmpty = true ↔ ∀ name, entries.lookup name = none := by
  cases entries with
  | nil => exact iff_of_true rfl fun _ => rfl
  | cons entry rest =>
    have found : (entry :: rest).lookup entry.1 = some entry.2 := by
      rw [Segment.lookup_cons_ite, if_pos rfl]
    exact iff_of_false Bool.false_ne_true fun missing => nomatch found.symm.trans (missing entry.1)

namespace Segment

mutual

/-- The attributes that leaves of a condition name. -/
def attributeNames : Segment → List String
  | .and children | .or children => allAttributeNames children
  | .not child => attributeNames child
  | .customVariable name _ => [name]
  | .userIds _ | .userList _ | .userAgent _ | .location _ _ | .device _ _ | .featureToggle _ _
  | .unknown _ => []

def allAttributeNames : List Segment → List String
  | [] => []
  | s :: rest => attributeNames s ++ allAttributeNames rest

end

theorem mem_allAttributeNames {name : String} {children : List Segment} :
    name ∈ allAttributeNames children ↔ ∃ child ∈ children, name ∈ child.attributeNames := by
  induction children with
  | nil => simp [allAttributeNames]
  | cons first rest ih => simp [allAttributeNames, ih]

theorem anyRequiresGateway_iff {children : List Segment} :
    anyRequiresGateway children ↔ ∃ child ∈ children, child.requiresGateway := by
  induction children with
  | nil => simp [anyRequiresGateway]
  | cons first rest ih => simp [anyRequiresGateway, ih]

theorem requiresGateway_of_location? {segment : Segment} (place : segment.location?.isSome) :
    segment.requiresGateway := by
  cases segment <;> first | rfl | cases place

theorem requiresGateway_of_device? {segment : Segment} (device : segment.device?.isSome) :
    segment.requiresGateway := by
  cases segment <;> first | rfl | cases device

theorem JointPlaces.requiresGateway {children : List Segment} (joint : JointPlaces children) :
    (Segment.and children).requiresGateway := by
  obtain ⟨child, member⟩ := List.exists_mem_of_ne_nil children joint.1
  rw [Segment.requiresGateway]
  exact anyRequiresGateway_iff.mpr
    ⟨child, member, requiresGateway_of_location? (joint.2.1 child member)⟩

theorem JointDevices.requiresGateway {children : List Segment} (joint : JointDevices children) :
    (Segment.or children).requiresGateway := by
  obtain ⟨child, member⟩ := List.exists_mem_of_ne_nil children joint.1
  rw [Segment.requiresGateway]
  exact anyRequiresGateway_iff.mpr
    ⟨child, member, requiresGateway_of_device? (joint.2 child member)⟩

/-- Two users, with their attributes, do not differ in anything that a condition names. Of an address
only matters that there is one, and gateway data count if the condition requires them. -/
structure SeesAlike (first second : Scope ω) (seen seen' : Attributes) (segment : Segment) : Prop where
  settings : first.settings = second.settings
  id : first.user.id = second.user.id
  agent : first.user.agent? = second.user.agent?
  address : first.user.ip?.isSome = second.user.ip?.isSome
  identity : seen.tag? identityName = seen'.tag? identityName
  named : ∀ name ∈ segment.attributeNames, seen.tag? name = seen'.tag? name
  location : segment.requiresGateway → ∀ name,
    first.location.lookup name = second.location.lookup name
  device : segment.requiresGateway → ∀ entry, entry ∈ first.device ↔ entry ∈ second.device

section Congr

variable {first second : Scope ω} {seen seen' : Attributes} {segment : Segment}

/-- Who does not differ in what a condition names does not differ in what a part of it names. -/
theorem SeesAlike.part (alike : SeesAlike first second seen seen' segment) {child : Segment}
    (names : ∀ name ∈ child.attributeNames, name ∈ segment.attributeNames)
    (required : child.requiresGateway → segment.requiresGateway) :
    SeesAlike first second seen seen' child :=
  { alike with
    named := fun name inside => alike.named name (names name inside)
    location := fun needed => alike.location (required needed)
    device := fun needed => alike.device (required needed) }

theorem SeesAlike.of_child {children : List Segment} {child : Segment}
    (alike : SeesAlike first second seen seen' segment)
    (names : segment.attributeNames = allAttributeNames children)
    (required : segment.requiresGateway = anyRequiresGateway children) (member : child ∈ children) :
    SeesAlike first second seen seen' child := by
  refine alike.part (fun name inside => ?_) fun needed => ?_
  · rw [names]
    exact mem_allAttributeNames.mpr ⟨child, member, inside⟩
  · rw [required]
    exact anyRequiresGateway_iff.mpr ⟨child, member, needed⟩

theorem locationsHold_congr (alike : SeesAlike first second seen seen' segment)
    (required : segment.requiresGateway) (expected : List (LocationKey × String)) :
    locationsHold first expected = locationsHold second expected := by
  have missing : first.user.ip?.isNone = second.user.ip?.isNone := by
    rw [← Option.not_isSome, ← Option.not_isSome, alike.address]
  have known := alike.location required
  have unknown : first.location.isEmpty = second.location.isEmpty := by
    rw [Bool.eq_iff_iff, isEmpty_iff_lookup, isEmpty_iff_lookup]
    simp only [known]
  unfold locationsHold
  rw [missing, alike.id, ← Scope.location, ← Scope.location]
  simp only [known, unknown]

theorem devicesHold_congr (alike : SeesAlike first second seen seen' segment)
    (required : segment.requiresGateway) (expected : List (DeviceKey × List DeviceMatcher)) :
    devicesHold first expected = devicesHold second expected := by
  have known (p : String × String → Bool) : first.device.any p = second.device.any p := by
    rw [Bool.eq_iff_iff, List.any_eq_true, List.any_eq_true]
    exact exists_congr fun entry => and_congr_left fun _ => alike.device required entry
  unfold devicesHold
  rw [alike.agent, alike.id, ← Scope.device, ← Scope.device]
  simp only [known]

theorem inList_congr (same : first.settings = second.settings) (list tag : String) :
    inList first list tag = inList second list tag := by
  unfold inList
  rw [same]

theorem firstToggleHolds_congr (same : first.settings = second.settings)
    (id : first.user.id = second.user.id) (children : List Segment) :
    firstToggleHolds first children = firstToggleHolds second children := by
  unfold firstToggleHolds toggleHolds
  rw [same, id]

/-- A condition is evaluated alike, with the same calls, for users who do not differ in what it
names. -/
theorem holds_congr (alike : SeesAlike first second seen seen' segment) :
    holds first seen segment = holds second seen' segment := by
  induction segment using Segment.induction with
  | and children ih =>
    rw [holds_and, holds_and]
    by_cases joint : JointPlaces children
    · rw [if_pos joint, if_pos joint, locationsHold_congr alike joint.requiresGateway]
    · rw [if_neg joint, if_neg joint]
      refine congrArg Inquiry.all (List.map_congr_left fun child kept => ?_)
      have member := (List.mem_filter.mp kept).1
      exact ih child member
        (alike.of_child (by rw [attributeNames]) (by rw [requiresGateway]) member)
  | or children ih =>
    rw [holds_or, holds_or]
    by_cases joint : JointDevices children
    · rw [if_pos joint, if_pos joint, devicesHold_congr alike joint.requiresGateway]
    · rw [if_neg joint, if_neg joint, firstToggleHolds_congr alike.settings alike.id]
      refine congrArg (Inquiry.anyElse _) (List.map_congr_left fun child before => ?_)
      have member := List.takeWhile_subset _ before
      exact ih child member
        (alike.of_child (by rw [attributeNames]) (by rw [requiresGateway]) member)
  | not child ih =>
    have part : SeesAlike first second seen seen' child :=
      alike.part (fun _ inside => by rwa [attributeNames]) fun needed => by rwa [requiresGateway]
    rw [holds, holds, ih part]
  | customVariable name operand =>
    have known : seen.tag? name = seen'.tag? name :=
      alike.named name (by rw [attributeNames]; exact List.mem_singleton_self name)
    simp only [holds, customVariableHolds, known, inList_congr alike.settings]
  | userIds ids => rw [holds, holds, userIdsHold, userIdsHold, alike.identity]
  | userList list =>
    simp only [holds, userListHolds, alike.identity, inList_congr alike.settings]
  | userAgent operand => rw [holds, holds, userAgentHolds, userAgentHolds, alike.agent]
  | _ => rw [holds, holds]

/-- Evaluating a condition gives the same and makes the same calls for users who do not differ in
what it names, and gateway data do not matter unless it requires them. -/
theorem condition_depends_on_what_it_names {σ : Type} (services : Services σ)
    (alike : SeesAlike first second seen seen' segment) (journal : Journal σ) :
    (holds first seen segment).run services journal =
        (holds second seen' segment).run services journal ∧
      (segment.requiresGateway = false → ∀ own fetched,
        (holds ⟨first.settings, { first.user with gateway := own }, fetched⟩ seen segment).run
            services journal =
          (holds first seen segment).run services journal) := by
  refine ⟨by rw [holds_congr alike], fun free own fetched => ?_⟩
  have blind : SeesAlike ⟨first.settings, { first.user with gateway := own }, fetched⟩ first seen
      seen segment := by
    refine ⟨rfl, rfl, rfl, rfl, rfl, fun _ _ => rfl, fun required => ?_, fun required => ?_⟩
    · exact absurd (free.symm.trans required) Bool.false_ne_true
    · exact absurd (free.symm.trans required) Bool.false_ne_true
  rw [holds_congr blind]

end Congr

/-- A condition for those of a list who have a plan. -/
def planners : Segment := .and [.customVariable "plan" (.equals "pro"), .userList "beta"]

/-- The same for those who are not in one country. -/
def plannersAbroad : Segment := .and [planners, .not (.and [.location .country "FR"])]

/-- A user who brings along where she is. -/
def broughtScope : Scope Binary64 where
  settings := .empty
  user := { id := "ann", ipAddress := some "10.0.0.1",
            gateway := some { location := [("country", "US"), ("city", "Boston")] } }

/-- The same user at another address, of whom the same has been fetched. -/
def fetchedScope : Scope Binary64 where
  settings := .empty
  user := { id := "ann", ipAddress := some "10.0.0.2" }
  fetched := some { location := [("city", "Boston"), ("country", "US")] }

/-- The result of a condition for a user, where all are on all lists, and what has happened. -/
def onLists (scope : Scope Binary64) (values : List (String × Attribute)) (segment : Segment) :
    Bool × Journal Unit :=
  (holds scope ⟨values, some "ann"⟩ segment).run
    (Services.fixed (fun _ _ => .ok none) (fun _ => .ok (some "true")) fun _ => .ok none)
    ⟨(), [], []⟩

/-- A colour does not count for a condition that does not name it, nor does the address, where the
places come from, and in which order. Without a country in the condition no places count. -/
theorem colour_and_address_do_not_count :
    SeesAlike broughtScope fetchedScope
        ⟨[("colour", .string "red"), ("plan", .string "pro")], some "ann"⟩
        ⟨[("plan", .string "pro")], some "ann"⟩ plannersAbroad ∧
      (onLists fetchedScope [("plan", .string "pro")] plannersAbroad).1 = true ∧
      (onLists broughtScope [("colour", .string "red"), ("plan", .string "pro")] plannersAbroad) =
        onLists fetchedScope [("plan", .string "pro")] plannersAbroad ∧
      planners.requiresGateway = false ∧
      onLists { fetchedScope with fetched := none } [("plan", .string "pro")] planners =
        onLists fetchedScope [("plan", .string "pro")] planners := by
  have alike : SeesAlike broughtScope fetchedScope
      ⟨[("colour", .string "red"), ("plan", .string "pro")], some "ann"⟩
      ⟨[("plan", .string "pro")], some "ann"⟩ plannersAbroad := by
    refine ⟨rfl, rfl, rfl, rfl, rfl, by decide, fun _ name => ?_, fun _ entry => Iff.rfl⟩
    change List.lookup name [("country", "US"), ("city", "Boston")] =
      List.lookup name [("city", "Boston"), ("country", "US")]
    simp only [lookup_cons_ite]
    by_cases country : "country" = name
    · subst country
      rfl
    · rw [if_neg country, if_neg country]
  have itself : SeesAlike fetchedScope fetchedScope ⟨[("plan", .string "pro")], some "ann"⟩
      ⟨[("plan", .string "pro")], some "ann"⟩ planners :=
    ⟨rfl, rfl, rfl, rfl, rfl, fun _ _ => rfl, fun _ _ => rfl, fun _ _ => Iff.rfl⟩
  obtain ⟨same, -⟩ := condition_depends_on_what_it_names
    (Services.fixed (fun _ _ => .ok none) (fun _ => .ok (some "true")) fun _ => .ok none) alike
    ⟨(), [], []⟩
  obtain ⟨-, blind⟩ := condition_depends_on_what_it_names
    (Services.fixed (fun _ _ => .ok none) (fun _ => .ok (some "true")) fun _ => .ok none) itself
    ⟨(), [], []⟩
  exact ⟨alike, by decide +kernel, same, rfl, blind rfl none none⟩

end Segment

end FeatureFlags
