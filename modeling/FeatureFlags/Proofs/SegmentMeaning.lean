import FeatureFlags.Proofs.Gathering

namespace FeatureFlags

theorem DeviceKey.named?_eq_some_iff (name : String) (key : DeviceKey) :
    DeviceKey.named? name = some key ↔ key.name = name := by
  unfold DeviceKey.named?
  constructor
  · intro found
    simpa using List.find?_some found
  · rintro rfl
    cases key <;> decide

namespace Segment

variable {ω : Type}

/-- The user has an address and is known to be in all these places. Quotes and blanks around values
do not count. -/
def InPlaces (scope : Scope ω) (places : List (LocationKey × String)) : Prop :=
  scope.user.ip?.isSome ∧ ∃ data, scope.gateway? = some data ∧ data.location ≠ [] ∧
    ∀ key value, (key, value) ∈ places → ∃ found,
      data.location.lookup key.name = some found ∧ unquote found.toList = unquote value.toList

/-- The user has an agent, and one of these leaves names a value that its device is known to
have. -/
def OnDevices (scope : Scope ω) (devices : List (DeviceKey × List DeviceMatcher)) : Prop :=
  scope.user.agent?.isSome ∧ ∃ data, scope.gateway? = some data ∧
    ∃ key values, (key, values) ∈ devices ∧ ∃ actual, (key.name, actual) ∈ data.device ∧
      ∃ matcher ∈ values, matcher.accepts actual

/-- There is such a feature, and a decision about it is kept for the user or not, as the toggle
says. -/
def Toggled (scope : Scope ω) (replies : Replies) (feature : UInt64) (toggle : Toggle) : Prop :=
  ∃ f, scope.settings.featureById? feature = some f ∧
    (toggle = .on ↔ ∃ record, replies.record f.key scope.user.id = some record ∧ record.hasDecision)

/-- The list has a name, and the service affirms that the tag is in it. -/
def InList (scope : Scope ω) (replies : Replies) (list tag : String) : Prop :=
  list ≠ "" ∧ replies.member ⟨tag, list, scope.settings.account⟩

/-- What an operand asks of a tag. -/
def Accepts (scope : Scope ω) (replies : Replies) (tag : String) : Operand → Prop
  | .inList list => InList scope replies list tag
  | operand => operand.accepts tag

/-- What a condition says about a user, whatever the order in which its parts are looked at. Places
in a conjunction and devices in an alternative have a meaning only together, and toggles only in an
alternative. -/
def Means (scope : Scope ω) (replies : Replies) (attributes : Attributes) : Segment → Prop
  | .not child => ¬ Means scope replies attributes child
  | .and children =>
    (JointPlaces children → InPlaces scope (children.filterMap location?)) ∧
      (¬ JointPlaces children → ∀ child, (_ : child ∈ children) → child.location? = none →
        Means scope replies attributes child)
  | .or children =>
    (JointDevices children → OnDevices scope (children.filterMap device?)) ∧
      (¬ JointDevices children →
        (∃ child, ∃ _ : child ∈ children.takeWhile fun child => child.toggle?.isNone,
          Means scope replies attributes child) ∨
        ∃ feature toggle, children.findSome? toggle? = some (feature, toggle) ∧
          Toggled scope replies feature toggle)
  | .customVariable name operand =>
    ∃ tag, attributes.tag? name = some tag ∧ Accepts scope replies tag operand
  | .userIds ids => ∃ identity, attributes.tag? identityName = some identity ∧ identity ∈ ids
  | .userList list =>
    ∃ identity, attributes.tag? identityName = some identity ∧ InList scope replies list identity
  | .userAgent operand =>
    ∃ agent, scope.user.agent? = some agent ∧ operand.accepts (plainAgent agent)
  | .location _ _ | .device _ _ | .featureToggle _ _ | .unknown _ => False
termination_by segment => sizeOf segment
decreasing_by
  · simp_wf
  · have smaller := List.sizeOf_lt_of_mem ‹child ∈ children›
    simp_wf
    omega
  · have smaller := List.sizeOf_lt_of_mem ((List.takeWhile_sublist _).subset ‹_›)
    simp_wf
    omega

section Leaves

variable (scope : Scope ω) (replies : Replies)

theorem locationsHold_iff (places : List (LocationKey × String)) :
    (locationsHold scope places).answer replies = true ↔ InPlaces scope places := by
  unfold locationsHold InPlaces
  cases address : scope.user.ip? with
  | none => simp
  | some ip =>
    cases known : scope.gateway? with
    | none => simp
    | some data => simp [Option.any_eq_true]

/-- A classification is accepted when one of the leaves of its key accepts it. -/
theorem gathered_accepts_iff (devices : List (DeviceKey × List DeviceMatcher))
    (name actual : String) :
    (((DeviceKey.named? name).bind fun key => (gathered [] devices).lookup key).any fun matchers =>
      matchers.any (·.accepts actual)) = true ↔
    ∃ key values, (key, values) ∈ devices ∧ key.name = name ∧
      ∃ matcher ∈ values, matcher.accepts actual := by
  have accepted (matchers : Option (List DeviceMatcher)) :
      (matchers.any fun ms => ms.any (·.accepts actual)) = true ↔
        ∃ matcher ∈ matchers.getD [], matcher.accepts actual := by
    cases matchers <;> simp
  rw [accepted]
  cases known : DeviceKey.named? name with
  | none =>
    have unknown (key : DeviceKey) : key.name ≠ name := by
      rw [Ne, ← DeviceKey.named?_eq_some_iff, known]
      simp
    simp [unknown]
  | some key =>
    have only (other : DeviceKey) : other.name = name ↔ key = other := by
      rw [← DeviceKey.named?_eq_some_iff, known, Option.some.injEq]
    simp only [Option.bind_some, mem_lookup_gathered, List.lookup_nil, Option.getD_none,
      List.not_mem_nil, false_or, only]
    constructor
    · rintro ⟨matcher, ⟨values, leaf, member⟩, accepts⟩
      exact ⟨key, values, leaf, rfl, matcher, member, accepts⟩
    · rintro ⟨_, values, leaf, rfl, matcher, member, accepts⟩
      exact ⟨matcher, ⟨values, leaf, member⟩, accepts⟩

theorem devicesHold_iff (devices : List (DeviceKey × List DeviceMatcher)) :
    (devicesHold scope (gathered [] devices)).answer replies = true ↔ OnDevices scope devices := by
  unfold devicesHold OnDevices
  cases agent : scope.user.agent? with
  | none => simp
  | some text =>
    cases known : scope.gateway? with
    | none => simp
    | some data =>
      simp only [Option.isNone_some, Bool.false_eq_true, if_false, Inquiry.answer_pure,
        Option.map_some, Option.getD_some, List.any_eq_true, Option.isSome_some, true_and,
        Option.some.injEq]
      constructor
      · rintro ⟨⟨name, actual⟩, there, accepts⟩
        obtain ⟨key, values, leaf, rfl, matcher⟩ :=
          (gathered_accepts_iff devices name actual).mp accepts
        exact ⟨data, rfl, key, values, leaf, actual, there, matcher⟩
      · rintro ⟨_, rfl, key, values, leaf, actual, there, matcher⟩
        exact ⟨(key.name, actual), there,
          (gathered_accepts_iff devices key.name actual).mpr ⟨key, values, leaf, rfl, matcher⟩⟩

theorem toggleHolds_iff (feature : UInt64) (toggle : Toggle) :
    (toggleHolds scope feature toggle).answer replies = true ↔
      Toggled scope replies feature toggle := by
  unfold toggleHolds Toggled
  cases found : scope.settings.featureById? feature with
  | none => simp
  | some f =>
    simp only [Inquiry.answer]
    cases kept : replies.record f.key scope.user.id <;> cases toggle <;> simp [kept]

theorem inList_iff (list tag : String) :
    (inList scope list tag).answer replies = true ↔ InList scope replies list tag := by
  unfold inList InList
  by_cases nameless : list = ""
  · simp [nameless]
  · have named : list.isEmpty = false := by simpa using nameless
    simp [named, nameless, Inquiry.answer]

theorem customVariableHolds_iff (attributes : Attributes) (name : String) (operand : Operand) :
    (customVariableHolds scope attributes name operand).answer replies = true ↔
      ∃ tag, attributes.tag? name = some tag ∧ Accepts scope replies tag operand := by
  unfold customVariableHolds
  cases found : attributes.tag? name with
  | none => simp
  | some tag =>
    cases operand with
    | inList list => simp [Accepts, inList_iff]
    | _ => simp [Accepts]

theorem userListHolds_iff (attributes : Attributes) (list : String) :
    (userListHolds scope attributes list).answer replies = true ↔
      ∃ identity, attributes.tag? identityName = some identity ∧
        InList scope replies list identity := by
  unfold userListHolds
  cases found : attributes.tag? identityName with
  | none => simp
  | some identity => simp [inList_iff]

end Leaves

/-- The search for what holds, with its gathering of places and devices and its early ends, finds
what the condition means. -/
theorem answer_holds_iff (scope : Scope ω) (replies : Replies) (attributes : Attributes)
    (segment : Segment) :
    (holds scope attributes segment).answer replies = true ↔
      Means scope replies attributes segment := by
  induction segment using Segment.induction with
  | and children ih =>
    rw [holds_and, Means]
    by_cases joint : JointPlaces children
    · rw [if_pos joint, locationsHold_iff]
      simp only [joint, true_implies, not_true, false_implies, and_true]
    · rw [if_neg joint, Inquiry.answer_all]
      simp only [joint, false_implies, not_false_iff, true_and, true_implies, List.all_map,
        List.all_eq_true, List.mem_filter, Option.isNone_iff_eq_none, Function.comp_apply]
      constructor
      · intro all child member other
        exact (ih child member).mp (all child ⟨member, other⟩)
      · rintro all child ⟨member, other⟩
        exact (ih child member).mpr (all child member other)
  | or children ih =>
    rw [holds_or, Means]
    by_cases joint : JointDevices children
    · rw [if_pos joint, devicesHold_iff]
      simp only [joint, true_implies, not_true, false_implies, and_true]
    · rw [if_neg joint, Inquiry.answer_anyElse]
      simp only [joint, false_implies, not_false_iff, true_and, true_implies, Bool.or_eq_true,
        List.any_map, List.any_eq_true, Function.comp_apply]
      refine or_congr ?_ ?_
      · constructor
        · rintro ⟨child, before, held⟩
          exact ⟨child, before, (ih child (List.takeWhile_subset _ before)).mp held⟩
        · rintro ⟨child, before, means⟩
          exact ⟨child, before, (ih child (List.takeWhile_subset _ before)).mpr means⟩
      · unfold firstToggleHolds
        cases first : children.findSome? toggle? with
        | none => simp
        | some found =>
          obtain ⟨feature, toggle⟩ := found
          simp only [toggleHolds_iff, Option.some.injEq, Prod.mk.injEq]
          constructor
          · intro toggled
            exact ⟨feature, toggle, ⟨rfl, rfl⟩, toggled⟩
          · rintro ⟨_, _, ⟨rfl, rfl⟩, toggled⟩
            exact toggled
  | not child ih =>
    simp only [holds, Inquiry.answer_bind, Inquiry.answer_pure, Means, ← ih, Bool.not_eq_true',
      Bool.not_eq_true]
  | customVariable name operand => rw [holds, Means, customVariableHolds_iff]
  | userIds ids => simp [holds, Means, userIdsHold, Option.any_eq_true]
  | userList list => rw [holds, Means, userListHolds_iff]
  | userAgent operand => simp [holds, Means, userAgentHolds, Option.any_eq_true]
  | _ => simp [holds, Means]

/-- Carrying out a condition gives exactly its meaning, whenever the replies of the storage and of
the list service depend on what they are asked alone. -/
theorem holds_run_iff_means (read : String → String → Except ServiceError (Option Record))
    (list : ListQuery → Except ServiceError (Option String))
    (gateway : GatewayQuery → Except ServiceError (Option String)) (scope : Scope ω)
    (attributes : Attributes) (segment : Segment) (journal : Journal Unit) :
    ((holds scope attributes segment).run (Services.fixed read list gateway) journal).1 = true ↔
      Means scope (.ofFixed read list gateway) attributes segment := by
  rw [Inquiry.run_fixed, answer_holds_iff]

end Segment

end FeatureFlags
