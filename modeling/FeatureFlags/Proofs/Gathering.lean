import FeatureFlags.Targeting
import FeatureFlags.Proofs.Replies

namespace FeatureFlags

namespace Inquiry

/-- Whether all questions are affirmed, asked in order up to the first that is not. -/
def all : List (Inquiry Bool) → Inquiry Bool
  | [] => pure true
  | x :: rest => do
    let held ← x
    if held then all rest else pure false

/-- Whether some question is affirmed, asked in order up to the first that is; when none is, the
last one decides. -/
def anyElse (last : Inquiry Bool) : List (Inquiry Bool) → Inquiry Bool
  | [] => last
  | x :: rest => do
    let held ← x
    if held then pure true else anyElse last rest

theorem answer_all (replies : Replies) (xs : List (Inquiry Bool)) :
    (all xs).answer replies = xs.all fun x => x.answer replies := by
  induction xs with
  | nil => rfl
  | cons x rest ih =>
    simp only [all, answer_bind, List.all_cons]
    cases x.answer replies
    · rfl
    · simpa using ih

theorem answer_anyElse (replies : Replies) (last : Inquiry Bool) (xs : List (Inquiry Bool)) :
    (anyElse last xs).answer replies =
      ((xs.any fun x => x.answer replies) || last.answer replies) := by
  induction xs with
  | nil => rfl
  | cons x rest ih =>
    simp only [anyElse, answer_bind, List.any_cons]
    cases x.answer replies
    · simpa using ih
    · rfl

end Inquiry

namespace Segment

variable {ω : Type}

def location? : Segment → Option (LocationKey × String)
  | .location key value => some (key, value)
  | _ => none

def device? : Segment → Option (DeviceKey × List DeviceMatcher)
  | .device key values => some (key, values)
  | _ => none

def toggle? : Segment → Option (UInt64 × Toggle)
  | .featureToggle feature toggle => some (feature, toggle)
  | _ => none

/-- Induction along conditions: what holds of all children of a node holds of the node. -/
@[elab_as_elim]
theorem induction {motive : Segment → Prop}
    (and : ∀ children, (∀ child ∈ children, motive child) → motive (.and children))
    (or : ∀ children, (∀ child ∈ children, motive child) → motive (.or children))
    (not : ∀ child, motive child → motive (.not child))
    (customVariable : ∀ name operand, motive (.customVariable name operand))
    (userIds : ∀ ids, motive (.userIds ids)) (userList : ∀ list, motive (.userList list))
    (userAgent : ∀ operand, motive (.userAgent operand))
    (location : ∀ key value, motive (.location key value))
    (device : ∀ key values, motive (.device key values))
    (featureToggle : ∀ feature toggle, motive (.featureToggle feature toggle))
    (unknown : ∀ name, motive (.unknown name)) (segment : Segment) : motive segment := by
  have step (child : Segment) (smaller : sizeOf child < sizeOf segment) : motive child :=
    induction and or not customVariable userIds userList userAgent location device featureToggle
      unknown child
  cases segment with
  | and children =>
    refine and children fun child member => step child ?_
    have smaller := List.sizeOf_lt_of_mem member
    simp only [Segment.and.sizeOf_spec]
    omega
  | or children =>
    refine or children fun child member => step child ?_
    have smaller := List.sizeOf_lt_of_mem member
    simp only [Segment.or.sizeOf_spec]
    omega
  | not child => exact not child (step child (by simp))
  | customVariable name operand => exact customVariable name operand
  | userIds ids => exact userIds ids
  | userList list => exact userList list
  | userAgent operand => exact userAgent operand
  | location key value => exact location key value
  | device key values => exact device key values
  | featureToggle feature toggle => exact featureToggle feature toggle
  | unknown name => exact unknown name
termination_by sizeOf segment

/-- A conjunction asks for places together: for at least one, for nothing else, and for nothing
twice. -/
def JointPlaces (children : List Segment) : Prop :=
  children ≠ [] ∧ (∀ child ∈ children, child.location?.isSome) ∧
    ((children.filterMap location?).map (·.1)).Nodup

/-- An alternative asks for devices together: for at least one, and for nothing else. -/
def JointDevices (children : List Segment) : Prop :=
  children ≠ [] ∧ ∀ child ∈ children, child.device?.isSome

instance (children : List Segment) : Decidable (JointPlaces children) :=
  inferInstanceAs (Decidable (_ ∧ _ ∧ _))

instance (children : List Segment) : Decidable (JointDevices children) :=
  inferInstanceAs (Decidable (_ ∧ _))

section Listed

variable {κ α : Type} [DecidableEq κ]

theorem lookup_cons_ite {key other : κ} {a : α} {rest : List (κ × α)} :
    List.lookup other ((key, a) :: rest) = if key = other then some a else rest.lookup other := by
  by_cases same : key = other
  · simp [same]
  · have apart : (other == key) = false := beq_eq_false_iff_ne.mpr (Ne.symm same)
    rw [List.lookup_cons, apart, if_neg same]

/-- A new key is listed last. -/
theorem listed_of_new {key : κ} (change : Option α → α) {entries : List (κ × α)}
    (new : key ∉ entries.map (·.1)) :
    listed key change entries = entries ++ [(key, change none)] := by
  induction entries with
  | nil => rfl
  | cons entry rest ih =>
    simp only [List.map_cons, List.mem_cons, not_or] at new
    simp only [listed, if_neg (Ne.symm new.1), ih new.2, List.cons_append]

theorem listed_keys_of_old {key : κ} (change : Option α → α) {entries : List (κ × α)}
    (old : key ∈ entries.map (·.1)) :
    (listed key change entries).map (·.1) = entries.map (·.1) := by
  induction entries with
  | nil => simp at old
  | cons entry rest ih =>
    by_cases same : entry.1 = key
    · simp only [listed, if_pos same, List.map_cons]
    · simp only [List.map_cons, List.mem_cons, Ne.symm same, false_or] at old
      simp only [listed, if_neg same, List.map_cons, ih old]

theorem lookup_listed {key other : κ} {change : Option α → α} {entries : List (κ × α)} :
    (listed key change entries).lookup other =
      if key = other then some (change (entries.lookup key)) else entries.lookup other := by
  induction entries with
  | nil => rw [listed, lookup_cons_ite]; rfl
  | cons entry rest ih =>
    obtain ⟨first, a⟩ := entry
    by_cases old : first = key
    · subst old
      simp only [listed, if_true, lookup_cons_ite]
      split <;> rfl
    · simp only [listed, if_neg old, lookup_cons_ite, ih]
      by_cases same : key = other
      · subst same
        simp only [if_neg old, if_true]
      · simp only [if_neg same]

/-- Listing does not repeat a key. -/
theorem listed_keys_nodup {key : κ} (change : Option α → α) {entries : List (κ × α)}
    (distinct : (entries.map (·.1)).Nodup) :
    ((listed key change entries).map (·.1)).Nodup := by
  by_cases old : key ∈ entries.map (·.1)
  · rwa [listed_keys_of_old change old]
  · rw [listed_of_new change old, List.map_append]
    refine List.nodup_append.mpr ⟨distinct, by simp, ?_⟩
    rintro k member _ single rfl
    simp only [List.map_cons, List.map_nil, List.mem_singleton] at single
    exact old (single ▸ member)

theorem listed_length_of_old {key : κ} (change : Option α → α) {entries : List (κ × α)}
    (old : key ∈ entries.map (·.1)) : (listed key change entries).length = entries.length := by
  simpa only [List.length_map] using congrArg List.length (listed_keys_of_old change old)

end Listed

/-- When all that is still to be seen are places of new keys, the whole gathering decides. -/
theorem everyHolds_of_joint (scope : Scope ω) (attributes : Attributes) (total : Nat)
    (rest : List Segment) (places : List (LocationKey × String)) (some : rest ≠ [])
    (only : ∀ child ∈ rest, child.location?.isSome)
    (distinct : ((places ++ rest.filterMap location?).map (·.1)).Nodup)
    (count : places.length + rest.length = total) :
    everyHolds scope attributes total places rest =
      locationsHold scope (places ++ rest.filterMap location?) := by
  induction rest generalizing places with
  | nil => exact absurd rfl some
  | cons child rest ih =>
    have place := only child (List.mem_cons_self ..)
    cases child with
    | location key value =>
      have split : (places ++ [(key, value)]) ++ rest.filterMap location? =
          places ++ (Segment.location key value :: rest).filterMap location? := by
        simp [location?]
      have new : key ∉ places.map (·.1) := by
        rw [← split, List.map_append, List.map_append] at distinct
        have apart := (List.nodup_append.mp (List.nodup_append.mp distinct).1).2.2
        intro member
        exact apart key member key (by simp) rfl
      simp only [everyHolds, listed_of_new _ new]
      by_cases last : rest = []
      · subst last
        rw [if_pos (by simpa using count)]
        simp [location?]
      · have longer : 0 < rest.length := List.length_pos_iff.mpr last
        rw [if_neg (by simp only [List.length_append, List.length_cons, List.length_nil] at *; omega),
          ← split]
        refine ih _ last (fun c member => only c (List.mem_cons_of_mem _ member))
          (by rwa [split]) ?_
        simp only [List.length_append, List.length_cons, List.length_nil] at *
        omega
    | _ => simp [location?] at place

/-- When something that is still to be seen is no place or a place of an old key, or something seen
was, the places never decide, and the other children are asked one by one. -/
theorem everyHolds_of_not_joint (scope : Scope ω) (attributes : Attributes) (total : Nat)
    (rest : List Segment) (places : List (LocationKey × String))
    (distinct : (places.map (·.1)).Nodup) (room : places.length + rest.length ≤ total)
    (apart : places.length + rest.length = total → (∀ child ∈ rest, child.location?.isSome) →
      ((places ++ rest.filterMap location?).map (·.1)).Nodup → rest = []) :
    everyHolds scope attributes total places rest =
      Inquiry.all ((rest.filter fun child => child.location?.isNone).map (holds scope attributes)) := by
  induction rest generalizing places with
  | nil => rfl
  | cons child rest ih =>
    rw [List.length_cons] at room apart
    -- Once fewer places are gathered than children seen, the count is out of reach.
    have behind (places' : List (LocationKey × String)) (distinct' : (places'.map (·.1)).Nodup)
        (fewer : places'.length + rest.length < total) :=
      ih places' distinct' (Nat.le_of_lt fewer) fun count => absurd count (Nat.ne_of_lt fewer)
    cases child with
    | location key value =>
      have distinct' : ((listed key (fun _ => value) places).map (·.1)).Nodup :=
        listed_keys_nodup _ distinct
      rw [everyHolds, List.filter_cons_of_neg (by simp [location?])]
      by_cases old : key ∈ places.map (·.1)
      · have length := listed_length_of_old (fun _ => value) old
        rw [if_neg (by omega)]
        exact behind _ distinct' (by omega)
      · have shape := listed_of_new (fun _ => value) old
        have split : places ++ (Segment.location key value :: rest).filterMap location? =
            listed key (fun _ => value) places ++ rest.filterMap location? := by
          simp [shape, location?]
        have length : (listed key (fun _ => value) places).length = places.length + 1 := by
          simp [shape]
        rw [split] at apart
        by_cases full : places.length + 1 = total
        · have none : rest = [] := List.length_eq_zero_iff.mp (by omega)
          subst none
          have unmet := apart (by simpa using full) (by simp [location?]) (by simpa using distinct')
          simp at unmet
        · rw [if_neg (by omega)]
          refine ih _ distinct' (by omega) fun count only nodup => ?_
          have unmet := apart (by omega) ?_ nodup
          · simp at unmet
          · rintro c (_ | ⟨_, member⟩)
            · rfl
            · exact only c member
    | _ =>
      rw [List.filter_cons_of_pos (by rfl), List.map_cons, Inquiry.all, everyHolds]
      · rw [behind places distinct (by omega)]
      · simp

/-- The devices that leaves ask for, with the values of all leaves of one key together. -/
def gathered (devices leaves : List (DeviceKey × List DeviceMatcher)) :
    List (DeviceKey × List DeviceMatcher) :=
  leaves.foldl (fun before leaf => withDevices leaf.1 leaf.2 before) devices

theorem mem_lookup_withDevices {key other : DeviceKey} {values : List DeviceMatcher}
    {devices : List (DeviceKey × List DeviceMatcher)} {matcher : DeviceMatcher} :
    matcher ∈ ((withDevices key values devices).lookup other).getD [] ↔
      matcher ∈ (devices.lookup other).getD [] ∨ key = other ∧ matcher ∈ values := by
  rw [withDevices, lookup_listed]
  by_cases same : key = other
  · subst same
    simp
  · simp [same]

/-- Gathering by key loses no value and adds none. -/
theorem mem_lookup_gathered {key : DeviceKey} {matcher : DeviceMatcher}
    {devices leaves : List (DeviceKey × List DeviceMatcher)} :
    matcher ∈ ((gathered devices leaves).lookup key).getD [] ↔
      matcher ∈ (devices.lookup key).getD [] ∨
        ∃ values, (key, values) ∈ leaves ∧ matcher ∈ values := by
  induction leaves generalizing devices with
  | nil => simp [gathered]
  | cons leaf rest ih =>
    rw [gathered, List.foldl_cons, ← gathered, ih, mem_lookup_withDevices]
    obtain ⟨first, values⟩ := leaf
    constructor
    · rintro ((before | ⟨rfl, here⟩) | ⟨later, member, inLater⟩)
      · exact Or.inl before
      · exact Or.inr ⟨values, List.mem_cons_self .., here⟩
      · exact Or.inr ⟨later, List.mem_cons_of_mem _ member, inLater⟩
    · rintro (before | ⟨found, member, inFound⟩)
      · exact Or.inl (Or.inl before)
      · rcases List.mem_cons.mp member with same | later
        · cases same
          exact Or.inl (Or.inr ⟨rfl, inFound⟩)
        · exact Or.inr ⟨found, later, inFound⟩

/-- When all that is still to be seen are device leaves, like all before, the whole gathering
decides. -/
theorem someHolds_of_joint (scope : Scope ω) (attributes : Attributes) (total : Nat)
    (rest : List Segment) (devices : List (DeviceKey × List DeviceMatcher)) (seen : Nat)
    (some : rest ≠ []) (only : ∀ child ∈ rest, child.device?.isSome)
    (count : seen + rest.length = total) :
    someHolds scope attributes total devices seen rest =
      devicesHold scope (gathered devices (rest.filterMap device?)) := by
  induction rest generalizing devices seen with
  | nil => exact absurd rfl some
  | cons child rest ih =>
    have leaf := only child (List.mem_cons_self ..)
    rw [List.length_cons] at count
    cases child with
    | device key values =>
      rw [someHolds]
      by_cases last : rest = []
      · subst last
        rw [if_pos (by simpa using count)]
        rfl
      · have longer : 0 < rest.length := List.length_pos_iff.mpr last
        rw [if_neg (by omega)]
        exact ih _ _ last (fun c member => only c (List.mem_cons_of_mem _ member)) (by omega)
    | _ => simp [device?] at leaf

/-- What the first toggle among some children says. -/
def firstToggleHolds (scope : Scope ω) (children : List Segment) : Inquiry Bool :=
  match children.findSome? toggle? with
  | some (feature, toggle) => toggleHolds scope feature toggle
  | none => pure false

/-- When something that is still to be seen is no device leaf, or something seen was none, devices
never decide: the children before the first toggle are asked one by one, then the toggle. -/
theorem someHolds_of_not_joint (scope : Scope ω) (attributes : Attributes) (total : Nat)
    (rest : List Segment) (devices : List (DeviceKey × List DeviceMatcher)) (seen : Nat)
    (room : seen + rest.length ≤ total)
    (apart : seen + rest.length = total → (∀ child ∈ rest, child.device?.isSome) → rest = []) :
    someHolds scope attributes total devices seen rest =
      Inquiry.anyElse (firstToggleHolds scope rest)
        ((rest.takeWhile fun child => child.toggle?.isNone).map (holds scope attributes)) := by
  induction rest generalizing devices seen with
  | nil => rfl
  | cons child rest ih =>
    rw [List.length_cons] at room apart
    cases child with
    | featureToggle feature toggle =>
      rw [someHolds, List.takeWhile_cons_of_neg (by simp [toggle?])]
      rfl
    | device key values =>
      have unfilled : seen + 1 ≠ total := by
        intro full
        have none : rest = [] := List.length_eq_zero_iff.mp (by omega)
        subst none
        have unmet := apart (by simpa using full) (by simp [device?])
        simp at unmet
      rw [someHolds, if_neg unfilled, List.takeWhile_cons_of_pos (by rfl), ih _ _ (by omega)]
      · rfl
      · intro count only
        have unmet := apart (by omega) ?_
        · simp at unmet
        · rintro c (_ | ⟨_, member⟩)
          · rfl
          · exact only c member
    | _ =>
      rw [someHolds, List.takeWhile_cons_of_pos (by rfl),
        ih devices seen (by omega) fun count => absurd count (by omega)]
      · rfl
      · simp
      · simp

/-- A conjunction asks for its places together when it can, else for all else one by one. -/
theorem holds_and (scope : Scope ω) (attributes : Attributes) (children : List Segment) :
    holds scope attributes (.and children) =
      if JointPlaces children then locationsHold scope (children.filterMap location?)
      else Inquiry.all
        ((children.filter fun child => child.location?.isNone).map (holds scope attributes)) := by
  rw [holds]
  by_cases joint : JointPlaces children
  · rw [if_pos joint]
    exact everyHolds_of_joint scope attributes _ children [] joint.1 joint.2.1 joint.2.2
      (by simp)
  · rw [if_neg joint]
    refine everyHolds_of_not_joint scope attributes _ children [] (by simp) (by simp) ?_
    intro _ only distinct
    exact Decidable.byContradiction fun some => joint ⟨some, only, distinct⟩

/-- An alternative asks for its devices together when it can, else for one child after the other. -/
theorem holds_or (scope : Scope ω) (attributes : Attributes) (children : List Segment) :
    holds scope attributes (.or children) =
      if JointDevices children then devicesHold scope (gathered [] (children.filterMap device?))
      else Inquiry.anyElse (firstToggleHolds scope children)
        ((children.takeWhile fun child => child.toggle?.isNone).map (holds scope attributes)) := by
  rw [holds]
  by_cases joint : JointDevices children
  · rw [if_pos joint]
    exact someHolds_of_joint scope attributes _ children [] 0 joint.1 joint.2 (by simp)
  · rw [if_neg joint]
    refine someHolds_of_not_joint scope attributes _ children [] 0 (by simp) ?_
    intro _ only
    exact Decidable.byContradiction fun some => joint ⟨some, only⟩

end Segment

end FeatureFlags
