import FeatureFlags.Proofs.CallOrder
import Mathlib.Data.List.TakeWhile

namespace FeatureFlags

namespace Inquiry

variable {σ : Type} (services : Services σ) (xs ys : List (Inquiry Bool)) (journal : Journal σ)

/-- Once a question is not affirmed, no further one is asked. -/
theorem run_all_append (refused : ((all xs).run services journal).1 = false) :
    (all (xs ++ ys)).run services journal = (all xs).run services journal := by
  induction xs generalizing journal with
  | nil => cases refused
  | cons x rest ih =>
    simp only [List.cons_append, all, run_bind] at refused ⊢
    cases held : (x.run services journal).1 with
    | false => rfl
    | true =>
      rw [held, if_pos rfl] at refused
      simp only [if_true]
      exact ih _ refused

/-- Once a question is affirmed, no further one is asked, and the last one does not count. -/
theorem run_anyElse_append (last other : Inquiry Bool)
    (affirmed : ((anyElse (pure false) xs).run services journal).1 = true) :
    (anyElse last (xs ++ ys)).run services journal = (anyElse other xs).run services journal := by
  induction xs generalizing journal with
  | nil => cases affirmed
  | cons x rest ih =>
    simp only [List.cons_append, anyElse, run_bind] at affirmed ⊢
    cases held : (x.run services journal).1 with
    | true => rfl
    | false =>
      rw [held, if_neg Bool.false_ne_true] at affirmed
      simp only [Bool.false_eq_true, if_false]
      exact ih _ affirmed

end Inquiry

namespace Segment

variable {ω σ : Type}

theorem sizeOf_le_of_sublist {some all : List Segment} (within : some.Sublist all) :
    sizeOf some ≤ sizeOf all := by
  induction within with
  | slnil => exact Nat.le_refl _
  | cons child _ ih =>
    simp only [List.cons.sizeOf_spec]
    omega
  | cons_cons child _ ih =>
    simp only [List.cons.sizeOf_spec]
    omega

/-- The children of a conjunction that are asked one by one. -/
def others (children : List Segment) : List Segment :=
  children.filter fun child => child.location?.isNone

/-- The children of an alternative that stand before its first toggle. -/
def untoggled (children : List Segment) : List Segment :=
  children.takeWhile fun child => child.toggle?.isNone

section Calls

variable (services : Services σ) (scope : Scope ω) (attributes : Attributes)

/-- What a condition comes to in a world of the collaborators, and the world that it leaves. -/
def outcome (segment : Segment) (world : σ) : Bool × σ :=
  let (held, journal) := (holds scope attributes segment).run services ⟨world, [], []⟩
  (held, journal.world)

/-- Whether one of some children comes to `decisive`, when they are asked in turn up to the first that
does. -/
def decided (decisive : Bool) : List Segment → σ → Bool
  | [], _ => false
  | child :: rest, world =>
    let (held, later) := outcome services scope attributes child world
    held == decisive || decided decisive rest later

/-- A list is asked for if it has a name and there is an attribute to ask about. -/
def listCalls (tag : Option String) (list : String) : List Call :=
  match tag with
  | some tag => if list = "" then [] else [.list ⟨tag, list, scope.settings.account⟩]
  | none => []

/-- A toggle reads the record of its feature, if there is such a feature. -/
def toggleCalls (feature : UInt64) : List Call :=
  match scope.settings.featureById? feature with
  | some f => [.read f.key scope.user.id]
  | none => []

mutual

/-- The calls that a condition makes in a world of the collaborators, in order. -/
def calls : Segment → σ → List Call
  | .not child, world => calls child world
  | .and children, world => callsUntil false (others children) world
  | .or children, world =>
    callsUntil true (untoggled children) world ++
      if decided services scope attributes true (untoggled children) world then []
      else (children.findSome? toggle?).elim [] fun (feature, _) => toggleCalls scope feature
  | .customVariable name (.inList list), _ => listCalls scope (attributes.tag? name) list
  | .userList list, _ => listCalls scope (attributes.tag? identityName) list
  | _, _ => []
termination_by segment => sizeOf segment
decreasing_by
  · simp_wf
  · have smaller : sizeOf (others children) ≤ sizeOf children :=
      sizeOf_le_of_sublist List.filter_sublist
    simp_wf
    omega
  · have smaller : sizeOf (untoggled children) ≤ sizeOf children :=
      sizeOf_le_of_sublist (List.takeWhile_sublist _)
    simp_wf
    omega

/-- The calls of children that are asked in turn, up to and including the first that comes to
`decisive`. Each is asked in the world that those before it have left. -/
def callsUntil (decisive : Bool) : List Segment → σ → List Call
  | [], _ => []
  | child :: rest, world =>
    let (held, later) := outcome services scope attributes child world
    calls child world ++ if held = decisive then [] else callsUntil decisive rest later
termination_by children => sizeOf children

end

variable {services scope attributes}

theorem run_outcome (segment : Segment) (journal : Journal σ) :
    let ended := (holds scope attributes segment).run services journal
    outcome services scope attributes segment journal.world = (ended.1, ended.2.world) := by
  have alone := Inquiry.run_of_world services (holds scope attributes segment)
    (show (⟨journal.world, [], []⟩ : Journal σ).world = journal.world from rfl)
  exact Prod.ext alone.1 alone.2

/-- A conjunction of children is refused if one of them decides it. -/
theorem run_all_of_decided {children : List Segment} {journal : Journal σ}
    (refused : decided services scope attributes false children journal.world = true) :
    ((Inquiry.all (children.map (holds scope attributes))).run services journal).1 = false := by
  induction children generalizing journal with
  | nil => cases refused
  | cons child rest ih =>
    simp only [decided, run_outcome child journal] at refused
    rw [List.map_cons, Inquiry.all, Inquiry.run_bind]
    cases held : ((holds scope attributes child).run services journal).1 with
    | false => rfl
    | true =>
      rw [held, Bool.or_eq_true] at refused
      rw [if_pos rfl]
      exact ih (refused.resolve_left Bool.false_ne_true)

/-- An alternative of children holds exactly if one of them decides it. -/
theorem run_anyElse_eq_decided (children : List Segment) (journal : Journal σ) :
    ((Inquiry.anyElse (pure false) (children.map (holds scope attributes))).run services journal).1 =
      decided services scope attributes true children journal.world := by
  induction children generalizing journal with
  | nil => rfl
  | cons child rest ih =>
    simp only [decided, run_outcome child journal]
    rw [List.map_cons, Inquiry.anyElse, Inquiry.run_bind]
    cases held : ((holds scope attributes child).run services journal).1 with
    | true => rfl
    | false =>
      rw [if_neg Bool.false_ne_true, ih]
      rfl

theorem inList_makes (list tag : String) (journal : Journal σ) :
    (inList scope list tag).Makes services journal (listCalls scope (some tag) list) := by
  unfold inList listCalls
  dsimp only
  by_cases nameless : list = ""
  · rw [nameless]
    exact Inquiry.makes_pure false
  · rw [if_neg (by simpa using nameless), if_neg nameless]
    obtain ⟨later, -, called, run⟩ := Inquiry.run_isMember services journal
      ⟨tag, list, scope.settings.account⟩ pure
    exact .after called run (List.append_nil _).symm

theorem toggleHolds_makes (feature : UInt64) (toggle : Toggle) (journal : Journal σ) :
    (toggleHolds scope feature toggle).Makes services journal (toggleCalls scope feature) := by
  unfold toggleHolds toggleCalls
  cases scope.settings.featureById? feature with
  | none => exact (List.append_nil _).symm
  | some f =>
    obtain ⟨later, -, called, run⟩ := Inquiry.run_read services journal .toggle f.key scope.user.id _
    exact .after called run (List.append_nil _).symm

/-- Asking for all of some children makes the calls up to the first that does not hold. -/
theorem all_makes {children : List Segment}
    (each : ∀ child ∈ children, ∀ journal : Journal σ,
      (holds scope attributes child).Makes services journal
        (calls services scope attributes child journal.world)) (journal : Journal σ) :
    (Inquiry.all (children.map (holds scope attributes))).Makes services journal
      (callsUntil services scope attributes false children journal.world) := by
  induction children generalizing journal with
  | nil =>
    rw [callsUntil]
    exact Inquiry.makes_pure true
  | cons child rest ih =>
    rw [List.map_cons, Inquiry.all, callsUntil, run_outcome child journal]
    refine (each child (List.mem_cons_self ..) journal).bind ?_
    cases ((holds scope attributes child).run services journal).1 with
    | false => exact Inquiry.makes_pure false
    | true => exact ih (fun c inside => each c (List.mem_cons_of_mem _ inside)) _

/-- Asking for any of some children makes the calls up to the first that holds, and if there is none
those of the last question. -/
theorem anyElse_makes {children : List Segment} {last : Inquiry Bool} {lastCalls : List Call}
    (each : ∀ child ∈ children, ∀ journal : Journal σ,
      (holds scope attributes child).Makes services journal
        (calls services scope attributes child journal.world))
    (lasts : ∀ journal : Journal σ, last.Makes services journal lastCalls) (journal : Journal σ) :
    (Inquiry.anyElse last (children.map (holds scope attributes))).Makes services journal
      (callsUntil services scope attributes true children journal.world ++
        if decided services scope attributes true children journal.world then [] else lastCalls) := by
  induction children generalizing journal with
  | nil =>
    rw [callsUntil]
    exact lasts journal
  | cons child rest ih =>
    rw [List.map_cons, Inquiry.anyElse, callsUntil, decided, run_outcome child journal,
      List.append_assoc]
    refine (each child (List.mem_cons_self ..) journal).bind ?_
    cases ((holds scope attributes child).run services journal).1 with
    | true => exact Inquiry.makes_pure true
    | false => exact ih (fun c inside => each c (List.mem_cons_of_mem _ inside)) _

/-- Places that are asked for together make no calls, and neither do devices. -/
theorem locationsHold_makes (expected : List (LocationKey × String)) (journal : Journal σ) :
    (locationsHold scope expected).Makes services journal [] := by
  unfold locationsHold
  split <;> exact (List.append_nil _).symm

theorem devicesHold_makes (expected : List (DeviceKey × List DeviceMatcher)) (journal : Journal σ) :
    (devicesHold scope expected).Makes services journal [] := by
  unfold devicesHold
  split <;> exact (List.append_nil _).symm

theorem others_of_joint {children : List Segment} (joint : JointPlaces children) :
    others children = [] :=
  List.filter_eq_nil_iff.mpr fun child inside => by
    rw [Option.isNone_iff_eq_none]
    exact Option.isSome_iff_ne_none.mp (joint.2.1 child inside)

/-- Device leaves are asked, but do not make calls and do not decide. -/
theorem callsUntil_of_devices {children : List Segment}
    (devices : ∀ child ∈ children, child.device?.isSome) (world : σ) :
    callsUntil services scope attributes true children world = [] ∧
      decided services scope attributes true children world = false := by
  induction children generalizing world with
  | nil => exact ⟨by rw [callsUntil], rfl⟩
  | cons child rest ih =>
    cases child with
    | device key values =>
      obtain ⟨silent, undecided⟩ := ih (fun c inside => devices c (List.mem_cons_of_mem _ inside)) world
      have plain : outcome services scope attributes (.device key values) world = (false, world) := by
        rw [outcome, holds]
        rfl
      refine ⟨?_, ?_⟩
      · rw [callsUntil, plain, calls]
        · exact silent
        all_goals simp
      · rw [decided, plain]
        exact undecided
    | _ => exact absurd (devices _ (List.mem_cons_self ..)) (by simp [device?])

theorem toggle?_of_devices {children : List Segment}
    (devices : ∀ child ∈ children, child.device?.isSome) {child : Segment} (inside : child ∈ children) :
    child.toggle? = none := by
  have device := devices child inside
  cases child <;> first | rfl | cases device

/-- A condition makes exactly these calls. -/
theorem holds_makes (segment : Segment) (journal : Journal σ) :
    (holds scope attributes segment).Makes services journal
      (calls services scope attributes segment journal.world) := by
  induction segment using Segment.induction generalizing journal with
  | and children ih =>
    rw [holds_and, calls]
    by_cases joint : JointPlaces children
    · rw [if_pos joint, others_of_joint joint, callsUntil]
      exact locationsHold_makes _ journal
    · rw [if_neg joint]
      exact all_makes (fun child asked => ih child (List.mem_filter.mp asked).1) journal
  | or children ih =>
    rw [holds_or, calls]
    by_cases joint : JointDevices children
    · have all : untoggled children = children :=
        List.takeWhile_eq_self_iff.mpr fun child inside => by
          rw [toggle?_of_devices joint.2 inside]
          rfl
      have none : children.findSome? toggle? = none :=
        List.findSome?_eq_none_iff.mpr fun child inside => toggle?_of_devices joint.2 inside
      obtain ⟨silent, undecided⟩ := callsUntil_of_devices joint.2 journal.world
      rw [if_pos joint, all, none, silent, undecided]
      exact devicesHold_makes _ journal
    · rw [if_neg joint]
      refine anyElse_makes (fun child asked => ih child (List.takeWhile_subset _ asked))
        (fun journal => ?_) journal
      unfold firstToggleHolds
      cases children.findSome? toggle? with
      | none => exact Inquiry.makes_pure false
      | some found => exact toggleHolds_makes found.1 found.2 journal
  | not child ih =>
    rw [holds, calls]
    rw [← List.append_nil (calls services scope attributes child journal.world)]
    exact (ih journal).bind (Inquiry.makes_pure _)
  | customVariable name operand =>
    rw [holds]
    unfold customVariableHolds
    cases operand with
    | inList list =>
      rw [calls]
      cases attributes.tag? name with
      | none => exact Inquiry.makes_pure false
      | some tag => exact inList_makes list tag journal
    | _ =>
      rw [calls]
      · cases attributes.tag? name <;> exact Inquiry.makes_pure _
      all_goals simp
  | userList list =>
    rw [holds, userListHolds, calls]
    cases attributes.tag? identityName with
    | none => exact Inquiry.makes_pure false
    | some identity => exact inList_makes list identity journal
  | _ =>
    rw [holds, calls]
    · exact Inquiry.makes_pure _
    all_goals simp

theorem not_jointPlaces_of_others {front : List Segment} (asked : others front ≠ [])
    (behind : List Segment) : ¬JointPlaces (front ++ behind) := by
  intro joint
  have none := others_of_joint joint
  unfold others at none asked
  rw [List.filter_append] at none
  exact asked (List.append_eq_nil_iff.mp none).1

/-- What stands behind a toggle is not looked at. -/
theorem untoggled_append (front behind : List Segment) :
    untoggled (front ++ behind) =
      if (front.findSome? toggle?).isSome then untoggled front else front ++ untoggled behind := by
  unfold untoggled
  induction front with
  | nil => rfl
  | cons child rest ih =>
    rw [List.cons_append, List.takeWhile_cons, List.takeWhile_cons, List.findSome?_cons, ih]
    cases child.toggle? with
    | some toggle => rfl
    | none =>
      simp only [Option.isNone_none, if_true]
      split <;> rfl

theorem not_jointDevices_of_toggle {front : List Segment}
    (toggled : (front.findSome? toggle?).isSome) (behind : List Segment) :
    ¬JointDevices (front ++ behind) := by
  intro joint
  obtain ⟨child, inside, toggle⟩ := List.findSome?_isSome_iff.mp toggled
  rw [toggle?_of_devices joint.2 (List.mem_append_left _ inside)] at toggle
  cases toggle

theorem not_jointDevices_of_decided {front : List Segment} {world : σ}
    (affirmed : decided services scope attributes true front world = true) (behind : List Segment) :
    ¬JointDevices (front ++ behind) := by
  intro joint
  have devices (child : Segment) (inside : child ∈ front) : child.device?.isSome :=
    joint.2 child (List.mem_append_left _ inside)
  rw [(callsUntil_of_devices devices world).2] at affirmed
  cases affirmed

/-- A condition makes exactly the calls of its parts up to the one that decides it. What stands behind
that one changes neither the result nor anything else that happens. -/
theorem calls_end_with_the_deciding_part (services : Services σ) (scope : Scope ω)
    (attributes : Attributes) (journal : Journal σ) :
    (∀ segment, (holds scope attributes segment).Makes services journal
      (calls services scope attributes segment journal.world)) ∧
    (∀ front behind,
      decided services scope attributes false (others front) journal.world = true →
        (holds scope attributes (.and (front ++ behind))).run services journal =
          (holds scope attributes (.and front)).run services journal) ∧
    ∀ front behind,
      decided services scope attributes true (untoggled front) journal.world = true ∨
          (front.findSome? toggle?).isSome →
        (holds scope attributes (.or (front ++ behind))).run services journal =
          (holds scope attributes (.or front)).run services journal := by
  refine ⟨fun segment => holds_makes segment journal, fun front behind refused => ?_,
    fun front behind settled => ?_⟩
  · have asked : others front ≠ [] := fun none => by
      rw [none] at refused
      cases refused
    have apart := not_jointPlaces_of_others asked behind
    have alone : ¬JointPlaces front := by simpa using not_jointPlaces_of_others asked []
    rw [holds_and, holds_and, if_neg apart, if_neg alone, List.filter_append, List.map_append]
    exact Inquiry.run_all_append _ _ _ _ (run_all_of_decided refused)
  · cases toggled : (front.findSome? toggle?).isSome with
    | true =>
      have apart := not_jointDevices_of_toggle toggled behind
      have alone : ¬JointDevices front := by simpa using not_jointDevices_of_toggle toggled []
      have same : firstToggleHolds scope (front ++ behind) = firstToggleHolds scope front := by
        obtain ⟨toggle, found⟩ := Option.isSome_iff_exists.mp toggled
        unfold firstToggleHolds
        rw [List.findSome?_append, found, Option.some_or]
      have before := untoggled_append front behind
      rw [toggled, if_pos rfl] at before
      unfold untoggled at before
      rw [holds_or, holds_or, if_neg apart, if_neg alone, before, same]
    | false =>
      have before := untoggled_append front behind
      have all : untoggled front = front := by simpa [toggled, untoggled] using untoggled_append front []
      have affirmed := settled.resolve_right (by rw [toggled]; exact Bool.false_ne_true)
      rw [all] at affirmed
      have apart := not_jointDevices_of_decided affirmed behind
      have alone : ¬JointDevices front := by simpa using not_jointDevices_of_decided affirmed []
      rw [toggled, if_neg Bool.false_ne_true] at before
      unfold untoggled at before all
      rw [holds_or, holds_or, if_neg apart, if_neg alone, before, all, List.map_append]
      refine Inquiry.run_anyElse_append _ _ _ _ _ _ ?_
      rw [run_anyElse_eq_decided, affirmed]

end Calls

end Segment

end FeatureFlags
