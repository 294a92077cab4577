import FeatureFlags.Proofs.TrafficBounds
import FeatureFlags.Settings.Decode

namespace FeatureFlags

namespace Json

open Binary64

/-- A double in a text is a number of the format. -/
def Number.InFormat (n : Number) : Prop := ∀ x, n = .double x → x.InFormat

/-- The doubles that a text writes are numbers of the format. -/
inductive Written.InFormat : Written → Prop
  | null : InFormat .null
  | bool (b : Bool) : InFormat (.bool b)
  | number {n : Number} (own : n.InFormat) : InFormat (.number n)
  | string (s : String) : InFormat (.string s)
  | array {items : List Written} (each : ∀ w ∈ items, InFormat w) : InFormat (.array items)
  | object {fields : List (String × Written)} (each : ∀ field ∈ fields, InFormat field.2) :
      InFormat (.object fields)
  | unreadable : InFormat .unreadable

section Parsing

theorem Number.inFormat_of_scaled? {significand : Nat} {e : Int} {x : Binary64}
    (scales : scaled? significand e = some x) : x.InFormat := by
  unfold scaled? at scales
  dsimp only at scales
  split at scales
  · exact Option.some.inj scales ▸ inFormat_ofNat significand
  split at scales
  · cases scales
  split at scales
  · split at scales
    · cases scales
    · exact Option.some.inj scales ▸ inFormat_mul _ _
  split at scales
  · exact Option.some.inj scales ▸ inFormat_div _ _
  split at scales
  · exact Option.some.inj scales ▸ inFormat_div _ _
  · exact Option.some.inj scales ▸ inFormat_zero false

theorem Number.inFormat_of_ofParts? {negative : Bool} {whole : List Char}
    {fraction : Option (List Char)} {exponent : Option Int} {n : Number}
    (reads : ofParts? negative whole fraction exponent = some n) : n.InFormat := by
  rintro x rfl
  unfold ofParts? at reads
  dsimp only at reads
  split at reads
  · split at reads
    · cases reads
    split at reads
    · cases reads
    · obtain rfl := Number.double.inj (Option.some.inj reads)
      exact (inFormat_ofNat _).neg
  · obtain ⟨y, scales, same⟩ := Option.map_eq_some_iff.mp reads
    obtain rfl := Number.double.inj same
    have format := inFormat_of_scaled? scales
    split
    · exact format.neg
    · exact format

theorem inFormat_of_number? {cs rest : List Char} {w : Written}
    (reads : number? cs = some (w, rest)) : w.InFormat := by
  simp only [number?, Option.bind_eq_bind, Option.ite_none_left_eq_some, Option.bind_eq_some_iff,
    Prod.exists] at reads
  obtain ⟨-, fraction, cs', -, exponent, cs'', -, made⟩ := reads
  split at made
  · rename_i n parts
    cases made
    exact .number (Number.inFormat_of_ofParts? parts)
  · cases made
    exact .unreadable

/-- Nothing but numbers of the format is read with this fuel. -/
structure ReadsInFormat (fuel : Nat) : Prop where
  value : ∀ {room cs w rest}, written? fuel room cs = some (w, rest) → w.InFormat
  items : ∀ {room cs ws rest}, items? fuel room cs = some (ws, rest) → ∀ w ∈ ws, w.InFormat
  fields : ∀ {room cs fs rest}, fields? fuel room cs = some (some fs, rest) →
    ∀ field ∈ fs, field.2.InFormat

section Step

variable {fuel room : Nat} {cs rest : List Char} (below : ReadsInFormat fuel)
include below

theorem inFormat_of_items? {ws : List Written}
    (reads : items? (fuel + 1) room cs = some (ws, rest)) : ∀ w ∈ ws, w.InFormat := by
  rw [items?] at reads
  split at reads
  · cases reads
  rename_i w rest' first
  have own := below.value first
  split at reads
  · obtain ⟨⟨ws', rest''⟩, more, same⟩ := Option.map_eq_some_iff.mp reads
    cases same
    exact List.forall_mem_cons.mpr ⟨own, below.items more⟩
  · cases reads
    exact List.forall_mem_singleton.mpr own
  · cases reads

theorem inFormat_of_fields? {fs : List (String × Written)}
    (reads : fields? (fuel + 1) room cs = some (some fs, rest)) :
    ∀ field ∈ fs, field.2.InFormat := by
  rw [fields?] at reads
  split at reads
  swap
  · cases reads
  split at reads
  · cases reads
  rename_i key _ _
  split at reads
  swap
  · cases reads
  split at reads
  · cases reads
  rename_i w rest' first
  have own := below.value first
  dsimp only at reads
  split at reads
  · obtain ⟨⟨later, rest''⟩, more, same⟩ := Option.map_eq_some_iff.mp reads
    -- A key that is unreadable leaves no fields at all.
    cases key with
    | none => cases same
    | some k =>
      cases later with
      | none => cases same
      | some fs' =>
        cases same
        exact List.forall_mem_cons.mpr ⟨own, below.fields more⟩
  · cases key with
    | none => cases reads
    | some k =>
      cases reads
      exact List.forall_mem_singleton.mpr own
  · cases reads

theorem inFormat_of_written? {w : Written}
    (reads : written? (fuel + 1) room cs = some (w, rest)) : w.InFormat := by
  rw [written?] at reads
  split at reads
  · cases reads
    exact .null
  · cases reads
    exact .bool true
  · cases reads
    exact .bool false
  · obtain ⟨⟨s, rest'⟩, -, same⟩ := Option.map_eq_some_iff.mp reads
    cases s with
    | none =>
      cases same
      exact .unreadable
    | some s =>
      cases same
      exact .string s
  · obtain ⟨⟨items, rest'⟩, inner, same⟩ := Option.map_eq_some_iff.mp reads
    have each : ∀ w ∈ items, w.InFormat := by
      split at inner
      · cases inner
        exact List.forall_mem_nil _
      · exact below.items inner
    dsimp only at same
    split at same
    · cases same
      exact .unreadable
    · cases same
      exact .array each
  · obtain ⟨⟨fields, rest'⟩, inner, same⟩ := Option.map_eq_some_iff.mp reads
    cases fields with
    | none =>
      dsimp only [Option.elim_none] at same
      rw [ite_self] at same
      cases same
      exact .unreadable
    | some fields =>
      have each : ∀ field ∈ fields, field.2.InFormat := by
        split at inner
        · cases inner
          exact List.forall_mem_nil _
        · exact below.fields inner
      dsimp only [Option.elim_some] at same
      split at same
      · cases same
        exact .unreadable
      · cases same
        exact .object each
  · exact inFormat_of_number? reads

end Step

theorem readsInFormat (fuel : Nat) : ReadsInFormat fuel := by
  induction fuel with
  | zero => exact ⟨nofun, nofun, nofun⟩
  | succ fuel below =>
    exact ⟨inFormat_of_written? below, inFormat_of_items? below, inFormat_of_fields? below⟩

/-- Whatever a text writes is in the format. -/
theorem Written.inFormat_of_ofText? {text : String} {w : Written}
    (reads : Written.ofText? text = some w) : w.InFormat := by
  unfold Written.ofText? at reads
  dsimp only at reads
  split at reads
  · rename_i w' rest whole
    rw [Option.ite_none_right_eq_some] at reads
    obtain ⟨-, same⟩ := reads
    cases same
    exact (readsInFormat _).value whole
  · cases reads

end Parsing

namespace Written

section Decoding

variable {α β : Type} {read : Written → Option α} {P : α → Prop}

/-- Of what is in the format the reader makes only what has the property. -/
def Yields (read : Written → Option α) (P : α → Prop) : Prop :=
  ∀ w a, w.InFormat → read w = some a → P a

theorem yields_binary64? : Yields binary64? Binary64.InFormat := by
  intro w x format value
  cases format with
  | @number n own =>
    cases n with
    | natural n => exact Option.some.inj value ▸ inFormat_ofNat n.toNat
    | negative n => exact Option.some.inj value ▸ (inFormat_ofNat n).neg
    | double y => exact Option.some.inj value ▸ own y rfl
  | _ => cases value

theorem Yields.nullable? (reads : Yields read P) {empty : α} (holds : P empty) :
    Yields (nullable? empty read) P := by
  intro w a format value
  unfold Written.nullable? at value
  split at value
  · cases value
    exact holds
  · exact reads w a format value

theorem exists_of_mem_mapM {f : β → Option α} {xs : List β} {ys : List α}
    (made : xs.mapM f = some ys) {y : α} (member : y ∈ ys) : ∃ x ∈ xs, f x = some y := by
  induction xs generalizing ys with
  | nil =>
    cases made
    cases member
  | cons x rest ih =>
    simp only [List.mapM_cons, Option.bind_eq_bind, Option.bind_eq_some_iff, Option.pure_def,
      Option.some.injEq] at made
    obtain ⟨z, first, zs, others, rfl⟩ := made
    rcases List.mem_cons.mp member with rfl | later
    · exact ⟨x, List.mem_cons_self .., first⟩
    · obtain ⟨x', inside, own⟩ := ih others later
      exact ⟨x', List.mem_cons_of_mem _ inside, own⟩

theorem Yields.list? (reads : Yields read P) : Yields (list? read) fun as => ∀ a ∈ as, P a := by
  intro w as format value a member
  cases format with
  | array each =>
    obtain ⟨w', inside, own⟩ := exists_of_mem_mapM value member
    exact reads w' a (each w' inside) own
  | _ => cases value

theorem inFormat_of_part {names : List String} {w : Written} {parts : Parts} (format : w.InFormat)
    (known : parts? names w = some parts) {name : String} {part : Written}
    (given : parts.get? name = some part) : part.InFormat := by
  cases format with
  | object each =>
    obtain ⟨-, same⟩ := Option.ite_none_right_eq_some.mp known
    cases same
    obtain ⟨before, behind, rfl, -⟩ := List.lookup_eq_some_iff.mp given
    exact each (name, part) (by simp)
  | @array items each =>
    obtain ⟨-, same⟩ := Option.ite_none_right_eq_some.mp known
    cases same
    obtain ⟨before, behind, parts, -⟩ := List.lookup_eq_some_iff.mp given
    have inside : (name, part) ∈ names.zip items := by rw [parts]; simp
    exact each part (List.of_mem_zip inside).2
  | _ => cases known

/-- What a reader makes of a part of a record, or what stands for an absent part. -/
theorem Yields.orElse? (reads : Yields read P) {absent : α} (holds : P absent)
    {names : List String} {w : Written} {parts : Parts} (format : w.InFormat)
    (known : parts? names w = some parts) {name : String} {a : α}
    (value : parts.orElse? name absent read = some a) : P a := by
  unfold Parts.orElse? at value
  split at value
  · rename_i part given
    exact reads part a (inFormat_of_part format known given) value
  · cases value
    exact holds

end Decoding

end Written

end Json

open Json.Written

/-- The weights of the campaign are numbers of the format. -/
def Campaign.WeighsInFormat (c : Campaign Binary64) : Prop := ∀ v ∈ c.variations, v.weight.InFormat

theorem Variation.yields_read? : Yields Variation.read? fun v => v.weight.InFormat := by
  intro w v format value
  obtain ⟨parts, known, value⟩ := Option.bind_eq_some_iff.mp value
  iterate 3 obtain ⟨_, -, value⟩ := Option.bind_eq_some_iff.mp value
  obtain ⟨weight, given, value⟩ := Option.bind_eq_some_iff.mp value
  iterate 3 obtain ⟨_, -, value⟩ := Option.bind_eq_some_iff.mp value
  cases value
  have zero := Binary64.inFormat_zero false
  exact (yields_binary64?.nullable? zero).orElse? zero format known given

theorem Campaign.yields_read? : Yields Campaign.read? Campaign.WeighsInFormat := by
  intro w c format value
  obtain ⟨parts, known, value⟩ := Option.bind_eq_some_iff.mp value
  iterate 8 obtain ⟨_, -, value⟩ := Option.bind_eq_some_iff.mp value
  obtain ⟨variations, given, value⟩ := Option.bind_eq_some_iff.mp value
  iterate 3 obtain ⟨_, -, value⟩ := Option.bind_eq_some_iff.mp value
  cases value
  exact (Variation.yields_read?.list?.nullable? (List.forall_mem_nil _)).orElse?
    (List.forall_mem_nil _) format known given

namespace Settings

theorem yields_read? : Yields Settings.read? fun settings =>
    ∀ c ∈ settings.campaigns, c.WeighsInFormat := by
  intro w settings format value
  obtain ⟨parts, known, value⟩ := Option.bind_eq_some_iff.mp value
  obtain ⟨features, -, value⟩ := Option.bind_eq_some_iff.mp value
  obtain ⟨campaigns, given, value⟩ := Option.bind_eq_some_iff.mp value
  iterate 5 obtain ⟨_, -, value⟩ := Option.bind_eq_some_iff.mp value
  cases value
  exact (Campaign.yields_read?.list?.nullable? (List.forall_mem_nil _)).orElse?
    (List.forall_mem_nil _) format known given

variable {text : String} {settings : Settings Binary64}

theorem ofText_eq_ok_iff : ofText text = .ok settings ↔
    ∃ raw, unprocessed? text = some raw ∧ raw.process = .ok settings := by
  unfold ofText
  cases unprocessed? text <;> simp

/-- Settings that are read from a document weigh in the format. -/
theorem weighsInFormat_of_ofText (reads : ofText text = .ok settings) :
    ∀ c ∈ settings.campaigns, c.WeighsInFormat := by
  obtain ⟨raw, described, processing⟩ := ofText_eq_ok_iff.mp reads
  obtain ⟨w, whole, described⟩ := Option.bind_eq_some_iff.mp described
  have format := yields_read? w raw (inFormat_of_ofText? whole) described
  obtain ⟨-, features, -, rfl⟩ := process_eq_ok_iff.mp processing
  refine List.forall_mem_map.mpr fun c among => ?_
  have kept := (Campaign.zipWith_prepared c.length_ranges).2
  have every : ∀ x ∈ c.prepared.variations.map (·.weight), x.InFormat := by
    rw [Campaign.prepared, kept]
    exact List.forall_mem_map.mpr (format c among)
  exact List.forall_mem_map.mp every

/-- With full traffic everybody gets a variation of a comparison that a document describes, if its
weights are worth a hundred points. -/
theorem reaches_everybody_of_ofText (reads : ofText text = .ok settings) {c : Campaign Binary64}
    (member : c ∈ settings.campaigns) (kind : c.kind = .ab)
    (all : (Binary64.ofNat 100).le c.percentTraffic = true)
    (worth : 100 ≤ (c.variations.map fun v => v.weight.credit).sum) (account : UInt64)
    (user : String) : ∃ v ∈ c.variations, c.allotted? account user = some v := by
  obtain ⟨raw, -, processing⟩ := ofText_eq_ok_iff.mp reads
  have processed : settings.Processed := ⟨raw, processing⟩
  refine (processed.sharedOut member kind).allotted kind (Campaign.includes_of_hundred_le kind all) ?_
  exact Campaign.bucketSpace_le_claims (weighsInFormat_of_ofText reads c member) worth

/-- Three thirds that a document writes in decimals are worth a hundred points. -/
example : ∃ settings ∈ (ofText ("[[],[[10,\"offer_ab\",null,\"AB\",100,null,false,false," ++
    "[[1,\"plain\",null,33.333333333333336],[2,\"small\",null,33.333333333333336]," ++
    "[3,\"large\",null,33.333333333333336]]]]]")).toOption,
    ∃ c ∈ settings.campaigns, c.kind = .ab ∧ (Binary64.ofNat 100).le c.percentTraffic = true ∧
      100 ≤ (c.variations.map fun v => v.weight.credit).sum := by
  decide +kernel

end Settings

end FeatureFlags
