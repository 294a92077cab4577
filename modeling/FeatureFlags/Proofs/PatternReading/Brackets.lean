import FeatureFlags.Proofs.PatternReading.Escapes
import FeatureFlags.Proofs.Readers

namespace FeatureFlags.Pattern

open Text

variable {flags : Flags} {cs left : List Char}

section AsciiNames

variable {negated : Bool} {s : Option CharSet}

theorem asciiName?_eq_some_iff :
    asciiName? flags negated cs = some (s, left) ↔
      ∃ name set, cs = name ++ ':' :: ']' :: left ∧ ':' ∉ name ∧
        CharSet.asciiNamed? (String.ofList name) = some set ∧ s = flags.foldedSet? negated set := by
  simp only [asciiName?, Option.bind_eq_bind, Option.bind_eq_some_iff, after?_eq_some_iff,
    Option.some.injEq, Prod.mk.injEq]
  constructor
  · rintro ⟨_, behind, set, known, rfl, rfl⟩
    obtain ⟨-, written, free⟩ := parts_at_mark_iff.mp ⟨rfl, behind⟩
    exact ⟨_, set, written, free, known, rfl⟩
  · rintro ⟨name, set, written, free, known, rfl⟩
    obtain ⟨rfl, behind⟩ := parts_at_mark_iff.mpr ⟨rfl, written, free⟩
    exact ⟨left, behind, set, known, rfl, rfl⟩

theorem asciiName?_confined : Confined (asciiName? flags negated) := by
  intro cs s left read
  obtain ⟨name, set, rfl, free, known, rfl⟩ := asciiName?_eq_some_iff.mp read
  have front : name ++ ':' :: ']' :: left = (name ++ [':', ']']) ++ left := by simp
  refine ⟨⟨_, front.symm⟩, fun closed => asciiName?_eq_some_iff.mpr ⟨name, set, ?_, free, known, rfl⟩⟩
  rw [front, unclosed_append_suffix _ closed, List.append_assoc]
  rfl

theorem asciiName?_append (read : asciiName? flags negated cs = some (s, left)) :
    asciiName? flags negated (cs ++ closing) = some (s, left ++ closing) := by
  obtain ⟨name, set, rfl, free, known, rfl⟩ := asciiName?_eq_some_iff.mp read
  exact asciiName?_eq_some_iff.mpr ⟨name, set, by simp, free, known, rfl⟩

theorem asciiClass?_confined : Confined (asciiClass? flags) := by
  intro cs s left read
  unfold asciiClass? at read
  split at read
  · rename_i rest
    obtain ⟨within, alone⟩ := asciiName?_confined read
    refine ⟨within.trans (List.suffix_append [':', '^'] rest), fun closed => ?_⟩
    have front := unclosed_append_suffix [':', '^'] (closed.trans within)
    rw [List.cons_append, List.cons_append, List.nil_append] at front
    rw [front]
    exact alone closed
  · rename_i rest plain
    obtain ⟨within, alone⟩ := asciiName?_confined read
    refine ⟨within.trans (List.suffix_cons ':' rest), fun closed => ?_⟩
    have closed' := closed.trans within
    rw [unclosed_cons ':' closed', asciiClass?, alone closed]
    exact fun rest' negated => plain _ (eq_cons_of_unclosed closed' negated)
  · cases read

theorem asciiClass?_append (read : asciiClass? flags cs = some (s, left)) :
    asciiClass? flags (cs ++ closing) = some (s, left ++ closing) := by
  unfold asciiClass? at read
  split at read
  · exact asciiName?_append read
  · rename_i rest plain
    rw [List.cons_append, asciiClass?, asciiName?_append read]
    intro rest' negated
    cases rest with
    | nil => cases negated
    | cons c rest => exact plain rest (by cases negated; rfl)
  · cases read

theorem asciiClass?_unclosed_eq_none (closed : closing <:+ cs)
    (unnamed : asciiClass? flags cs = none) : asciiClass? flags (unclosed cs) = none := by
  refine Option.eq_none_iff_forall_ne_some.mpr fun (s, left) read => ?_
  have longer := asciiClass?_append read
  rw [unclosed_append_closing closed, unnamed] at longer
  cases longer

end AsciiNames

section Ranges

variable {first : Primitive} {rest after : List Char} {s : CharSet}

/-- What stands for a place is no member, so a member is read alone. -/
theorem bracketItem?_unclosed (item : bracketItem? flags cs = some (first, rest))
    (member : first.member? flags = some s) (closed : closing <:+ rest) :
    bracketItem? flags (unclosed cs) = some (first, unclosed rest) :=
  ((bracketItem?_confined item).2 closed).resolve_right fun ⟨l, look⟩ => by
    cases look
    cases member

/-- A dash before the closing bracket or another dash ends no range. -/
theorem bracketRange?_dash {mark : Char} {more : List Char}
    (item : bracketItem? flags cs = some (first, rest)) (dash : flags.skip rest = '-' :: after)
    (next : flags.skip after = mark :: more) (marks : mark = ']' ∨ mark = '-') :
    bracketRange? flags cs = (first.member? flags).map fun s => (s, '-' :: after) := by
  rcases marks with rfl | rfl <;> simp [bracketRange?, item, dash, next]

/-- Inside brackets an item takes a character, and is read alone if something is left behind it. -/
def ItemAlone (flags : Flags) (cs : List Char) (s : CharSet) (left : List Char) : Prop :=
  (∃ c rest, cs = c :: rest ∧ left <:+ rest) ∧ (closing <:+ left → unclosed left ≠ [] →
    bracketRange? flags (unclosed cs) = some (s, unclosed left))

theorem itemAlone_dash {mark : Char} {more : List Char}
    (item : bracketItem? flags cs = some (first, rest)) (dash : flags.skip rest = '-' :: after)
    (next : flags.skip after = mark :: more) (marks : mark = ']' ∨ mark = '-')
    (member : first.member? flags = some s) : ItemAlone flags cs s ('-' :: after) := by
  obtain ⟨⟨c, cs', taken, within⟩, -⟩ := bracketItem?_confined item
  have within' : '-' :: after <:+ rest := dash ▸ flags.skip_suffix rest
  refine ⟨⟨c, cs', taken, within'.trans within⟩, fun closed _ => ?_⟩
  have behind : closing <:+ after := (List.suffix_cons_iff.mp closed).resolve_left nofun
  have other : mark ≠ ')' := by rcases marks with rfl | rfl <;> decide
  have next' := (Flags.of_skip_cons next).2 (Flags.closed_of_skip_cons behind next other)
  rw [bracketRange?_dash (bracketItem?_unclosed item member (closed.trans within'))
    ((Flags.of_skip_cons dash).2 behind) next' marks, member, unclosed_cons _ behind]
  rfl

theorem itemAlone_range {a b : Char} {byte byte' : Bool} {s' : CharSet}
    (item : bracketItem? flags cs = some (.literal a byte, rest))
    (dash : flags.skip rest = '-' :: after)
    (notClosed : ∀ more, flags.skip after ≠ ']' :: more)
    (notDash : ∀ more, flags.skip after ≠ '-' :: more)
    (item' : bracketItem? flags (flags.skip after) = some (.literal b byte', left))
    (member : (Primitive.literal a byte).member? flags = some s)
    (member' : (Primitive.literal b byte').member? flags = some s') (ordered : a ≤ b) :
    ItemAlone flags cs (.range a b) left := by
  obtain ⟨⟨c, cs', taken, within⟩, -⟩ := bracketItem?_confined item
  obtain ⟨⟨c', more, taken', within'⟩, -⟩ := bracketItem?_confined item'
  obtain ⟨opened, alone⟩ := Flags.of_skip_cons dash
  have behind : left <:+ flags.skip after := taken' ▸ within'.trans (List.suffix_cons c' more)
  have behind' := behind.trans (flags.skip_suffix after)
  refine ⟨⟨c, cs', taken, behind'.trans (opened.trans within)⟩, fun closed _ => ?_⟩
  have closed' := closed.trans behind
  have closed'' := closed.trans behind'
  have last := bracketItem?_unclosed item' member' closed
  rw [bracketRange?, bracketItem?_unclosed item member (closed''.trans opened)]
  simp only [Option.bind_eq_bind, Option.bind_some, alone closed'', Flags.skip_unclosed closed']
  split
  · rename_i more bracket
    exact absurd (eq_cons_of_unclosed closed' bracket) (notClosed _)
  · rename_i more dashed
    exact absurd (eq_cons_of_unclosed closed' dashed) (notDash _)
  · simp [last, member, member', ordered]

theorem itemAlone_single (item : bracketItem? flags cs = some (first, rest))
    (notDash : ∀ after, flags.skip rest ≠ '-' :: after)
    (member : first.member? flags = some s) : ItemAlone flags cs s (flags.skip rest) := by
  obtain ⟨⟨c, cs', taken, within⟩, -⟩ := bracketItem?_confined item
  have last := flags.skip_suffix rest
  refine ⟨⟨c, cs', taken, last.trans within⟩, fun closed inner => ?_⟩
  rw [bracketRange?, bracketItem?_unclosed item member (closed.trans last)]
  simp only [Option.bind_eq_bind, Option.bind_some, Flags.skip_unclosed closed]
  split
  · contradiction
  · rename_i after dashed
    exact absurd (eq_cons_of_unclosed closed dashed) (notDash _)
  · rw [member, Option.map_some]

end Ranges

theorem bracketRange?_confined {s : CharSet} (read : bracketRange? flags cs = some (s, left)) :
    ItemAlone flags cs s left := by
  obtain ⟨⟨first, rest⟩, item, chosen⟩ := Option.bind_eq_some_iff.mp read
  dsimp only at chosen
  split at chosen
  · cases chosen
  · rename_i after dash
    split at chosen
    · rename_i more next
      obtain ⟨_, member, same⟩ := Option.map_eq_some_iff.mp chosen
      cases same
      exact itemAlone_dash item dash next (Or.inl rfl) member
    · rename_i more next
      obtain ⟨_, member, same⟩ := Option.map_eq_some_iff.mp chosen
      cases same
      exact itemAlone_dash item dash next (Or.inr rfl) member
    · rename_i notClosed notDash
      obtain ⟨⟨last, rest'⟩, item', chosen'⟩ := Option.bind_eq_some_iff.mp chosen
      dsimp only at chosen'
      split at chosen'
      · simp only [Option.bind_eq_bind, Option.bind_eq_some_iff, Option.ite_none_right_eq_some,
          Option.some.injEq, Prod.mk.injEq] at chosen'
        obtain ⟨_, member, _, member', ordered, rfl, rfl⟩ := chosen'
        exact itemAlone_range item dash notClosed notDash item' member member' ordered
      · cases chosen'
  · rename_i notDash
    obtain ⟨_, member, same⟩ := Option.map_eq_some_iff.mp chosen
    cases same
    exact itemAlone_single item notDash member

theorem leadingMembers?_confined {fuel : Nat} {ss : List CharSet}
    (read : leadingMembers? flags fuel cs = some (ss, left)) :
    left <:+ cs ∧ (closing <:+ left → unclosed left ≠ [] → ∀ enough, (unclosed cs).length < enough →
      leadingMembers? flags enough (unclosed cs) = some (ss, unclosed left)) := by
  induction fuel generalizing cs ss left with
  | zero => cases read
  | succ fuel ih =>
    rw [leadingMembers?.eq_def] at read
    dsimp only at read
    split at read
    · cases read
    · rename_i rest
      obtain ⟨⟨ss', left'⟩, more, same⟩ := Option.map_eq_some_iff.mp read
      cases same
      obtain ⟨within, alone⟩ := ih more
      have behind := within.trans (flags.skip_suffix rest)
      refine ⟨behind.trans (List.suffix_cons '-' rest), fun closed inner enough long => ?_⟩
      have skipped := Flags.skip_unclosed (closed.trans within)
      have short := (flags.skip_suffix (unclosed rest)).length_le
      rw [skipped] at short
      rw [unclosed_cons '-' (closed.trans behind), List.length_cons] at long
      cases enough with
      | zero => omega
      | succ enough =>
        rw [unclosed_cons '-' (closed.trans behind), leadingMembers?, skipped,
          alone closed inner enough (by omega), Option.map_some]
    · rename_i nonempty plain
      cases read
      refine ⟨List.suffix_refl _, fun closed inner enough long => ?_⟩
      cases enough with
      | zero => omega
      | succ enough =>
        rw [leadingMembers?.eq_def]
        dsimp only
        split
        · contradiction
        · rename_i rest dashed
          exact absurd (eq_cons_of_unclosed closed dashed) (plain _)
        · rfl

theorem firstMembers?_confined {members : List CharSet}
    (read : firstMembers? flags cs = some (members, left)) :
    left <:+ cs ∧ (closing <:+ left → unclosed left ≠ [] →
      firstMembers? flags (unclosed cs) = some (members, unclosed left)) := by
  obtain ⟨⟨dashes, rest⟩, leading, chosen⟩ := Option.bind_eq_some_iff.mp read
  obtain ⟨within, alone⟩ := leadingMembers?_confined leading
  dsimp only at chosen
  split at chosen
  · rename_i rest
    cases chosen
    have last := flags.skip_suffix rest
    refine ⟨last.trans ((List.suffix_cons _ rest).trans within), fun closed inner => ?_⟩
    have closed' := closed.trans last
    have alone := alone (closed'.trans (List.suffix_cons _ rest)) (by simp [unclosed_cons _ closed'])
      _ (Nat.lt_succ_self _)
    rw [firstMembers?, alone, unclosed_cons _ closed']
    simp [Flags.skip_unclosed closed]
  · rename_i other
    cases chosen
    refine ⟨within, fun closed inner => ?_⟩
    rw [firstMembers?, alone closed inner _ (Nat.lt_succ_self _)]
    simp only [Option.bind_eq_bind, Option.bind_some]
    split
    · rename_i bracket
      exact absurd (eq_cons_of_unclosed closed bracket) (other _ rfl)
    · rfl

theorem negation_confined (flags : Flags) (cs : List Char) :
    (negation flags cs).2 <:+ cs ∧ (closing <:+ (negation flags cs).2 →
      negation flags (unclosed cs) = ((negation flags cs).1, unclosed (negation flags cs).2)) := by
  unfold negation
  split
  · rename_i rest skipped
    obtain ⟨opened, alone⟩ := Flags.of_skip_cons skipped
    have last := flags.skip_suffix rest
    refine ⟨last.trans opened, fun closed => ?_⟩
    simp only [alone (closed.trans last), Flags.skip_unclosed closed]
  · rename_i plain
    refine ⟨flags.skip_suffix cs, fun closed => ?_⟩
    rw [Flags.skip_unclosed closed]
    split
    · rename_i rest negated
      exact absurd (eq_cons_of_unclosed closed negated) (plain _)
    · rfl

/-- A set is read the same without what is behind the source, with fuel for what is read. -/
def SetReadAlone (read : Nat → List Char → Option (CharSet × Nat × List Char)) (spare : Nat)
    (cs : List Char) (s : CharSet) (depth : Nat) (left : List Char) : Prop :=
  left <:+ cs ∧ left.length < cs.length ∧ (closing <:+ left →
    ∀ enough, cs.length + spare ≤ enough + left.length →
      read enough (unclosed cs) = some (s, depth, unclosed left))

/-- Whatever set is read with some fuel is read alone. -/
def SetConfined (read : Nat → List Char → Option (CharSet × Nat × List Char)) (spare fuel : Nat) :
    Prop :=
  ∀ cs s depth left, read fuel cs = some (s, depth, left) → SetReadAlone read spare cs s depth left

theorem bracketBody?_nil (fuel : Nat) (pending : Option (CharSet × SetOperator))
    (members : List CharSet) (depth : Nat) :
    bracketBody? fuel flags pending members depth [] = none := by
  cases fuel with
  | zero => rfl
  | succ fuel => simp [bracketBody?, Flags.skip, skipVerbose]

/-- A character that neither opens nor closes a set and is no operator begins an item. -/
theorem bracketBody?_item {fuel : Nat} {pending : Option (CharSet × SetOperator)}
    {members : List CharSet} {depth : Nat} {c : Char} {rest : List Char}
    (skipped : flags.skip cs = c :: rest) (plain : c ≠ ']' ∧ c ≠ '[')
    (single : ∀ more, rest = c :: more → c ≠ '&' ∧ c ≠ '-' ∧ c ≠ '~') :
    bracketBody? (fuel + 1) flags pending members depth cs =
      (bracketRange? flags (c :: rest)).bind fun (s, rest) =>
        bracketBody? fuel flags pending (members ++ [s]) depth rest := by
  simp only [bracketBody?, skipped]
  split
  · contradiction
  · rename_i same
    exact absurd (List.cons.inj same).1 plain.1
  · rename_i more same
    obtain ⟨rfl, double⟩ := List.cons.inj same
    exact absurd rfl (single _ double).1
  · rename_i more same
    obtain ⟨rfl, double⟩ := List.cons.inj same
    exact absurd rfl (single _ double).2.1
  · rename_i more same
    obtain ⟨rfl, double⟩ := List.cons.inj same
    exact absurd rfl (single _ double).2.2
  · rename_i same
    exact absurd (List.cons.inj same).1 plain.2
  · rfl

/-- A step that reads on behind a part of what it is given. -/
theorem SetConfined.behind {read read' : Nat → List Char → Option (CharSet × Nat × List Char)}
    {fuel : Nat} {cs rest left : List Char} {s : CharSet} {depth : Nat}
    (confined : SetConfined read' 0 fuel) (more : read' fuel rest = some (s, depth, left))
    (within : rest <:+ cs) (shorter : rest.length < cs.length)
    (nothing : ∀ enough, read' enough [] = none)
    (same : closing <:+ rest → unclosed rest ≠ [] → ∀ enough,
      cs.length ≤ enough + 1 + left.length → left.length < rest.length →
        read (enough + 1) (unclosed cs) = read' enough (unclosed rest)) :
    SetReadAlone read 0 cs s depth left := by
  obtain ⟨behind, shorter', alone⟩ := confined _ _ _ _ more
  refine ⟨behind.trans within, shorter'.trans shorter, fun closed enough long => ?_⟩
  cases enough with
  | zero => omega
  | succ enough =>
    have alone := alone closed enough (by omega)
    have inner : unclosed rest ≠ [] := by
      intro done
      simp [done, nothing] at alone
    rw [same (closed.trans behind) inner enough (by omega) shorter', alone]

section Body

variable {fuel : Nat} {pending : Option (CharSet × SetOperator)} {members : List CharSet}
  {depth depth' : Nat} {s : CharSet} {rest : List Char}
  (body : ∀ flags pending members depth,
    SetConfined (bracketBody? · flags pending members depth) 0 fuel)
include body

theorem bracket?_confined (flags : Flags) : SetConfined (bracket? · flags) 1 (fuel + 1) := by
  intro cs s depth left read
  simp only [bracket?, Option.bind_eq_bind, Option.bind_eq_some_iff, Prod.exists,
    Option.some.injEq, Prod.mk.injEq] at read
  obtain ⟨members, rest, first, s', depth', left', more, s'', folded, rfl, rfl, rfl⟩ := read
  obtain ⟨within, shorter, alone⟩ := body _ _ _ _ _ _ _ _ more
  obtain ⟨within', alone'⟩ := firstMembers?_confined first
  obtain ⟨within'', alone''⟩ := negation_confined flags cs
  have behind := within'.trans within''
  refine ⟨within.trans behind, shorter.trans_le behind.length_le, fun closed enough long => ?_⟩
  have closed' := closed.trans within
  have long' := behind.length_le
  cases enough with
  | zero => omega
  | succ enough =>
    have alone := alone closed enough (by omega)
    have inner : unclosed rest ≠ [] := by
      intro done
      simp [done, bracketBody?_nil] at alone
    simp [bracket?, alone'' (closed'.trans within'), alone' closed' inner, alone, folded]

/-- Behind an operator, which takes two characters, further items are read. -/
theorem bracketBody?_operator {pending' : Option (CharSet × SetOperator)} {c : Char}
    (skipped : flags.skip cs = c :: c :: rest)
    (more : bracketBody? fuel flags pending' [] depth rest = some (s, depth', left))
    (same : ∀ enough, flags.skip (unclosed cs) = c :: c :: unclosed rest →
      bracketBody? (enough + 1) flags pending members depth (unclosed cs) =
        bracketBody? enough flags pending' [] depth (unclosed rest)) :
    SetReadAlone (bracketBody? · flags pending members depth) 0 cs s depth' left := by
  obtain ⟨opened, alone⟩ := Flags.of_skip_cons skipped
  have behind := List.suffix_cons c rest
  refine (body flags _ _ _).behind more (behind.trans opened) opened.length_le
    (bracketBody?_nil · _ _ _) fun closed _ enough _ _ => same enough ?_
  rw [alone (closed.trans behind), unclosed_cons c closed]

theorem bracketBody?_named {named : CharSet} {rest' : List Char}
    (skipped : flags.skip cs = '[' :: rest)
    (found : asciiClass? flags rest = some (some named, rest'))
    (more : bracketBody? fuel flags pending (members ++ [named]) depth rest' =
      some (s, depth', left)) :
    SetReadAlone (bracketBody? · flags pending members depth) 0 cs s depth' left := by
  obtain ⟨opened, alone⟩ := Flags.of_skip_cons skipped
  obtain ⟨within, alone'⟩ := asciiClass?_confined found
  have shorter := Flags.length_lt_of_skip_cons skipped
  have short := within.length_le
  refine (body flags _ _ _).behind more (within.trans opened) (by omega)
    (bracketBody?_nil · _ _ _) fun closed _ enough _ _ => ?_
  simp [bracketBody?, alone (closed.trans within), alone' closed]

theorem bracketBody?_nested (bracket : ∀ flags, SetConfined (bracket? · flags) 1 fuel)
    {nested : CharSet} {inner : Nat} {rest' : List Char} (skipped : flags.skip cs = '[' :: rest)
    (unnamed : asciiClass? flags rest = none)
    (found : bracket? fuel flags rest = some (nested, inner, rest'))
    (more : bracketBody? fuel flags pending (members ++ [nested]) (max depth inner) rest' =
      some (s, depth', left)) :
    SetReadAlone (bracketBody? · flags pending members depth) 0 cs s depth' left := by
  obtain ⟨opened, alone⟩ := Flags.of_skip_cons skipped
  obtain ⟨within, shorter', alone'⟩ := bracket _ _ _ _ _ found
  have shorter := Flags.length_lt_of_skip_cons skipped
  refine (body flags _ _ _).behind more (within.trans opened) (by omega)
    (bracketBody?_nil · _ _ _) fun closed _ enough long further => ?_
  have closed' := closed.trans within
  have found' : bracket? enough flags (unclosed rest) = some (nested, inner, unclosed rest') :=
    alone' closed enough (by omega)
  simp [bracketBody?, alone closed', asciiClass?_unclosed_eq_none closed' unnamed, found']

theorem bracketBody?_range {c : Char} {member : CharSet} {rest' : List Char}
    (skipped : flags.skip cs = c :: rest) (plain : c ≠ ']' ∧ c ≠ '[')
    (single : ∀ more, rest = c :: more → c ≠ '&' ∧ c ≠ '-' ∧ c ≠ '~')
    (item : bracketRange? flags (c :: rest) = some (member, rest'))
    (more : bracketBody? fuel flags pending (members ++ [member]) depth rest' =
      some (s, depth', left)) :
    SetReadAlone (bracketBody? · flags pending members depth) 0 cs s depth' left := by
  obtain ⟨opened, alone⟩ := Flags.of_skip_cons skipped
  obtain ⟨⟨_, _, same, within⟩, alone'⟩ := bracketRange?_confined item
  obtain ⟨rfl, rfl⟩ := List.cons.inj same
  have shorter := Flags.length_lt_of_skip_cons skipped
  have short := within.length_le
  refine (body flags _ _ _).behind more (within.trans opened) (by omega)
    (bracketBody?_nil · _ _ _) fun closed inner enough _ _ => ?_
  have closed' := closed.trans within
  have item' := alone' closed inner
  rw [unclosed_cons c closed'] at item'
  rw [bracketBody?_item (alone closed') plain fun more same =>
    single _ (eq_cons_of_unclosed closed' same), item', Option.bind_some]

theorem bracketBody?_confined (bracket : ∀ flags, SetConfined (bracket? · flags) 1 fuel)
    (flags : Flags) (pending : Option (CharSet × SetOperator)) (members : List CharSet)
    (depth : Nat) : SetConfined (bracketBody? · flags pending members depth) 0 (fuel + 1) := by
  intro cs s depth' left read
  simp only [bracketBody?] at read
  split at read
  · cases read
  · rename_i rest skipped
    obtain ⟨opened, alone⟩ := Flags.of_skip_cons skipped
    cases read
    refine ⟨opened, Flags.length_lt_of_skip_cons skipped, fun closed enough long => ?_⟩
    have shorter := Flags.length_lt_of_skip_cons skipped
    cases enough with
    | zero => omega
    | succ enough => simp [bracketBody?, alone closed]
  · rename_i rest skipped
    exact bracketBody?_operator body skipped read fun enough alone => by
      simp [bracketBody?, alone]
  · rename_i rest skipped
    exact bracketBody?_operator body skipped read fun enough alone => by
      simp [bracketBody?, alone]
  · rename_i rest skipped
    exact bracketBody?_operator body skipped read fun enough alone => by
      simp [bracketBody?, alone]
  · rename_i rest skipped
    split at read
    · rename_i found
      obtain ⟨named, rfl, more⟩ := Option.bind_eq_some_iff.mp read
      exact bracketBody?_named body skipped found more
    · rename_i unnamed
      obtain ⟨⟨nested, inner, rest'⟩, found, more⟩ := Option.bind_eq_some_iff.mp read
      exact bracketBody?_nested body bracket skipped unnamed found more
  · rename_i nonempty notClosed notBoth notDiff notSymm notSet
    obtain ⟨⟨member, rest'⟩, item, more⟩ := Option.bind_eq_some_iff.mp read
    obtain ⟨c, rest, skipped⟩ := List.exists_cons_of_ne_nil nonempty
    rw [skipped] at item
    refine bracketBody?_range body skipped ⟨?_, ?_⟩ (fun more same => ⟨?_, ?_, ?_⟩) item more
    · rintro rfl
      exact notClosed _ skipped
    · rintro rfl
      exact notSet _ skipped
    · rintro rfl
      exact notBoth _ (same ▸ skipped)
    · rintro rfl
      exact notDiff _ (same ▸ skipped)
    · rintro rfl
      exact notSymm _ (same ▸ skipped)

end Body

theorem brackets_confined (fuel : Nat) :
    (∀ flags, SetConfined (bracket? · flags) 1 fuel) ∧
      ∀ flags pending members depth,
        SetConfined (bracketBody? · flags pending members depth) 0 fuel := by
  induction fuel with
  | zero =>
    constructor
    · intro flags cs s depth left read
      cases read
    · intro flags pending members depth cs s depth' left read
      cases read
  | succ fuel ih => exact ⟨bracket?_confined ih.2, bracketBody?_confined ih.2 ih.1⟩

end FeatureFlags.Pattern
