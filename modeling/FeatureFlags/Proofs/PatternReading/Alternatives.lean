import FeatureFlags.Proofs.PatternReading.Brackets
import FeatureFlags.Proofs.PatternReading.Groups
import FeatureFlags.Proofs.PatternReading.Repetitions

namespace FeatureFlags.Pattern

variable {flags flags' : Flags} {branches branches' items items' : List Tree}
  {cs rest left : List Char} {t : Tree} {fuel : Nat}

/-- Alternatives are read the same without what is behind the source, with fuel for what is read. -/
def ReadAlone (flags : Flags) (branches items : List Tree) (cs : List Char) (t : Tree)
    (left : List Char) : Prop :=
  left <:+ cs ∧ (closing <:+ left → ∀ enough, cs.length < enough + left.length →
    alternatives? enough flags branches items (unclosed cs) = some (t, unclosed left))

/-- Whatever is read with some fuel is read alone. -/
def AlternativesConfined (fuel : Nat) : Prop :=
  ∀ flags branches items cs t left, alternatives? fuel flags branches items cs = some (t, left) →
    ReadAlone flags branches items cs t left

section Steps

variable (confined : AlternativesConfined fuel)
include confined

/-- A step that reads on behind a part of what it is given. -/
theorem AlternativesConfined.behind
    (more : alternatives? fuel flags' branches' items' rest = some (t, left))
    (within : rest <:+ cs) (shorter : rest.length < cs.length)
    (same : closing <:+ rest → ∀ enough, cs.length ≤ enough + rest.length →
      (alternatives? enough flags' branches' items' (unclosed rest)).isSome →
      alternatives? (enough + 1) flags branches items (unclosed cs) =
        alternatives? enough flags' branches' items' (unclosed rest)) :
    ReadAlone flags branches items cs t left := by
  obtain ⟨behind, alone⟩ := confined _ _ _ _ _ _ more
  have short := behind.length_le
  refine ⟨behind.trans within, fun closed enough long => ?_⟩
  cases enough with
  | zero => omega
  | succ enough =>
    have alone := alone closed enough (by omega)
    rw [same (closed.trans behind) enough (by omega) (by rw [alone]; rfl), alone]

/-- A step that reads on behind one character. -/
theorem AlternativesConfined.next {c : Char} (skipped : flags.skip cs = c :: rest)
    (more : alternatives? fuel flags branches' items' rest = some (t, left))
    (same : ∀ enough, flags.skip (unclosed cs) = c :: unclosed rest →
      alternatives? (enough + 1) flags branches items (unclosed cs) =
        alternatives? enough flags branches' items' (unclosed rest)) :
    ReadAlone flags branches items cs t left := by
  obtain ⟨opened, alone⟩ := Flags.of_skip_cons skipped
  exact confined.behind more opened (Flags.length_lt_of_skip_cons skipped)
    fun closed enough _ _ => same enough (alone closed)

/-- A step that reads on behind a sign for repetition, and behind the one for as few as possible. -/
theorem AlternativesConfined.repeated {c : Char} (skipped : flags.skip cs = c :: rest)
    (more : alternatives? fuel flags branches' items' (dropLazy rest) = some (t, left))
    (same : ∀ enough, flags.skip (unclosed cs) = c :: unclosed rest →
      alternatives? (enough + 1) flags branches items (unclosed cs) =
        alternatives? enough flags branches' items' (dropLazy (unclosed rest))) :
    ReadAlone flags branches items cs t left := by
  obtain ⟨opened, alone⟩ := Flags.of_skip_cons skipped
  have last := dropLazy_suffix rest
  have shorter := Flags.length_lt_of_skip_cons skipped
  have short := last.length_le
  refine confined.behind more (last.trans opened) (by omega) fun closed enough _ _ => ?_
  rw [same enough (alone (closed.trans last)), dropLazy_unclosed closed]

theorem AlternativesConfined.counted {low : Nat} {high : Option Nat} {rest' : List Char}
    (skipped : flags.skip cs = '\x7b' :: rest) (counted : bounds? flags rest = some (low, high, rest'))
    (repeated : repeatLast? low high items = some items')
    (more : alternatives? fuel flags branches items' (dropLazy (flags.skip rest')) =
      some (t, left)) : ReadAlone flags branches items cs t left := by
  obtain ⟨opened, alone⟩ := Flags.of_skip_cons skipped
  obtain ⟨within, alone'⟩ := bounds?_confined counted
  have skip := flags.skip_suffix rest'
  have last := dropLazy_suffix (flags.skip rest')
  have behind := last.trans (skip.trans within)
  have shorter := Flags.length_lt_of_skip_cons skipped
  have short := behind.length_le
  refine confined.behind more (behind.trans opened) (by omega) fun closed enough _ _ => ?_
  have closed' := closed.trans last
  simp [alternatives?, alone (closed.trans behind), alone' (closed'.trans skip), repeated,
    Flags.skip_unclosed closed', dropLazy_unclosed closed]

theorem AlternativesConfined.setting {rest' : List Char} (skipped : flags.skip cs = '(' :: rest)
    (opening : opening? flags rest = some (.flags flags', rest'))
    (more : alternatives? fuel flags' branches (.setting :: items) rest' = some (t, left)) :
    ReadAlone flags branches items cs t left := by
  obtain ⟨opened, alone⟩ := Flags.of_skip_cons skipped
  obtain ⟨within, alone'⟩ := opening?_confined opening
  have shorter := Flags.length_lt_of_skip_cons skipped
  have short := within.length_le
  refine confined.behind more (within.trans opened) (by omega) fun closed enough _ _ => ?_
  simp [alternatives?, alone (closed.trans within), alone' closed]

theorem AlternativesConfined.group {captures : Bool} {name : Option String} {inner : Tree}
    {rest' rest'' : List Char} (skipped : flags.skip cs = '(' :: rest)
    (opening : opening? flags rest = some (.group captures name flags', rest'))
    (nested : alternatives? fuel flags' [] [] rest' = some (inner, ')' :: rest''))
    (more : alternatives? fuel flags branches (.group captures name inner :: items) rest'' =
      some (t, left)) : ReadAlone flags branches items cs t left := by
  obtain ⟨opened, alone⟩ := Flags.of_skip_cons skipped
  obtain ⟨within, alone'⟩ := opening?_confined opening
  obtain ⟨within', alone''⟩ := confined _ _ _ _ _ _ nested
  have last : rest'' <:+ ')' :: rest'' := List.suffix_cons _ _
  have shorter := Flags.length_lt_of_skip_cons skipped
  have short := within.length_le
  have short' := within'.length_le
  rw [List.length_cons] at short'
  refine confined.behind more (last.trans (within'.trans (within.trans opened))) (by omega) ?_
  intro closed enough long _
  have closed' := closed.trans last
  have nested' := alone'' closed' enough (by rw [List.length_cons]; omega)
  rw [unclosed_cons _ closed] at nested'
  simp [alternatives?, alone (closed'.trans (within'.trans within)),
    alone' (closed'.trans within'), nested']

theorem AlternativesConfined.set {s : CharSet} {depth : Nat} {rest' : List Char}
    (skipped : flags.skip cs = '[' :: rest)
    (set : bracket? fuel flags rest = some (s, depth, rest'))
    (more : alternatives? fuel flags branches (.set s depth :: items) rest' = some (t, left)) :
    ReadAlone flags branches items cs t left := by
  obtain ⟨opened, alone⟩ := Flags.of_skip_cons skipped
  obtain ⟨within, shorter', alone'⟩ := (brackets_confined fuel).1 _ _ _ _ _ set
  have shorter := Flags.length_lt_of_skip_cons skipped
  refine confined.behind more (within.trans opened) (by omega) fun closed enough long _ => ?_
  have set' : bracket? enough flags (unclosed rest) = some (s, depth, unclosed rest') :=
    alone' closed enough (by omega)
  simp [alternatives?, alone (closed.trans within), set']

end Steps

theorem alternatives?_brace (nothing : flags.skip rest = []) :
    alternatives? fuel flags branches items ('\x7b' :: rest) = none := by
  have counted : flags.skip ('\x7b' :: rest) = '\x7b' :: rest := by
    unfold Flags.skip
    split <;> rfl
  cases fuel with
  | zero => rfl
  | succ fuel => simp [alternatives?, counted, bounds?_of_skip_nil nothing]

/-- What is escaped may be read otherwise alone, but then a brace follows that nothing closes. -/
theorem AlternativesConfined.escaped (confined : AlternativesConfined fuel)
    {primitive : Primitive} {item : Tree} {rest' : List Char} (skipped : flags.skip cs = '\\' :: rest)
    (escaped : escape? flags rest = some (primitive, rest'))
    (tree : primitive.tree? flags = some item)
    (more : alternatives? fuel flags branches (item :: items) rest' = some (t, left)) :
    ReadAlone flags branches items cs t left := by
  obtain ⟨opened, alone⟩ := Flags.of_skip_cons skipped
  obtain ⟨⟨c, rest'', rfl, within⟩, alone'⟩ := escape?_confined escaped
  have behind := within.trans (List.suffix_cons c rest'')
  have shorter := Flags.length_lt_of_skip_cons skipped
  have short := behind.length_le
  refine confined.behind more (behind.trans opened) (by omega) fun closed enough _ further => ?_
  rcases alone' closed with escaped' | ⟨-, inside, rfl, nothing⟩
  · simp [alternatives?, alone (closed.trans behind), escaped', tree]
  · have closed' : closing <:+ inside := (List.suffix_cons_iff.mp closed).resolve_left nofun
    rw [unclosed_cons _ closed', alternatives?_brace nothing] at further
    cases further

/-- Where a parenthesis ends the alternatives, so does the end of the source. -/
theorem readAlone_closed (skipped : flags.skip cs = ')' :: rest) :
    ReadAlone flags branches items cs
      (Tree.ofBranches (Tree.ofItems items.reverse :: branches).reverse) (')' :: rest) := by
  have within : ')' :: rest <:+ cs := skipped ▸ flags.skip_suffix cs
  refine ⟨within, fun closed enough long => ?_⟩
  have alone := Flags.skip_unclosed (skipped ▸ closed : closing <:+ flags.skip cs)
  have short := within.length_le
  rw [skipped] at alone
  cases enough with
  | zero => omega
  | succ enough =>
    cases front : unclosed (')' :: rest) with
    | nil => simp [alternatives?, alone, front]
    | cons c rest' =>
      obtain ⟨rfl, -⟩ := List.cons.inj (eq_cons_of_unclosed closed front)
      simp [alternatives?, alone, front]

theorem alternatives?_confined_step (confined : AlternativesConfined fuel) :
    AlternativesConfined (fuel + 1) := by
  intro flags branches items cs t left read
  simp only [alternatives?] at read
  split at read
  · cases read
    refine ⟨List.nil_suffix, fun closed => ?_⟩
    cases closed.length_le
  · rename_i rest skipped
    cases read
    exact readAlone_closed skipped
  · rename_i rest skipped
    exact confined.next skipped read fun enough alone => by simp [alternatives?, alone]
  · rename_i rest skipped
    split at read
    · cases read
    · rename_i opening
      exact confined.setting skipped opening read
    · rename_i opening
      split at read
      · rename_i nested
        exact confined.group skipped opening nested read
      · cases read
  · rename_i rest skipped
    split at read
    · rename_i set
      exact confined.set skipped set read
    · cases read
  · rename_i rest skipped
    obtain ⟨items', repeated, more⟩ := Option.bind_eq_some_iff.mp read
    exact confined.repeated skipped more fun enough alone => by
      simp [alternatives?, alone, repeated]
  · rename_i rest skipped
    obtain ⟨items', repeated, more⟩ := Option.bind_eq_some_iff.mp read
    exact confined.repeated skipped more fun enough alone => by
      simp [alternatives?, alone, repeated]
  · rename_i rest skipped
    obtain ⟨items', repeated, more⟩ := Option.bind_eq_some_iff.mp read
    exact confined.repeated skipped more fun enough alone => by
      simp [alternatives?, alone, repeated]
  · rename_i rest skipped
    obtain ⟨⟨low, high, rest'⟩, counted, read⟩ := Option.bind_eq_some_iff.mp read
    obtain ⟨items', repeated, more⟩ := Option.bind_eq_some_iff.mp read
    exact confined.counted skipped counted repeated more
  · rename_i rest skipped
    obtain ⟨⟨primitive, rest'⟩, escaped, read⟩ := Option.bind_eq_some_iff.mp read
    obtain ⟨item, tree, more⟩ := Option.bind_eq_some_iff.mp read
    exact confined.escaped skipped escaped tree more
  · rename_i rest skipped
    obtain ⟨s, dot, more⟩ := Option.bind_eq_some_iff.mp read
    exact confined.next skipped more fun enough alone => by simp [alternatives?, alone, dot]
  · rename_i rest skipped
    exact confined.next skipped read fun enough alone => by simp [alternatives?, alone]
  · rename_i rest skipped
    exact confined.next skipped read fun enough alone => by simp [alternatives?, alone]
  · rename_i c rest _ _ _ _ _ _ _ _ _ _ _ _ skipped
    obtain ⟨t', literal, more⟩ := Option.bind_eq_some_iff.mp read
    exact confined.next skipped more fun enough alone => by simp [alternatives?, alone, literal]

theorem alternatives?_confined (fuel : Nat) : AlternativesConfined fuel := by
  induction fuel with
  | zero =>
    intro flags branches items cs t left read
    cases read
  | succ fuel ih => exact alternatives?_confined_step ih

end FeatureFlags.Pattern
