import FeatureFlags.Proofs.Ascii
import FeatureFlags.Proofs.FullMatch
import FeatureFlags.Proofs.Pieces
import FeatureFlags.Segment.Basic
import Mathlib.Tactic.FinCases

namespace FeatureFlags

namespace Text

/-- The pieces in a row, with any text between each two of them. -/
def Filled : List (List Char) → List Char → Prop
  | [], cs => cs = []
  | [piece], cs => cs = piece
  | piece :: rest, cs => ∃ filling left, cs = piece ++ filling ++ left ∧ Filled rest left

section Filled

variable {glob cs : List Char}

theorem filled_pieces_nil : Filled (pieces '*' []) cs ↔ cs = [] := Iff.rfl

theorem filled_pieces_star : Filled (pieces '*' ('*' :: glob)) cs ↔
    ∃ filling left, cs = filling ++ left ∧ Filled (pieces '*' glob) left := by
  obtain ⟨piece, others, parts, -⟩ := exists_pieces_cons '*' glob
  rw [pieces_cons_separator, parts]
  exact Iff.rfl

theorem filled_pieces_cons {c : Char} (plain : c ≠ '*') : Filled (pieces '*' (c :: glob)) cs ↔
    ∃ left, cs = c :: left ∧ Filled (pieces '*' glob) left := by
  obtain ⟨piece, others, parts, further⟩ := exists_pieces_cons '*' glob
  rw [further c plain, parts]
  cases others with
  | nil => simp [Filled]
  | cons other others => simp [Filled]

end Filled

end Text

namespace Pattern

/-- The flags behind `(?i)`. -/
def caselessFlags : Flags := { caseless := true }

/-- What the pattern of a glob consists of, for each character. -/
def globItem (c : Char) : Tree :=
  if c = '*' then .repeated (.set (.compl (.single '\n')) 0) 0 none
  else .set (.caseless (.single c)) 0

/-- How that is written. -/
def globChars (c : Char) : List Char :=
  if c = '*' then ['.', '*'] else if metaChars.contains c then ['\\', c] else [c]

/-- The tree of the pattern of a glob, between anchors. -/
def globTree (glob : List Char) : Tree :=
  Tree.anchored (.ofItems (.setting :: glob.map globItem))

section Reading

variable {fuel : Nat} {items : List Tree} {left : List Char}

theorem globSource_eq (glob : List Char) :
    DeviceMatcher.globSource glob = "(?i)".toList ++ glob.flatMap globChars := by
  have parts := Text.joined_map_pieces '*' ['.', '*']
    (fun c => if metaChars.contains c then ['\\', c] else [c]) glob
  exact congrArg ("(?i)".toList ++ ·) parts

theorem dropLazy_globChars (glob rest : List Char) :
    dropLazy (glob.flatMap globChars ++ ')' :: rest) = glob.flatMap globChars ++ ')' :: rest := by
  cases glob with
  | nil => rfl
  | cons c others =>
    rw [List.flatMap_cons, List.append_assoc, globChars]
    split
    · rfl
    · split
      · rfl
      · rename_i plain
        unfold dropLazy
        split
        · rename_i same
          obtain rfl : c = '?' := (List.cons.inj same).1
          exact absurd (by decide) plain
        · rfl

theorem alternatives?_star (lasting : dropLazy left = left) :
    alternatives? (fuel + 2) caselessFlags [] items ('.' :: '*' :: left) =
      alternatives? fuel caselessFlags [] (globItem '*' :: items) left := by
  have step : alternatives? (fuel + 2) caselessFlags [] items ('.' :: '*' :: left) =
      alternatives? fuel caselessFlags [] (globItem '*' :: items) (dropLazy left) := rfl
  rw [step, lasting]

theorem alternatives?_escaped {c : Char} (special : metaChars.contains c = true) :
    alternatives? (fuel + 1) caselessFlags [] items ('\\' :: c :: left) =
      alternatives? fuel caselessFlags [] (.set (.caseless (.single c)) 0 :: items) left := by
  have among : c ∈ metaChars := List.contains_iff_mem.mp special
  rw [metaChars] at among
  fin_cases among <;> rfl

theorem alternatives?_plain {c : Char} (plain : ¬ metaChars.contains c = true) :
    alternatives? (fuel + 1) caselessFlags [] items (c :: left) =
      alternatives? fuel caselessFlags [] (.set (.caseless (.single c)) 0 :: items) left := by
  have skipped : caselessFlags.skip (c :: left) = c :: left := rfl
  have tree : (Primitive.literal c false).tree? caselessFlags =
      some (.set (.caseless (.single c)) 0) := rfl
  rw [alternatives?, skipped]
  split <;> rename_i same
  · cases same
  case h_14 =>
    obtain ⟨rfl, rfl⟩ := List.cons.inj same
    rw [tree]
    rfl
  all_goals
    obtain ⟨rfl, rfl⟩ := List.cons.inj same
    exact absurd (by decide) plain

theorem alternatives?_letter {c : Char} (plain : c ≠ '*') :
    alternatives? (fuel + 1) caselessFlags [] items (globChars c ++ left) =
      alternatives? fuel caselessFlags [] (globItem c :: items) left := by
  have item : globItem c = .set (.caseless (.single c)) 0 := if_neg plain
  rw [globChars, if_neg plain, item]
  split
  · rename_i special
    exact alternatives?_escaped special
  · rename_i unspecial
    exact alternatives?_plain unspecial

theorem length_globChars_pos (c : Char) : 0 < (globChars c).length := by
  rw [globChars]
  split
  · exact Nat.zero_lt_two
  · split <;> exact Nat.succ_pos _

theorem alternatives?_closed (rest : List Char) :
    alternatives? (fuel + 1) caselessFlags [] items (')' :: rest) =
      some (.ofItems items.reverse, ')' :: rest) := rfl

/-- The pattern of a glob is read character for character. -/
theorem alternatives?_glob (glob rest : List Char)
    (enough : (glob.flatMap globChars).length < fuel) :
    alternatives? fuel caselessFlags [] items (glob.flatMap globChars ++ ')' :: rest) =
      some (.ofItems (items.reverse ++ glob.map globItem), ')' :: rest) := by
  -- A character takes no more fuel than it is written with characters.
  induction glob generalizing fuel items with
  | nil =>
    obtain ⟨fuel, rfl⟩ := Nat.exists_eq_succ_of_ne_zero (Nat.ne_of_gt enough)
    rw [List.map_nil, List.append_nil]
    exact alternatives?_closed rest
  | cons c others ih =>
    rw [List.flatMap_cons, List.length_append] at enough
    have next : items.reverse ++ (c :: others).map globItem =
        (globItem c :: items).reverse ++ others.map globItem := by simp
    rw [List.flatMap_cons, List.append_assoc, next]
    by_cases star : c = '*'
    · obtain rfl := star
      have written : globChars '*' = ['.', '*'] := rfl
      have two : (globChars '*').length = 2 := rfl
      obtain ⟨fuel, rfl⟩ : ∃ rest, fuel = rest + 2 := ⟨fuel - 2, by omega⟩
      rw [written]
      exact (alternatives?_star (dropLazy_globChars others rest)).trans (ih (by omega))
    · have some := length_globChars_pos c
      obtain ⟨fuel, rfl⟩ : ∃ rest, fuel = rest + 1 := ⟨fuel - 1, by omega⟩
      rw [alternatives?_letter star]
      exact ih (by omega)

theorem alternatives?_caseless {rest : List Char} :
    alternatives? (fuel + 1) {} [] [] ('(' :: '?' :: 'i' :: ')' :: rest) =
      alternatives? fuel caselessFlags [] [.setting] rest := rfl

theorem alternatives?_of_group {branches : List Tree} {rest : List Char} {t : Tree}
    (inner : alternatives? fuel {} [] [] rest = some (t, ')' :: left)) :
    alternatives? (fuel + 1) {} branches items ('(' :: '?' :: ':' :: rest) =
      alternatives? fuel {} branches (.group false none t :: items) left := by
  have opened : opening? {} ('?' :: ':' :: rest) = some (.group false none {}, rest) := rfl
  simp only [alternatives?, Flags.skip, Bool.false_eq_true, if_false, opened, inner]

/-- The pattern that is built from a glob. -/
def globPattern (glob : List Char) : Pattern := ⟨String.ofList (DeviceMatcher.globSource glob)⟩

theorem alternatives?_globPattern (glob : List Char) :
    alternatives? ((globPattern glob).anchored.length + 1) {} [] [] (globPattern glob).anchored =
      some (globTree glob, []) := by
  have written : (globPattern glob).source.toList = "(?i)".toList ++ glob.flatMap globChars := by
    rw [globPattern, String.toList_ofList, globSource_eq]
  have text : (globPattern glob).anchored = '^' :: '(' :: '?' :: ':' :: '(' :: '?' :: 'i' :: ')' ::
      (glob.flatMap globChars ++ [')', '$']) := by
    rw [anchored, written]
    simp
  have length : (globPattern glob).anchored.length + 1 = (glob.flatMap globChars).length + 11 := by
    rw [text]
    simp
  rw [length, text]
  generalize counted : (glob.flatMap globChars).length = count
  have inner : alternatives? (count + 8) caselessFlags [] [.setting]
      (glob.flatMap globChars ++ [')', '$']) =
        some (.ofItems (.setting :: glob.map globItem), [')', '$']) :=
    alternatives?_glob glob ['$'] (by omega)
  have group : alternatives? (count + 10) {} [] [.look .textStart] ('(' :: '?' :: ':' :: '(' ::
      '?' :: 'i' :: ')' :: (glob.flatMap globChars ++ [')', '$'])) =
        alternatives? (count + 9) {} []
          [.group false none (.ofItems (.setting :: glob.map globItem)), .look .textStart] ['$'] :=
    alternatives?_of_group (alternatives?_caseless.trans inner)
  exact (alternatives?_textStart (count + 10) [] [] _).trans group

end Reading

section Limits

variable (glob : List Char)

theorem names_ofItems (items : List Tree) : (Tree.ofItems items).names = Tree.namesOfAll items := by
  match items with
  | [] => rfl
  | [t] => exact (List.append_nil t.names).symm
  | _ :: _ :: _ => rfl

theorem nesting_ofItems_le (items : List Tree) :
    (Tree.ofItems items).nesting ≤ Tree.nestingOfAll items + 1 := by
  match items with
  | [] => exact Nat.zero_le _
  | [t] =>
    have deepest : t.nesting ≤ Tree.nestingOfAll [t] := Nat.le_max_left _ _
    exact Nat.le_succ_of_le deepest
  | _ :: _ :: _ => exact le_rfl

theorem room_ofItems_le (items : List Tree) :
    (Tree.ofItems items).room ≤ max Tree.stateRoom (Tree.roomOfAll items) := by
  match items with
  | [] => exact Nat.le_max_left _ _
  | [t] => exact Nat.le_trans (Nat.le_add_right _ _) (Nat.le_max_right _ _)
  | _ :: _ :: _ => exact le_rfl

theorem namesOfAll_globItems : Tree.namesOfAll (glob.map globItem) = [] := by
  induction glob with
  | nil => rfl
  | cons c others ih =>
    have none : (globItem c).names = [] := by
      unfold globItem
      split <;> rfl
    rw [List.map_cons, Tree.namesOfAll, none, ih, List.append_nil]

theorem nestingOfAll_globItems_le : Tree.nestingOfAll (glob.map globItem) ≤ 1 := by
  induction glob with
  | nil => exact Nat.zero_le _
  | cons c others ih =>
    have flat : (globItem c).nesting ≤ 1 := by
      unfold globItem
      split
      · exact le_rfl
      · exact Nat.zero_le _
    rw [List.map_cons, Tree.nestingOfAll]
    exact Nat.max_le.mpr ⟨flat, ih⟩

theorem roomOfAll_globItems_le (ascii : ∀ c ∈ glob, c.toNat < 128) :
    Tree.roomOfAll (glob.map globItem) ≤ 1040 * glob.length := by
  induction glob with
  | nil => exact le_rfl
  | cons c others ih =>
    obtain ⟨first, later⟩ := List.forall_mem_cons.mp ascii
    have step : (globItem c).room ≤ 1040 := by
      unfold globItem
      split
      · decide
      · have single : (CharSet.single c).room = 8 := if_pos first
        have room : (Tree.set (.caseless (.single c)) 0).room =
            32 + 2 * (CharSet.single c).room := rfl
        omega
    have rest := ih later
    rw [List.map_cons, Tree.roomOfAll, List.length_cons]
    omega

/-- The pattern of a glob of some ten thousand characters is not too large. -/
theorem room_globTree_le (ascii : ∀ c ∈ glob, c.toNat < 128) :
    (globTree glob).room ≤ 1040 * glob.length + 96 := by
  have items := roomOfAll_globItems_le glob ascii
  have inner := room_ofItems_le (.setting :: glob.map globItem)
  have unit : Tree.stateRoom = 32 := rfl
  simp only [Tree.roomOfAll, Tree.room, globTree, Tree.anchored, unit, Bool.false_eq_true,
    if_false] at inner ⊢
  omega

/-- The pattern that is built from a glob is a pattern, if it is not too large. -/
theorem tree?_globPattern : (globPattern glob).tree? =
    if (globTree glob).room ≤ maxRoom then some (globTree glob) else none := by
  have names : (globTree glob).names = [] := by
    simp only [globTree, Tree.anchored, Tree.names, Tree.namesOfAll, names_ofItems,
      namesOfAll_globItems, Option.toList_none, List.append_nil]
  have nesting : (globTree glob).nesting ≤ maxNesting := by
    have items := nestingOfAll_globItems_le glob
    have inner := nesting_ofItems_le (.setting :: glob.map globItem)
    have limit : maxNesting = 250 := rfl
    simp only [Tree.nestingOfAll, Tree.nesting, globTree, Tree.anchored, limit] at inner ⊢
    omega
  rw [tree?, Tree.ofChars?, alternatives?_globPattern]
  dsimp only
  rw [names]
  simp only [List.nodup_nil, nesting, true_and]

end Limits

section Matching

variable {text : List Char} {i j n : Nat}

theorem contains_single_iff {c d : Char} : (CharSet.single c).contains d = true ↔ d = c := by
  simp only [CharSet.single, CharSet.contains, Bool.and_eq_true, decide_eq_true_eq]
  constructor
  · rintro ⟨low, high⟩
    exact Char.le_antisymm high low
  · rintro rfl
    exact ⟨Char.le_refl _, Char.le_refl _⟩

theorem contains_caseless_iff {c d : Char} (ascii : d.toNat < 128) (ascii' : c.toNat < 128)
    (small : c.toLower = c) :
    (CharSet.caseless (.single c)).contains d = true ↔ d.toLower = c := by
  rw [← Text.mem_caselessTwins_iff ascii ascii' small, CharSet.contains, List.any_eq_true]
  simp only [contains_single_iff, exists_eq_right]

theorem matches_ofItems {items : List Tree} :
    (Tree.ofItems items).Matches text i j ↔ Tree.MatchesInTurn text items i j := by
  match items with
  | [] => exact Iff.rfl
  | [t] => simp only [Tree.ofItems, Tree.MatchesInTurn, exists_eq_right']
  | _ :: _ :: _ => exact Iff.rfl

theorem matches_dot (lines : '\n' ∉ text) :
    Tree.Matches text (.set (.compl (.single '\n')) 0) i j ↔ i < text.length ∧ j = i + 1 := by
  rw [Tree.Matches]
  refine and_congr_left fun _ => ?_
  constructor
  · rintro ⟨c, found, -⟩
    exact (List.getElem?_eq_some_iff.mp found).1
  · intro inside
    refine ⟨text[i], List.getElem?_eq_getElem inside, ?_⟩
    rw [CharSet.contains, Bool.not_eq_true', Bool.eq_false_iff, Ne, contains_single_iff]
    exact fun line => lines (line ▸ List.getElem_mem inside)

theorem rounds_dot (lines : '\n' ∉ text) (within : i ≤ text.length) :
    Rounds (Tree.Matches text (.set (.compl (.single '\n')) 0)) n i j ↔
      j = i + n ∧ j ≤ text.length := by
  induction n generalizing i with
  | zero =>
    rw [Rounds]
    omega
  | succ n ih =>
    simp only [Rounds, matches_dot lines]
    constructor
    · rintro ⟨k, ⟨inside, rfl⟩, more⟩
      rw [ih inside] at more
      omega
    · rintro ⟨rfl, inside⟩
      refine ⟨i + 1, ⟨by omega, rfl⟩, (ih (by omega)).mpr ⟨by omega, inside⟩⟩

/-- A star takes any text without line ends. -/
theorem matches_star (lines : '\n' ∉ text) (within : i ≤ text.length) :
    (globItem '*').Matches text i j ↔ i ≤ j ∧ j ≤ text.length := by
  have item : globItem '*' = .repeated (.set (.compl (.single '\n')) 0) 0 none := rfl
  rw [item, Tree.Matches]
  simp only [rounds_dot lines within]
  constructor
  · rintro ⟨more, -, rfl, inside⟩
    omega
  · rintro ⟨later, inside⟩
    exact ⟨j - i, nofun, by omega, inside⟩

/-- Behind a place the items of a glob match the rest of a text if it fills the pieces. -/
theorem matchesInTurn_globItems {glob : List Char}
    (small : ∀ c ∈ glob, c.toNat < 128 ∧ c.toLower = c) (ascii : ∀ d ∈ text, d.toNat < 128)
    (lines : '\n' ∉ text) (within : i ≤ text.length) :
    Tree.MatchesInTurn text (glob.map globItem) i text.length ↔
      Text.Filled (Text.pieces '*' glob) ((text.drop i).map Char.toLower) := by
  induction glob generalizing i with
  | nil =>
    rw [Text.filled_pieces_nil, List.map_eq_nil_iff, List.drop_eq_nil_iff, List.map_nil,
      Tree.MatchesInTurn]
    omega
  | cons c others ih =>
    obtain ⟨⟨plain, small'⟩, later⟩ := List.forall_mem_cons.mp small
    rw [List.map_cons, Tree.MatchesInTurn]
    by_cases star : c = '*'
    · obtain rfl := star
      rw [Text.filled_pieces_star]
      simp only [matches_star lines within]
      constructor
      · -- The star is filled by what stands between the two places.
        rintro ⟨j, ⟨behind, inside⟩, rest⟩
        rw [ih later inside] at rest
        refine ⟨((text.drop i).take (j - i)).map Char.toLower, _, ?_, rest⟩
        have place : i + (j - i) = j := by omega
        rw [← List.map_append, ← place, ← List.drop_drop, place, List.take_append_drop]
      · rintro ⟨filling, left, split, rest⟩
        have counted := congrArg List.length split
        rw [List.length_map, List.length_drop, List.length_append] at counted
        have behind : left = (text.drop (i + filling.length)).map Char.toLower := by
          rw [← List.drop_drop, List.map_drop, split, List.drop_left]
        refine ⟨i + filling.length, ⟨by omega, by omega⟩, ?_⟩
        rwa [ih later (by omega), ← behind]
    · have item : globItem c = .set (.caseless (.single c)) 0 := if_neg star
      rw [Text.filled_pieces_cons star, item]
      simp only [Tree.Matches]
      by_cases inside : i < text.length
      · have same := contains_caseless_iff (ascii _ (List.getElem_mem inside)) plain small'
        rw [List.drop_eq_getElem_cons inside, List.map_cons]
        constructor
        · rintro ⟨j, ⟨⟨d, found, contained⟩, rfl⟩, rest⟩
          rw [List.getElem?_eq_getElem inside] at found
          obtain rfl := Option.some.inj found
          exact ⟨_, by rw [same.mp contained], (ih later inside).mp rest⟩
        · rintro ⟨left, split, rest⟩
          obtain ⟨first, rfl⟩ := List.cons.inj split
          exact ⟨i + 1, ⟨⟨_, List.getElem?_eq_getElem inside, same.mpr first⟩, rfl⟩,
            (ih later inside).mpr rest⟩
      · have finished : text.drop i = [] := List.drop_eq_nil_iff.mpr (by omega)
        have missing : text[i]? = none := List.getElem?_eq_none (by omega)
        simp [finished, missing]

/-- Within its limit the pattern of a glob matches the texts that fill its pieces. -/
theorem isFullMatch_globPattern_iff {glob : List Char}
    (small : ∀ c ∈ glob, c.toNat < 128 ∧ c.toLower = c) (fits : (globTree glob).room ≤ maxRoom)
    (ascii : ∀ d ∈ text, d.toNat < 128) (lines : '\n' ∉ text) :
    (globPattern glob).isFullMatch text = true ↔
      Text.Filled (Text.pieces '*' glob) (text.map Char.toLower) := by
  have whole := matchesInTurn_globItems small ascii lines (Nat.zero_le text.length)
  rw [List.drop_zero] at whole
  rw [isFullMatch, tree?_globPattern, if_pos fits, Option.any_some, globTree, matchesIn_anchored,
    matches_ofItems, ← whole, Tree.MatchesInTurn]
  simp only [Tree.Matches, exists_eq_left]

end Matching

end Pattern

namespace DeviceMatcher

open Pattern

/-- Whatever the letter case of the marker, what stands in its parentheses is read as a glob. -/
theorem ofText_wildcard {mark body : String}
    (marker : mark.toList.map Char.toLower = "wildcard(".toList)
    (ascii : ∀ c ∈ body.toList, c.toNat < 128) :
    ofText (mark ++ body ++ ")") = .wildcard (globPattern (Text.lowerChars body.toList)) := by
  have marked : ∀ c ∈ mark.toList, c.toNat < 128 := by
    intro c inside
    have among : c.toLower ∈ "wildcard(".toList := marker ▸ List.mem_map_of_mem inside
    have lower : ∀ d ∈ "wildcard(".toList, d.toNat < 128 := by simp
    exact Text.toNat_lt_of_toLower (lower _ among)
  have text : ∀ c ∈ (mark ++ body ++ ")").toList, c.toNat < 128 := by
    simp only [String.toList_append, List.forall_mem_append]
    exact ⟨⟨marked, ascii⟩, by simp⟩
  have lower : Text.lowerChars (mark ++ body ++ ")").toList =
      "wildcard(".toList ++ (Text.lowerChars body.toList ++ [')']) := by
    rw [Text.lowerChars_ascii text, Text.lowerChars_ascii ascii, String.toList_append,
      String.toList_append, List.map_append, List.map_append, marker, List.append_assoc]
    rfl
  have opened := Text.after?_eq_some_iff.mpr lower
  have closed : Text.before? [')'] (Text.lowerChars body.toList ++ [')']) =
      some (Text.lowerChars body.toList) := Text.before?_eq_some_iff.mpr rfl
  rw [ofText, opened, Option.bind_some, closed]
  rfl

/-- A wildcard of a device is a glob: letter case does not count, each star stands for any text, and
every other character for itself. -/
theorem wildcard_is_glob {mark body candidate : String}
    (marker : mark.toList.map Char.toLower = "wildcard(".toList)
    (ascii : ∀ c ∈ body.toList, c.toNat < 128)
    (fits : (globTree (Text.lowerChars body.toList)).room ≤ maxRoom)
    (ascii' : ∀ c ∈ candidate.toList, c.toNat < 128) (lines : '\n' ∉ candidate.toList) :
    (ofText (mark ++ body ++ ")")).accepts candidate = true ↔
      Text.Filled (Text.pieces '*' (Text.lowerChars body.toList))
        (Text.lowerChars candidate.toList) := by
  have small : ∀ c ∈ Text.lowerChars body.toList, c.toNat < 128 ∧ c.toLower = c := by
    rw [Text.lowerChars_ascii ascii]
    intro c inside
    obtain ⟨d, within, rfl⟩ := List.mem_map.mp inside
    exact Text.toLower_ascii (ascii d within)
  rw [ofText_wildcard marker ascii, Text.lowerChars_ascii ascii']
  exact isFullMatch_globPattern_iff small fits ascii' lines

/-- A star takes what it has to. A dot is not any character, and parentheses are no group. -/
theorem chrome_is_matched :
    (ofText ("WildCard(" ++ "Chrome (v*.0)*" ++ ")")).accepts "chrome (V12.0) Beta" = true ∧
      (ofText ("wildcard(" ++ "Chrome 1.0" ++ ")")).accepts "Chrome 1x0" = false := by
  have short (glob : List Char) (ascii : ∀ c ∈ glob, c.toNat < 128) (few : glob.length ≤ 14) :
      (globTree glob).room ≤ maxRoom := by
    have room := room_globTree_le glob ascii
    have limit : maxRoom = 10485760 := rfl
    omega
  have version : Text.lowerChars "Chrome (v*.0)*".toList = "chrome (v*.0)*".toList := by
    decide +kernel
  have plain : Text.lowerChars "Chrome 1.0".toList = "chrome 1.0".toList := by decide +kernel
  have fits : (globTree (Text.lowerChars "Chrome (v*.0)*".toList)).room ≤ maxRoom := by
    rw [version]
    exact short _ (by simp) (by decide)
  have fits' : (globTree (Text.lowerChars "Chrome 1.0".toList)).room ≤ maxRoom := by
    rw [plain]
    exact short _ (by simp) (by decide)
  have parts : Text.pieces '*' "chrome (v*.0)*".toList =
      ["chrome (v".toList, ".0)".toList, []] := by decide +kernel
  have whole : Text.pieces '*' "chrome 1.0".toList = ["chrome 1.0".toList] := by decide +kernel
  constructor
  · rw [wildcard_is_glob (by decide) (by simp) fits (by simp) (by decide), version, parts]
    exact ⟨"12".toList, ".0) beta".toList, by decide +kernel, " beta".toList, [],
      by decide +kernel, rfl⟩
  · rw [← Bool.not_eq_true,
      wildcard_is_glob (by decide) (by simp) fits' (by simp) (by decide), plain, whole]
    have differ : Text.lowerChars "Chrome 1x0".toList ≠ "chrome 1.0".toList := by decide +kernel
    exact differ

end DeviceMatcher

end FeatureFlags
