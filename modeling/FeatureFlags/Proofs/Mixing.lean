import FeatureFlags.Hash.Murmur3
import Mathlib.Data.Fintype.Card
import Mathlib.Data.Nat.Digits.Lemmas

namespace FeatureFlags

namespace Murmur3

open Function (Injective)

section Steps

theorem mul_injective {factor inverse : UInt32} (unit : factor * inverse = 1) :
    Injective (· * factor) := by
  intro x y same
  have back := congrArg (· * inverse) same
  simpa only [UInt32.mul_assoc, unit, UInt32.mul_one] using back

variable {k : UInt32} (some : 0 < k.toNat) (below : k.toNat < 32)
include some below

/-- A word that is not changed by moving its bits down has none. -/
theorem eq_zero_of_eq_shiftRight {x : UInt32} (same : x = x >>> k) : x = 0 := by
  have value : x.toNat = x.toNat / 2 ^ k.toNat := by
    conv_lhs => rw [same, UInt32.toNat_shiftRight, Nat.mod_eq_of_lt below,
      Nat.shiftRight_eq_div_pow]
  rw [← UInt32.toNat_inj, UInt32.toNat_zero]
  by_contra positive
  have smaller := Nat.div_lt_self (Nat.pos_of_ne_zero positive) (Nat.one_lt_two_pow some.ne')
  exact smaller.ne value.symm

theorem xor_shiftRight_injective : Injective fun x => x ^^^ (x >>> k) := by
  intro x y same
  dsimp only at same
  have difference : x ^^^ y = (x ^^^ y) >>> k := by
    rw [UInt32.shiftRight_xor, ← UInt32.xor_eq_zero_iff]
    calc x ^^^ y ^^^ (x >>> k ^^^ y >>> k) = (x ^^^ (x >>> k)) ^^^ (y ^^^ (y >>> k)) := by ac_rfl
      _ = 0 := by rw [same, UInt32.xor_self]
  exact UInt32.xor_eq_zero_iff.mp (eq_zero_of_eq_shiftRight some below difference)

omit some in
theorem upper_bits_lt (x : UInt32) : x.toNat / 2 ^ (32 - k.toNat) < 2 ^ k.toNat := by
  apply Nat.div_lt_of_lt_mul
  rw [← Nat.pow_add, Nat.sub_add_cancel below.le]
  exact x.toNat_lt

/-- In a rotation the upper bits come to stand below the lower ones. -/
theorem toNat_rotate (x : UInt32) : (rotate x k).toNat =
    2 ^ k.toNat * (x.toNat % 2 ^ (32 - k.toNat)) + x.toNat / 2 ^ (32 - k.toNat) := by
  have width : 2 ^ (32 - k.toNat) * 2 ^ k.toNat = 2 ^ 32 := by
    rw [← Nat.pow_add, Nat.sub_add_cancel below.le]
  have amount : (32 - k).toNat % 32 = 32 - k.toNat := by
    rw [UInt32.toNat_sub_of_le _ _ (UInt32.le_iff_toNat_le.mpr below.le)]
    exact Nat.mod_eq_of_lt (Nat.sub_lt (by decide) some)
  rw [Nat.two_pow_add_eq_or_of_lt (upper_bits_lt below x), rotate, UInt32.toNat_or,
    UInt32.toNat_shiftLeft, UInt32.toNat_shiftRight, amount, Nat.mod_eq_of_lt below,
    Nat.shiftLeft_eq, Nat.shiftRight_eq_div_pow, ← width, Nat.mul_mod_mul_right, Nat.mul_comm]

theorem rotate_injective : Injective (rotate · k) := by
  intro x y same
  have value := congrArg UInt32.toNat same
  dsimp only at value
  rw [toNat_rotate some below, toNat_rotate some below] at value
  have upper : x.toNat / 2 ^ (32 - k.toNat) = y.toNat / 2 ^ (32 - k.toNat) := by
    have rest := congrArg (· % 2 ^ k.toNat) value
    simpa only [Nat.mul_add_mod, Nat.mod_eq_of_lt (upper_bits_lt below _)] using rest
  have lower : x.toNat % 2 ^ (32 - k.toNat) = y.toNat % 2 ^ (32 - k.toNat) := by
    rw [upper, Nat.add_right_cancel_iff] at value
    exact Nat.eq_of_mul_eq_mul_left (Nat.two_pow_pos _) value
  rw [← UInt32.toNat_inj, ← Nat.div_add_mod x.toNat (2 ^ (32 - k.toNat)), upper, lower,
    Nat.div_add_mod]

end Steps

theorem spread_injective : Injective spread := by
  have first := mul_injective (show (0xcc9e2d51 : UInt32) * 0xdee13bb1 = 1 by decide)
  have last := mul_injective (show (0x1b873593 : UInt32) * 0x56ed309b = 1 by decide)
  exact last.comp ((rotate_injective (k := 15) (by decide) (by decide)).comp first)

theorem finish_injective : Injective finish := by
  have first := mul_injective (show (0x85ebca6b : UInt32) * 0xa5cb9243 = 1 by decide)
  have last := mul_injective (show (0xc2b2ae35 : UInt32) * 0x7ed1b41d = 1 by decide)
  have half := xor_shiftRight_injective (k := 16) (by decide) (by decide)
  have uneven := xor_shiftRight_injective (k := 13) (by decide) (by decide)
  exact half.comp (last.comp (uneven.comp (first.comp half)))

/-- All that is done to a state after a word has been mixed in can be undone. -/
theorem absorb_eq_absorb_iff {h i k l : UInt32} :
    absorb h k = absorb i l ↔ h ^^^ spread k = i ^^^ spread l := by
  have factor := mul_injective (show (5 : UInt32) * 0xcccccccd = 1 by decide)
  unfold absorb
  rw [UInt32.add_left_inj, factor.eq_iff,
    (rotate_injective (k := 13) (by decide) (by decide)).eq_iff]

theorem absorb_left_injective (k : UInt32) : Injective (absorb · k) := fun _ _ same =>
  (UInt32.xor_left_inj _).mp (absorb_eq_absorb_iff.mp same)

theorem absorb_right_injective (h : UInt32) : Injective (absorb h) := fun _ _ same =>
  spread_injective ((UInt32.xor_right_inj _).mp (absorb_eq_absorb_iff.mp same))

theorem lt_of_mem_digits {bytes : List UInt8} {d : Nat} (member : d ∈ bytes.map UInt8.toNat) :
    d < 256 := by
  obtain ⟨b, -, rfl⟩ := List.mem_map.mp member
  exact b.toNat_lt

/-- Up to four bytes are the digits of their word. -/
theorem toNat_word {bytes : List UInt8} (short : bytes.length ≤ 4) :
    (word bytes).toNat = Nat.ofDigits 256 (bytes.map UInt8.toNat) := by
  induction bytes with
  | nil => rfl
  | cons b rest ih =>
    rw [List.length_cons] at short
    have small : Nat.ofDigits 256 (rest.map UInt8.toNat) < _ :=
      Nat.ofDigits_lt_base_pow_length (by decide) fun _ => lt_of_mem_digits
    have room : 256 ^ (rest.map UInt8.toNat).length ≤ 256 ^ 3 := by
      rw [List.length_map]
      exact Nat.pow_le_pow_right (by decide) (by omega)
    rw [word, UInt32.toNat_or, UInt32.toNat_shiftLeft, ih (by omega), UInt8.toNat_toUInt32,
      List.map_cons, Nat.ofDigits_cons]
    generalize Nat.ofDigits 256 (rest.map UInt8.toNat) = upper at small
    have kept : upper <<< (UInt32.toNat 8 % 32) % 2 ^ 32 = 2 ^ 8 * upper := by
      change upper <<< 8 % 2 ^ 32 = 2 ^ 8 * upper
      rw [Nat.shiftLeft_eq, Nat.mul_comm]
      exact Nat.mod_eq_of_lt (by omega)
    rw [kept, Nat.or_comm, ← Nat.two_pow_add_eq_or_of_lt b.toNat_lt, Nat.add_comm]

theorem word_injective {first second : List UInt8} (length : first.length = second.length)
    (short : first.length ≤ 4) (same : word first = word second) : first = second := by
  have value := congrArg UInt32.toNat same
  rw [toNat_word short, toNat_word (length ▸ short)] at value
  have alike := Nat.ofDigits_inj_of_len_eq (by decide) (by simpa using length)
    (fun _ => lt_of_mem_digits) (fun _ => lt_of_mem_digits) value
  exact (List.map_inj_right fun _ _ => UInt8.toNat_inj.mp).mp alike

theorem absorbAll_of_short (h : UInt32) {bytes : List UInt8} (short : bytes.length < 4) :
    absorbAll h bytes = h ^^^ spread (word bytes) := by
  match bytes with
  | [] =>
    have nothing : spread (word []) = 0 := by decide
    rw [nothing, UInt32.xor_zero]
    rfl
  | [_] | [_, _] | [_, _, _] => rfl
  | _ :: _ :: _ :: _ :: rest =>
    simp only [List.length_cons] at short
    omega

theorem absorbAll_of_long (h : UInt32) {bytes : List UInt8} (long : 4 ≤ bytes.length) :
    absorbAll h bytes = absorbAll (absorb h (word (bytes.take 4))) (bytes.drop 4) := by
  match bytes with
  | [] | [_] | [_, _] | [_, _, _] => simp at long
  | a :: b :: c :: d :: rest =>
    conv_lhs => unfold absorbAll
    rfl

theorem absorbAll_injective (bytes : List UInt8) : Injective (absorbAll · bytes) := by
  induction length : bytes.length using Nat.strongRecOn generalizing bytes with
  | ind n ih =>
    intro h i same
    dsimp only at same
    by_cases long : 4 ≤ bytes.length
    · rw [absorbAll_of_long h long, absorbAll_of_long i long] at same
      have rest := ih (bytes.drop 4).length (by simp; omega) (bytes.drop 4) rfl
      exact absorb_left_injective _ (rest same)
    · rw [absorbAll_of_short h (by omega), absorbAll_of_short i (by omega)] at same
      exact (UInt32.xor_left_inj _).mp same

section OneBlock

variable {first second : List UInt8} {block : Nat}

theorem drop_ne_of_take (differ : first ≠ second) (heads : first.take 4 = second.take 4) :
    first.drop 4 ≠ second.drop 4 := fun tails =>
  differ (by rw [← List.take_append_drop 4 first, heads, tails, List.take_append_drop])

/-- Texts that differ in one block lead to different states: the blocks before it lead to the same
state, and those behind it keep two states apart. -/
theorem absorbAll_ne (length : first.length = second.length) (differ : first ≠ second)
    (within : ∀ i, first[i]? ≠ second[i]? → i / 4 = block) (h : UInt32) :
    absorbAll h first ≠ absorbAll h second := by
  induction block generalizing h first second with
  | zero =>
    have tails : first.drop 4 = second.drop 4 := by
      apply List.ext_getElem?
      intro i
      rw [List.getElem?_drop, List.getElem?_drop]
      by_contra apart
      have early := within _ apart
      omega
    by_cases long : 4 ≤ first.length
    · rw [absorbAll_of_long h long, absorbAll_of_long h (length ▸ long), tails]
      intro same
      have words := absorb_right_injective h (absorbAll_injective _ same)
      exact drop_ne_of_take differ (word_injective (by simp [length]) (by simp) words) tails
    · rw [absorbAll_of_short h (by omega), absorbAll_of_short h (by omega)]
      intro same
      have words := spread_injective ((UInt32.xor_right_inj _).mp same)
      exact differ (word_injective length (by omega) words)
  | succ block ih =>
    have heads : first.take 4 = second.take 4 := by
      apply List.ext_getElem?
      intro i
      rw [List.getElem?_take, List.getElem?_take]
      split
      · by_contra apart
        have late := within _ apart
        omega
      · rfl
    have tails := drop_ne_of_take differ heads
    have long : 4 ≤ first.length := by
      by_contra short
      exact tails (by rw [List.drop_eq_nil_of_le (by omega), List.drop_eq_nil_of_le (by omega)])
    rw [absorbAll_of_long h long, absorbAll_of_long h (length ▸ long), heads]
    refine ih (by simp [length]) tails (fun i apart => ?_) _
    rw [List.getElem?_drop, List.getElem?_drop] at apart
    have later := within _ apart
    omega

theorem hash_ne (length : first.length = second.length) (differ : first ≠ second)
    (within : ∀ i, first[i]? ≠ second[i]? → i / 4 = block) (seed : UInt32) :
    hash seed first ≠ hash seed second := by
  intro same
  have states := finish_injective same
  rw [length, UInt32.xor_left_inj] at states
  exact absorbAll_ne length differ within seed states

end OneBlock

/-- The four bytes of a word, the lowest first. -/
def bytesOf (k : UInt32) : List UInt8 :=
  [k.toUInt8, (k >>> 8).toUInt8, (k >>> 16).toUInt8, (k >>> 24).toUInt8]

theorem word_bytesOf (k : UInt32) : word (bytesOf k) = k := by
  have size := k.toNat_lt
  rw [← UInt32.toNat_inj, toNat_word (le_of_eq rfl)]
  simp [bytesOf, Nat.ofDigits_cons, Nat.shiftRight_eq_div_pow]
  omega

/-- Two texts of four bytes can only differ in the first block. -/
theorem hash_injective_of_four (seed : UInt32) {first second : List UInt8}
    (four : first.length = 4) (four' : second.length = 4)
    (same : hash seed first = hash seed second) : first = second := by
  by_contra differ
  have first_block (i : Nat) (apart : first[i]? ≠ second[i]?) : i / 4 = 0 := by
    by_contra late
    exact apart (by rw [List.getElem?_eq_none (by omega), List.getElem?_eq_none (by omega)])
  exact hash_ne (four.trans four'.symm) differ first_block seed same

instance finite_words : Finite UInt32 :=
  Finite.of_injective UInt32.toFin fun _ _ => UInt32.toFin_inj.mp

theorem exists_four_bytes (seed value : UInt32) :
    ∃ bytes : List UInt8, bytes.length = 4 ∧ hash seed bytes = value := by
  have injective : Injective fun k => hash seed (bytesOf k) := fun k l same => by
    have bytes := hash_injective_of_four seed rfl rfl same
    rw [← word_bytesOf k, bytes, word_bytesOf]
  obtain ⟨k, hashed⟩ := Finite.surjective_of_injective injective value
  exact ⟨bytesOf k, rfl, hashed⟩

/-- No byte of a text is ignored: texts of one length that differ, but only in one aligned block of
four bytes or only in what is left behind the last one, have different hashes. Each 32-bit value is
the hash of exactly one text of four bytes. -/
theorem hash_tells_blocks_apart (seed : UInt32) :
    (∀ (first second : List UInt8) (block : Nat), first.length = second.length → first ≠ second →
      (∀ i, first[i]? ≠ second[i]? → i / 4 = block) → hash seed first ≠ hash seed second) ∧
    ∀ value, ∃! bytes : List UInt8, bytes.length = 4 ∧ hash seed bytes = value := by
  refine ⟨fun first second block length differ within => hash_ne length differ within seed,
    fun value => ?_⟩
  obtain ⟨bytes, four, hashed⟩ := exists_four_bytes seed value
  refine ⟨bytes, ⟨four, hashed⟩, fun other held => ?_⟩
  exact hash_injective_of_four seed held.1 four (held.2.trans hashed.symm)

/-- The last byte of `user-1` and `user-2` is one of two that form no full block. -/
theorem hash_of_user_1_ne_user_2 :
    let first : List UInt8 := [0x75, 0x73, 0x65, 0x72, 0x2d, 0x31]
    let second : List UInt8 := [0x75, 0x73, 0x65, 0x72, 0x2d, 0x32]
    first.length = second.length ∧ first ≠ second ∧
      (∀ i, first[i]? ≠ second[i]? → i / 4 = 1) ∧ hash 1 first ≠ hash 1 second := by
  have within (i : Nat) (apart : ([0x75, 0x73, 0x65, 0x72, 0x2d, 0x31] : List UInt8)[i]? ≠
      ([0x75, 0x73, 0x65, 0x72, 0x2d, 0x32] : List UInt8)[i]?) : i / 4 = 1 := by
    match i with
    | 0 | 1 | 2 | 3 | 4 => exact absurd rfl apart
    | 5 => rfl
    | i + 6 => exact absurd rfl apart
  exact ⟨rfl, by decide, within,
    (hash_tells_blocks_apart 1).1 _ _ 1 rfl (by decide) within⟩

end Murmur3

end FeatureFlags
