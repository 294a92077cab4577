import FeatureFlags.Text.Casing

namespace FeatureFlags.Text

/-- What holds of each of the first characters holds of all characters below them. -/
theorem forall_ascii {P : Char → Prop} (each : ∀ n < 128, P (Char.ofNat n)) {c : Char}
    (ascii : c.toNat < 128) : P c := by
  have holds := each c.toNat ascii
  rwa [Char.ofNat_toNat] at holds

theorem lowerFrom_ascii {cs : List Char} (ascii : ∀ c ∈ cs, c.toNat < 128) (before : List Char) :
    lowerFrom before cs = cs.map Char.toLower := by
  induction cs generalizing before with
  | nil => rfl
  | cons c rest ih =>
    obtain ⟨first, later⟩ := List.forall_mem_cons.mp ascii
    have undotted : c ≠ '\u0130' := by
      rintro rfl
      exact absurd first (by decide)
    have unsigned : c ≠ '\u03a3' := by
      rintro rfl
      exact absurd first (by decide)
    rw [lowerFrom, if_neg undotted, if_neg unsigned, lowerChar, if_pos first, ih later]
    rfl

theorem lowerChars_ascii {cs : List Char} (ascii : ∀ c ∈ cs, c.toNat < 128) :
    lowerChars cs = cs.map Char.toLower := lowerFrom_ascii ascii []

theorem toLower_ascii {c : Char} (ascii : c.toNat < 128) :
    c.toLower.toNat < 128 ∧ c.toLower.toLower = c.toLower :=
  forall_ascii (P := fun c => c.toLower.toNat < 128 ∧ c.toLower.toLower = c.toLower)
    (by decide +kernel) ascii

theorem toNat_lt_of_toLower {c : Char} (ascii : c.toLower.toNat < 128) : c.toNat < 128 := by
  unfold Char.toLower at ascii
  split at ascii
  · rename_i capital
    have high : c.toNat ≤ 90 := UInt32.le_iff_toNat_le.mp capital.2
    omega
  · exact ascii

/-- No capital is its own small letter. -/
theorem not_capital_of_toLower {c : Char} (ascii : c.toNat < 128) (small : c.toLower = c) :
    ¬(0x41 ≤ c.toNat ∧ c.toNat ≤ 0x5a) :=
  forall_ascii (P := fun c => c.toLower = c → ¬(0x41 ≤ c.toNat ∧ c.toNat ≤ 0x5a))
    (by decide +kernel) ascii small

/-- The code points of the run are characters, and below 128 only capitals are in it. -/
def CaseRun.isPlain (run : CaseRun) : Bool :=
  (run.first = 0x41 && run.last = 0x5a) ||
    (0x80 ≤ run.first && (run.last < 0xd800 || (0xe000 ≤ run.first && run.last < 0x110000)))

theorem CaseRun.toNat_ofNat_of_isPlain {run : CaseRun} {n : Nat} (plain : run.isPlain = true)
    (covered : run.covers n = true) :
    (Char.ofNat n).toNat = n ∧ (n < 0x80 → 0x41 ≤ n ∧ n ≤ 0x5a) := by
  simp only [isPlain, covers, Bool.and_eq_true, Bool.or_eq_true, decide_eq_true_eq] at plain covered
  have valid : n.isValidChar := by
    unfold Nat.isValidChar
    omega
  refine ⟨?_, by omega⟩
  rw [Char.ofNat, dif_pos valid]
  rfl

/-- The table by which a caseless comparison takes characters for one another. -/
theorem exists_folding : ∃ runs : List CaseRun, runs.all (·.isPlain) = true ∧
    ∀ c, caselessTwins c =
      foldChar c :: (CaseRun.sources runs (foldChar c).toNat).map Char.ofNat := by
  refine ⟨_, ?_, fun c => rfl⟩
  decide +kernel

/-- Among ASCII a character that is no capital is taken for itself and for its capital. -/
theorem mem_caselessTwins_iff {c d : Char} (ascii : d.toNat < 128) (ascii' : c.toNat < 128)
    (small : c.toLower = c) : c ∈ caselessTwins d ↔ d.toLower = c := by
  obtain ⟨runs, plain, twins⟩ := exists_folding
  have first : foldChar d = d.toLower := if_pos ascii
  rw [twins, List.mem_cons, first]
  constructor
  · rintro (same | source)
    · exact same.symm
    · -- What a run sends to a small letter is its capital, or beyond ASCII.
      obtain ⟨m, sent, rfl⟩ := List.mem_map.mp source
      obtain ⟨run, among, found⟩ := List.mem_filterMap.mp sent
      obtain ⟨covered, same⟩ := Option.ite_none_right_eq_some.mp found
      obtain rfl := Option.some.inj same
      have plain' := List.all_eq_true.mp plain run among
      obtain ⟨code, capital⟩ := CaseRun.toNat_ofNat_of_isPlain plain' covered
      have apart := not_capital_of_toLower ascii' small
      rw [code] at ascii' apart
      exact absurd (capital ascii') apart
  · rintro rfl
    exact Or.inl rfl

end FeatureFlags.Text
