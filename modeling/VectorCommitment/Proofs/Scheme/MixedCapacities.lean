import VectorCommitment.Proofs.Scheme.Opening

/-! Openings that are made with the parameters of one capacity and verified with those of another,
both from one trapdoor. -/

namespace VectorCommitment

open Value

section Residues

variable {α capacity position : ℕ} {units : List ℕ}

lemma witnessResidue_eq (hfits : units.length ≤ capacity) (hposition : position < units.length) :
    witnessResidue α capacity position units =
      (α : ZMod groupOrder) ^ (capacity - position) * (commitmentResidue α units -
        units.getD position 0 * (α : ZMod groupOrder) ^ (position + 1)) := by
  have hdifference := commitmentResidue_mul α hfits hposition
  have hexponent : capacity + 1 = capacity - position + (position + 1) := by omega
  rw [hexponent, pow_add] at hdifference
  linear_combination -hdifference

lemma witnessResidue_eq_zero (hposition : position ≤ capacity)
    (hothers : ∀ k, k ≠ position → (units.getD k 0 : ZMod groupOrder) = 0) :
    witnessResidue α capacity position units = 0 := by
  refine Finset.sum_eq_zero fun k _ => ?_
  by_cases hk : k = position
  · have hslot : capacity - position + k = capacity := by omega
    rw [Setup.proverResidue, if_pos hslot, mul_zero]
  · rw [hothers k hk, zero_mul]

lemma witnessResidue_solves_iff (hα : (α : ZMod groupOrder) ≠ 0) (hfits : units.length ≤ capacity)
    (hposition : position < units.length) {other : ℕ} (hother : position < other) :
    witnessResidue α capacity position units =
        commitmentResidue α units * (α : ZMod groupOrder) ^ (other - position) -
          units.getD position 0 * (α : ZMod groupOrder) ^ (other + 1) ↔
      (α : ZMod groupOrder) ^ capacity = (α : ZMod groupOrder) ^ other ∨
        witnessResidue α capacity position units = 0 := by
  have hexponent : other + 1 = other - position + (position + 1) := by omega
  have hcapacity : capacity = capacity - position + position := by omega
  have hpower : other = other - position + position := by omega
  have hright : commitmentResidue α units * (α : ZMod groupOrder) ^ (other - position) -
      units.getD position 0 * (α : ZMod groupOrder) ^ (other + 1) =
        (α : ZMod groupOrder) ^ (other - position) * (commitmentResidue α units -
          units.getD position 0 * (α : ZMod groupOrder) ^ (position + 1)) := by
    rw [hexponent, pow_add]
    ring
  have hpowers : (α : ZMod groupOrder) ^ capacity = (α : ZMod groupOrder) ^ other ↔
      (α : ZMod groupOrder) ^ (capacity - position) =
        (α : ZMod groupOrder) ^ (other - position) := by
    conv_lhs => rw [hcapacity, hpower, pow_add, pow_add]
    exact mul_left_inj' (pow_ne_zero _ hα)
  rw [hright, witnessResidue_eq hfits hposition, hpowers, mul_eq_mul_right_iff, mul_eq_zero,
    or_iff_right (pow_ne_zero _ hα)]

end Residues

/-- An honest opening with the parameters of one capacity is accepted with those of another exactly
where the powers of the trapdoor by the two capacities agree or the witness is infinity. -/
theorem opened_across_capacities {e : PairingMap} {base : Target} (h : e.IsBilinear base)
    (horder : orderOf base = groupOrder) {α : ℕ} (hα : (α : ZMod groupOrder) ≠ 0)
    {n m drawn₁ drawn₂ : ℕ} {capacity₁ capacity₂ seed₁ seed₂ : Value}
    (hn : capacity₁.toInt = .ok (n : ℤ)) (hm : capacity₂.toInt = .ok (m : ℤ)) (hn₁ : 1 ≤ n)
    (hm₁ : 1 ≤ m) (hα₁ : Setup.trapdoor drawn₁ seed₁ = .ok α)
    (hα₂ : Setup.trapdoor drawn₂ seed₂ = .ok α) :
    ∃ prover₁ verifier₁ prover₂ verifier₂,
      generate e drawn₁ capacity₁ seed₁ = .ok (prover₁, verifier₁) ∧
      generate e drawn₂ capacity₂ seed₂ = .ok (prover₂, verifier₂) ∧
      ∀ (inputs value : Value) (items : List Value) (position : ℕ) (z : ZMod groupOrder),
        inputs.members = .ok items → (∀ item ∈ items, ∃ x, item.residueClass? = some x) →
        items.length ≤ n → position < m → items[position]? = some value →
        value.residueClass? = some z → z ≠ 0 →
        ∃ commitment witness accepted, commit prover₁ inputs = .ok commitment ∧
          createWitness prover₁ inputs (.int position) = .ok witness ∧
          verify e commitment verifier₂ value (.int position) witness = .ok accepted ∧
          (accepted = true ↔
            (α : ZMod groupOrder) ^ n = (α : ZMod groupOrder) ^ m ∨ witness = .null) ∧
          ((∀ (k : ℕ) (item : Value), k ≠ position → items[k]? = some item →
            item.residueClass? = some 0) → witness = .null) := by
  refine ⟨_, _, _, _, generate_eq h hn hn₁ hα₁, generate_eq h hm hm₁ hα₂, ?_⟩
  intro inputs value items position z hmembers hitems hfits hplace hvalue hclass hz
  obtain ⟨units, hunits, hlength, hvalues⟩ := exists_units hitems
  have hunit := hvalues position value z hvalue hclass
  have hposition : position < units.length := by
    rw [hlength]
    exact (List.getElem?_eq_some_iff.mp hvalue).1
  have hnonzero : units.getD position 0 ≠ 0 := by
    intro hzero
    rw [hzero, Nat.cast_zero] at hunit
    exact hz hunit.symm
  rw [← hlength] at hfits
  refine ⟨_, _, _, commit_eq hmembers hunits hfits (by omega),
    createWitness_eq hmembers hunits hfits hposition hnonzero (by omega),
    verify_eq h hplace (Setup.getElem?_verifierValues α hplace) hclass hz _ _, ?_, ?_⟩
  · rw [decide_eq_true_eq, power_eq_iff horder hz, ofResidue_eq_null_iff, ← hunit]
    exact witnessResidue_solves_iff hα hfits hposition hplace
  · intro hothers
    rw [ofResidue_eq_null_iff]
    refine witnessResidue_eq_zero (by omega) fun k hk => ?_
    cases hitem : items[k]? with
    | some item => exact hvalues k item 0 hitem (hothers k item hk hitem)
    | none =>
      rw [List.getElem?_eq_none_iff, ← hlength] at hitem
      rw [List.getD_eq_default _ _ hitem, Nat.cast_zero]

theorem opened_across_capacities_lone_item :
    ∃ prover₁ verifier₁ prover₂ verifier₂,
      generate logarithmPairing 5 (.int 2) .null = .ok (prover₁, verifier₁) ∧
      generate logarithmPairing 5 (.int 1) .null = .ok (prover₂, verifier₂) ∧
      Opens logarithmPairing prover₁ verifier₂ (.list [.int (-3)]) 0 (.int (-3)) ∧
      ¬Opens logarithmPairing prover₁ verifier₂ (.list [.scalar 3, .scalar 4]) 0 (.scalar 3) := by
  have hα : ((5 : ℕ) : ZMod groupOrder) ≠ 0 := by decide +kernel
  have hthree : ((3 : ℕ) : ZMod groupOrder) ≠ 0 := by decide +kernel
  have hminus : ((-3 : ℤ) : ZMod groupOrder) ≠ 0 := by decide +kernel
  have hpowers : ((5 : ℕ) : ZMod groupOrder) ^ 2 ≠ ((5 : ℕ) : ZMod groupOrder) ^ 1 := by
    decide +kernel
  obtain ⟨prover₁, verifier₁, prover₂, verifier₂, hfirst, hsecond, hopened⟩ :=
    opened_across_capacities logarithmPairing_isBilinear orderOf_generatorTarget hα
      (show (Value.int 2).toInt = .ok ((2 : ℕ) : ℤ) from rfl)
      (show (Value.int 1).toInt = .ok ((1 : ℕ) : ℤ) from rfl) (by decide) (by decide)
      (show Setup.trapdoor 5 .null = .ok 5 from rfl) (show Setup.trapdoor 5 .null = .ok 5 from rfl)
  refine ⟨prover₁, verifier₁, prover₂, verifier₂, hfirst, hsecond, ?_, ?_⟩
  · obtain ⟨commitment, witness, accepted, hcommit, hwitness, hverify, haccepted, hlone⟩ :=
      hopened (.list [.int (-3)]) (.int (-3)) _ 0 _ rfl (by simp [residueClass?]) (by decide)
        (by decide) rfl rfl hminus
    have hinfinity : witness = .null := hlone fun k item hk hitem => by
      cases k with
      | zero => exact absurd rfl hk
      | succ k => cases hitem
    rw [haccepted.mpr (Or.inr hinfinity)] at hverify
    exact ⟨commitment, witness, hcommit, hwitness, hverify⟩
  · rintro ⟨commitment, witness, hcommit, hwitness, hverify⟩
    obtain ⟨_, _, accepted, hcommit', hwitness', hverify', haccepted, -⟩ :=
      hopened (.list [.scalar 3, .scalar 4]) (.scalar 3) _ 0 _ rfl (by simp [residueClass?])
        (by decide) (by decide) rfl rfl hthree
    obtain rfl := Except.ok.inj (hcommit.symm.trans hcommit')
    obtain rfl := Except.ok.inj (hwitness.symm.trans hwitness')
    obtain rfl := Except.ok.inj (hverify.symm.trans hverify')
    have hinfinity := (haccepted.mp rfl).resolve_left hpowers
    -- the second item alone makes the witness four times the fourth power
    have hresidue : witnessResidue 5 2 0 [3, 4] ≠ 0 := by decide +kernel
    obtain ⟨α, n, hn, -, hseed, rfl, -⟩ := exists_of_generate logarithmPairing_isBilinear hfirst
    obtain rfl := Int.ofNat.inj (Except.ok.inj hn)
    obtain rfl := Except.ok.inj hseed
    have hopening : createWitness (Setup.proverRecord 5 2) (.list ([3, 4].map .scalar)) (.int 0) =
      .ok witness := hwitness
    obtain ⟨k, hk, -, rfl⟩ := of_createWitness hopening
    obtain rfl := Int.ofNat.inj (Value.int.inj hk)
    exact hresidue ((ofResidue_eq_null_iff _).mp hinfinity)

end VectorCommitment
