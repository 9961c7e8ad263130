import VectorCommitment.Proofs.Scheme.Opening

/-! A witness does not depend on the opened value. The opened entry meets the slot of the power that
is kept back, which holds infinity, so it is left out of the terms of the sum. -/

namespace VectorCommitment

open Outcome Value

lemma contributing_congr {points : List Value} {units units' : List ℕ}
    (hlength : units.length = units'.length)
    (hsame : ∀ k, points[k]? = some .null ∨
      (units.getD k 0 : ZMod groupOrder) = units'.getD k 0) :
    contributing points (units.map .scalar) = contributing points (units'.map .scalar) := by
  induction points generalizing units units' with
  | nil => cases units <;> cases units' <;> rfl
  | cons p points ih =>
    cases units with
    | nil =>
      obtain rfl := List.length_eq_zero_iff.mp hlength.symm
      rfl
    | cons unit units =>
      obtain ⟨unit', units', rfl⟩ := List.exists_cons_of_length_eq_add_one hlength.symm
      have hrest := ih (Nat.succ.inj hlength) fun k => hsame (k + 1)
      rw [List.map_cons, List.map_cons, contributing, contributing, hrest]
      -- infinity is left out before its factor is looked at, any other factor is reduced
      rcases hsame 0 with hnull | hunit
      · obtain rfl : p = .null := Option.some.inj hnull
        rfl
      · have hmod : ((unit : ℤ) % groupOrder) = unit' % groupOrder := by
          rw [← ZMod.intCast_eq_intCast_iff']
          exact_mod_cast hunit
        have htoInt : ∀ m : ℕ, (Value.scalar m).toInt = .ok (m : ℤ) := fun _ => rfl
        rw [htoInt, htoInt, ok_bind, ok_bind, hmod]

lemma sumOfUnits_congr {entries : List Value} {units units' : List ℕ}
    (hlength : units.length = units'.length)
    (hsame : ∀ k, entries[k]? = some .null ∨
      (units.getD k 0 : ZMod groupOrder) = units'.getD k 0) :
    sumOfUnits entries units = sumOfUnits entries units' := by
  rw [sumOfUnits, sumOfUnits, sumOfMultiples, sumOfMultiples, contributing_congr hlength hsame,
    List.length_map, List.length_map, hlength]

lemma window_slot {g : List Value} {n position count : ℕ} (hslot : g[n]? = some .null)
    (hposition : position < n) (hcount : position < count) :
    ((g.drop (n - position)).take count)[position]? = some .null := by
  rw [List.getElem?_take_of_lt hcount, List.getElem?_drop, Nat.sub_add_cancel hposition.le, hslot]

lemma witnessAt_congr {g : List Value} {n position : ℕ} {units units' : List ℕ}
    (hslot : g[n]? = some .null) (hposition : position < n) (hlength : units.length = units'.length)
    (hzero : units.getD position 0 = 0 ↔ units'.getD position 0 = 0)
    (hsame : ∀ k, k ≠ position → (units.getD k 0 : ZMod groupOrder) = units'.getD k 0) :
    witnessAt n g units position = witnessAt n g units' position := by
  rw [witnessAt, witnessAt, hlength]
  by_cases hopened : units'.getD position 0 = 0
  · rw [if_pos hopened, if_pos (hzero.mpr hopened)]
  have hsum : sumOfUnits ((g.drop (n - position)).take units'.length) units =
      sumOfUnits ((g.drop (n - position)).take units'.length) units' := by
    refine sumOfUnits_congr hlength fun k => ?_
    by_cases hk : k = position
    -- the opened entry meets the slot that is kept back
    · rw [hk]
      exact .inl (window_slot hslot hposition (lt_of_getD_ne hopened))
    · exact .inr (hsame k hk)
  rw [if_neg hopened, if_neg (mt hzero.mp hopened), hsum]

lemma getD_eq_zero_iff_of_opened {items : List Value} {units : List ℕ} (hunits : UnitsOf items units)
    {k : ℕ} (hopened : items[k]?.any Value.isZero = false) :
    units.getD k 0 = 0 ↔ units.length ≤ k := by
  rw [hunits.getD_eq_zero_iff, ← hunits.length_eq, ← List.getElem?_eq_none_iff]
  cases hitem : items[k]? with
  | none => exact iff_of_true rfl rfl
  | some item =>
    rw [hitem, Option.any_some] at hopened
    simp [hopened]

/-- Two vectors that differ at the opened position alone, where neither is zero, have the same
witness or are refused alike, whatever the points beside the slot that is kept back are. -/
theorem witness_hides_opened_value {n : ℕ} {g : List Value} (hslot : g[n]? = some .null)
    {inputs inputs' position : Value} {items items' : List Value}
    (hmembers : inputs.members = .ok items) (hmembers' : inputs'.members = .ok items')
    (hitems : ∀ item ∈ items, item.isWhole = true) (hitems' : ∀ item ∈ items', item.isWhole = true)
    (hlength : items.length = items'.length)
    (hsame : ∀ k : ℕ, position ≠ .int k → residueAt items k = residueAt items' k)
    (hopened : ∀ k : ℕ, position = .int k →
      items[k]?.any Value.isZero = false ∧ items'[k]?.any Value.isZero = false) :
    createWitness (.prover n g) inputs position = createWitness (.prover n g) inputs' position := by
  obtain ⟨units, hunits⟩ := (exists_unitsOf_iff items).mpr hitems
  obtain ⟨units', hunits'⟩ := (exists_unitsOf_iff items').mpr hitems'
  rw [hunits.length_eq, hunits'.length_eq] at hlength
  rw [createWitness_eq_bind, createWitness_eq_bind]
  by_cases hlong : n < units.length
  · rw [messageUnits_too_long hmembers hunits.mapM_requireUnit_eq hlong,
      messageUnits_too_long hmembers' hunits'.mapM_requireUnit_eq (hlength ▸ hlong), hlength]
  rw [messageUnits_eq hmembers hunits.mapM_requireUnit_eq (by omega),
    messageUnits_eq hmembers' hunits'.mapM_requireUnit_eq (by omega), ok_bind, ok_bind]
  cases hposition : checkPosition n position with
  | error failure => rfl
  | ok k =>
    obtain ⟨rfl, hk⟩ := position_of_checkPosition hposition
    obtain ⟨hopened, hopened'⟩ := hopened k rfl
    have hzero := getD_eq_zero_iff_of_opened hunits hopened
    rw [hlength, ← getD_eq_zero_iff_of_opened hunits' hopened'] at hzero
    rw [ok_bind, ok_bind]
    refine witnessAt_congr hslot hk hlength hzero fun i hi => ?_
    have hother : Value.int k ≠ .int i := fun h => hi (Int.natCast_inj.mp (Value.int.inj h)).symm
    rw [hunits.cast_getD, hunits'.cast_getD, hsame i hother]

theorem witness_hides_opened_value_off_curve :
    (ofG1 (.affine 1 1)).isG1Point = false ∧
    createWitness (.prover 2 [ofG1 (.affine 1 1), .null, .null, ofG1 (.affine 1 1)])
        (.list [.int (-3), .int 5]) (.int 0) =
      createWitness (.prover 2 [ofG1 (.affine 1 1), .null, .null, ofG1 (.affine 1 1)])
        (.list [.scalar 8, .scalar (5 + groupOrder)]) (.int 0) := by
  have hslot : [ofG1 (.affine 1 1), .null, .null, ofG1 (.affine 1 1)][2]? = some .null := rfl
  refine ⟨by decide, witness_hides_opened_value hslot rfl rfl (by decide) (by decide) rfl ?_ ?_⟩
  · intro k hk
    cases k with
    | zero => exact absurd rfl hk
    | succ k =>
      cases k with
      | zero =>
        change ((5 : ℤ) : ZMod groupOrder) = ((5 + groupOrder : ℕ) : ZMod groupOrder)
        rw [Nat.cast_add, ZMod.natCast_self, add_zero]
        rfl
      | succ k => rfl
  · intro k hk
    obtain rfl : 0 = k := Int.natCast_inj.mp (Value.int.inj hk)
    decide

end VectorCommitment
