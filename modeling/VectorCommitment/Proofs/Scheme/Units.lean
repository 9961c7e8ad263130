import Mathlib.Data.List.GetD
import VectorCommitment.Proofs.Scheme.Verification

namespace VectorCommitment

open Outcome Value

namespace Value

def isZero : Value → Bool
  | int i => i % groupOrder = 0
  | scalar residue => residue = 0
  | _ => false

def residueAt (items : List Value) (k : ℕ) : ZMod groupOrder :=
  (items[k]?.bind residueClass?).getD 0

lemma residueAt_of_length_le {items : List Value} {k : ℕ} (hk : items.length ≤ k) :
    residueAt items k = 0 := by
  rw [residueAt, List.getElem?_eq_none hk]
  rfl

lemma residueAt_eq {items : List Value} {k : ℕ} {value : Value} {z : ZMod groupOrder}
    (hvalue : items[k]? = some value) (hz : value.residueClass? = some z) : residueAt items k = z := by
  rw [residueAt, hvalue, Option.bind_some, hz, Option.getD_some]

lemma exists_residueClass?_iff (v : Value) :
    (∃ x, v.residueClass? = some x) ↔ v.isWhole = true := by
  cases v <;> simp [residueClass?, isWhole]

end Value

lemma exists_messageUnit_iff (v : Value) :
    (∃ unit, messageUnit? v = some unit) ↔ v.isWhole = true := by
  cases v <;> simp [messageUnit?, isWhole]

lemma messageUnit_eq_zero_iff {v : Value} {unit : ℕ} (hunit : messageUnit? v = some unit) :
    unit = 0 ↔ v.isZero = true := by
  cases v with
  | int i =>
    have hnonneg := Int.emod_nonneg i (b := groupOrder) (by decide)
    obtain rfl := Option.some.inj hunit
    rw [isZero, decide_eq_true_eq]
    omega
  | scalar residue =>
    obtain rfl := Option.some.inj hunit
    rw [isZero, decide_eq_true_eq]
  | _ => cases hunit

lemma residueClass?_eq {v : Value} {unit : ℕ} (hunit : messageUnit? v = some unit) :
    v.residueClass? = some (unit : ZMod groupOrder) := by
  cases v with
  | int i =>
    obtain rfl := Option.some.inj hunit
    rw [cast_toNat_emod]
    rfl
  | scalar residue =>
    obtain rfl := Option.some.inj hunit
    rfl
  | _ => cases hunit

def UnitsOf (items : List Value) (units : List ℕ) : Prop :=
  List.Forall₂ (messageUnit? · = some ·) items units

lemma exists_unitsOf_iff (items : List Value) :
    (∃ units, UnitsOf items units) ↔ ∀ item ∈ items, item.isWhole = true := by
  induction items with
  | nil => exact iff_of_true ⟨[], .nil⟩ (List.forall_mem_nil _)
  | cons item items ih =>
    rw [List.forall_mem_cons, ← ih, ← exists_messageUnit_iff]
    constructor
    · rintro ⟨_, _ | ⟨hunit, hunits⟩⟩
      exact ⟨⟨_, hunit⟩, _, hunits⟩
    · rintro ⟨⟨unit, hunit⟩, units, hunits⟩
      exact ⟨unit :: units, .cons hunit hunits⟩

namespace UnitsOf

variable {items : List Value} {units : List ℕ} (h : UnitsOf items units)
include h

lemma length_eq : items.length = units.length := List.Forall₂.length_eq h

lemma getD_eq_zero_iff (k : ℕ) : units.getD k 0 = 0 ↔ items[k]?.all Value.isZero = true := by
  induction h generalizing k with
  | nil => simp
  | cons hunit hunits ih =>
    cases k with
    | zero => simpa using messageUnit_eq_zero_iff hunit
    | succ k => simpa using ih k

lemma cast_getD (k : ℕ) : (units.getD k 0 : ZMod groupOrder) = residueAt items k := by
  induction h generalizing k with
  | nil => exact Nat.cast_zero
  | cons hunit hunits ih =>
    cases k with
    | zero => exact (congrArg (·.getD 0) (residueClass?_eq hunit)).symm
    | succ k => exact ih k

lemma mapM_requireUnit_eq : items.mapM requireUnit = .ok units := by
  induction h with
  | nil => rfl
  | cons hunit hunits ih =>
    rw [List.mapM_cons, requireUnit_eq hunit, ok_bind, ih]
    rfl

end UnitsOf

lemma exists_units {items : List Value} (hitems : ∀ item ∈ items, ∃ x, item.residueClass? = some x) :
    ∃ units : List ℕ, items.mapM requireUnit = .ok units ∧ units.length = items.length ∧
      ∀ (k : ℕ) (value : Value) (z : ZMod groupOrder), items[k]? = some value →
        value.residueClass? = some z → (units.getD k 0 : ZMod groupOrder) = z := by
  obtain ⟨units, hunits⟩ := (exists_unitsOf_iff items).mpr fun item hitem =>
    (exists_residueClass?_iff item).mp (hitems item hitem)
  exact ⟨units, hunits.mapM_requireUnit_eq, hunits.length_eq.symm, fun k value z hvalue hz =>
    (hunits.cast_getD k).trans (residueAt_eq hvalue hz)⟩

lemma mapM_requireUnit (units : List ℕ) : (units.map scalar).mapM requireUnit = .ok units := by
  rw [List.mapM_map]
  exact (Outcome.mapM_eq_ok fun _ _ => rfl).trans (congrArg _ (List.map_id _))

section Reading

variable {capacity : ℕ} {inputs : Value} {items : List Value} {units : List ℕ}
  (hmembers : inputs.members = .ok items) (hunits : items.mapM requireUnit = .ok units)
include hmembers hunits

lemma messageUnits_of_read :
    messageUnits capacity inputs =
      if capacity < units.length then reject (.vectorTooLong units.length capacity)
      else .ok units := by
  rw [messageUnits, hmembers]
  change (items.mapM requireUnit >>= _) = _
  rw [hunits]
  rfl

lemma messageUnits_eq (hfits : units.length ≤ capacity) :
    messageUnits capacity inputs = .ok units :=
  (messageUnits_of_read hmembers hunits).trans (if_neg (Nat.not_lt.mpr hfits))

lemma messageUnits_too_long (hlong : capacity < units.length) :
    messageUnits capacity inputs = reject (.vectorTooLong units.length capacity) :=
  (messageUnits_of_read hmembers hunits).trans (if_pos hlong)

end Reading

end VectorCommitment
