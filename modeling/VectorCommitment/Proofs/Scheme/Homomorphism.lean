import VectorCommitment.Proofs.Scheme.Opening
import VectorCommitment.Value.Arithmetic

/-! Commitments and witnesses of a sum of vectors, over any points of the curve. -/

namespace VectorCommitment

open Outcome Value

namespace Value

def paddedUnit (items : List Value) (k : ℕ) : Outcome ℕ := messageUnit (items.getD k (.int 0))

def vectorSum (u v : List Value) : Outcome (List Value) :=
  (List.range (max u.length v.length)).mapM fun k => do
    add (.scalar (← paddedUnit u k)) (.scalar (← paddedUnit v k))

def scalarSum (m n : ℕ) : Value := .scalar (((m : ℤ) + n) % groupOrder).toNat

lemma add_scalar (m n : ℕ) : add (.scalar m) (.scalar n) = .ok (scalarSum m n) := rfl

lemma residueClass?_scalarSum (m n : ℕ) :
    (scalarSum m n).residueClass? = some ((m : ZMod groupOrder) + n) := by
  rw [scalarSum, residueClass?, cast_toNat_emod, Int.cast_add, Int.cast_natCast, Int.cast_natCast]

lemma residueAt_append_zeros {items zeros : List Value}
    (hzeros : ∀ zero ∈ zeros, zero.residueClass? = some 0) (k : ℕ) :
    residueAt (items ++ zeros) k = residueAt items k := by
  rcases Nat.lt_or_ge k items.length with hk | hk
  · rw [residueAt, List.getElem?_append_left hk, residueAt]
  · rw [residueAt_of_length_le hk, residueAt, List.getElem?_append_right hk]
    cases hzero : zeros[k - items.length]? with
    | none => rfl
    | some zero => exact congrArg (·.getD 0) (hzeros zero (List.mem_of_getElem? hzero))

end Value

lemma paddedUnit_eq {items : List Value} {units : List ℕ} (h : UnitsOf items units) (k : ℕ) :
    paddedUnit items k = .ok (units.getD k 0) := by
  induction h generalizing k with
  | nil => rfl
  | cons hunit hunits ih =>
    cases k with
    | zero =>
      rw [paddedUnit, List.getD_cons_zero, messageUnit, hunit]
      rfl
    | succ k => exact ih k

lemma exists_vectorSum {u v : List Value} (hu : ∀ item ∈ u, item.isWhole = true)
    (hv : ∀ item ∈ v, item.isWhole = true) :
    ∃ s, vectorSum u v = .ok s ∧ (∀ item ∈ s, item.isWhole = true) ∧
      s.length = max u.length v.length ∧ ∀ k, residueAt s k = residueAt u k + residueAt v k := by
  obtain ⟨units, hunits⟩ := (exists_unitsOf_iff u).mpr hu
  obtain ⟨units', hunits'⟩ := (exists_unitsOf_iff v).mpr hv
  refine ⟨(List.range (max u.length v.length)).map fun k =>
    scalarSum (units.getD k 0) (units'.getD k 0), mapM_eq_ok fun k _ => ?_,
    List.forall_mem_map.mpr fun _ _ => rfl, by rw [List.length_map, List.length_range],
    fun k => ?_⟩
  · rw [paddedUnit_eq hunits, ok_bind, paddedUnit_eq hunits', ok_bind, add_scalar]
  rcases Nat.lt_or_ge k (max u.length v.length) with hk | hk
  · rw [residueAt, List.getElem?_map, List.getElem?_range hk, Option.map_some, Option.bind_some,
      residueClass?_scalarSum, hunits.cast_getD, hunits'.cast_getD, Option.getD_some]
  · have hlength : u.length ≤ k ∧ v.length ≤ k := max_le_iff.mp hk
    rw [residueAt_of_length_le hlength.1, residueAt_of_length_le hlength.2, add_zero]
    exact residueAt_of_length_le (by rwa [List.length_map, List.length_range])

def combination (f : ℕ → ZMod groupOrder) (capacity start : ℕ) (items : List Value) :
    ZMod groupOrder :=
  ∑ k ∈ Finset.range capacity, residueAt items k * f (start + k)

lemma combination_add (f : ℕ → ZMod groupOrder) (capacity start : ℕ) {u v s : List Value}
    (hs : ∀ k, residueAt s k = residueAt u k + residueAt v k) :
    combination f capacity start s =
      combination f capacity start u + combination f capacity start v := by
  rw [combination, combination, combination, ← Finset.sum_add_distrib]
  exact Finset.sum_congr rfl fun k _ => by rw [hs, add_mul]

lemma combination_units (f : ℕ → ZMod groupOrder) {capacity : ℕ} (start : ℕ) {items : List Value}
    {units : List ℕ} (hunits : UnitsOf items units) (hfits : units.length ≤ capacity) :
    ∑ k ∈ Finset.range units.length, (units.getD k 0 : ZMod groupOrder) * f (start + k) =
      combination f capacity start items := by
  rw [combination]
  apply Finset.sum_subset_zero_on_sdiff (Finset.range_mono hfits)
  · intro k hk
    have hlength : units.length ≤ k := by simpa using (Finset.mem_sdiff.mp hk).2
    rw [residueAt_of_length_le (hunits.length_eq.trans_le hlength), zero_mul]
  · intro k _
    rw [hunits.cast_getD]

section Prover

variable {capacity : ℕ} {g : List Value} (hg : ∀ entry ∈ g, entry.isG1Point = true)
include hg

lemma exists_multiples : ∃ f : ℕ → ZMod groupOrder,
    g = (List.range g.length).map fun k => ofResidue (f k) := by
  obtain ⟨xs, rfl⟩ := exists_residues hg
  refine ⟨fun k => xs.getD k 0, List.ext_getElem (by simp) fun k hk _ => ?_⟩
  have hlength : k < xs.length := by rwa [List.length_map] at hk
  rw [List.getElem_map, List.getElem_map, List.getElem_range]
  exact congrArg ofResidue (List.getD_eq_getElem _ _ hlength).symm

lemma exists_combinations (hsize : capacity ≤ g.length) : ∃ f : ℕ → ZMod groupOrder,
    ∀ (inputs : Value) (items : List Value), inputs.members = .ok items →
      (∀ item ∈ items, item.isWhole = true) → items.length ≤ capacity →
      commit (.prover capacity g) inputs = .ok (ofResidue (combination f capacity 0 items)) ∧
      ∀ position : ℕ, items[position]?.all Value.isZero = false →
        capacity - position + items.length ≤ g.length →
        createWitness (.prover capacity g) inputs (.int position) =
          .ok (ofResidue (combination f capacity (capacity - position) items)) := by
  obtain ⟨f, hf⟩ := exists_multiples hg
  refine ⟨f, fun inputs items hmembers hitems hfits => ?_⟩
  obtain ⟨units, hunits⟩ := (exists_unitsOf_iff items).mpr hitems
  have hread := hunits.mapM_requireUnit_eq
  rw [hunits.length_eq] at hfits
  rw [hf]
  constructor
  · rw [← combination_units f 0 hunits hfits]
    exact commit_multiples hmembers hread hfits f hsize
  · intro position hopened hwindow
    have hnonzero : units.getD position 0 ≠ 0 := by
      rw [Ne, hunits.getD_eq_zero_iff, hopened]
      exact Bool.false_ne_true
    rw [hunits.length_eq, List.length_map, List.length_range] at hwindow
    rw [← combination_units f (capacity - position) hunits hfits]
    exact createWitness_multiples hmembers hread hfits (lt_of_getD_ne hnonzero) f hnonzero hwindow

end Prover

/-- Commitments to, and witnesses for, the sum of two vectors are the sums of those of the vectors,
and zeros at the end of a vector leave its commitment as it is. -/
theorem commitments_homomorphic {capacity entries : Value} {n : ℕ} {g : List Value}
    (hprover : proverParam capacity entries = .ok (.prover n g))
    (hg : ∀ entry ∈ g, entry.isG1Point = true) {inputs inputs' : Value} {u v : List Value}
    (hmembers : inputs.members = .ok u) (hmembers' : inputs'.members = .ok v)
    (hu : ∀ item ∈ u, item.isWhole = true) (hv : ∀ item ∈ v, item.isWhole = true)
    (hulength : u.length ≤ n) (hvlength : v.length ≤ n) :
    ∃ s, vectorSum u v = .ok s ∧
      (∃ a b c, commit (.prover n g) inputs = .ok a ∧ commit (.prover n g) inputs' = .ok b ∧
        commit (.prover n g) (.list s) = .ok c ∧ a.addPoints b = .ok c) ∧
      (∀ position : ℕ, (∀ w ∈ [u, v, s], w[position]?.all Value.isZero = false ∧
          n - position + w.length ≤ g.length) →
        ∃ a b c, createWitness (.prover n g) inputs (.int position) = .ok a ∧
          createWitness (.prover n g) inputs' (.int position) = .ok b ∧
          createWitness (.prover n g) (.list s) (.int position) = .ok c ∧ a.addPoints b = .ok c) ∧
      ∀ zeros : List Value, (∀ zero ∈ zeros, zero.residueClass? = some 0) →
        u.length + zeros.length ≤ n →
        commit (.prover n g) (.list (u ++ zeros)) = commit (.prover n g) inputs := by
  obtain ⟨hn, hsize⟩ := size_of_proverParam hprover
  obtain ⟨f, hf⟩ := exists_combinations hg (show n ≤ g.length by omega)
  obtain ⟨s, hsum, hs, hslength, hresidues⟩ := exists_vectorSum hu hv
  have hsfits : s.length ≤ n := hslength.trans_le (max_le hulength hvlength)
  obtain ⟨hcommitu, hwitnessu⟩ := hf inputs u hmembers hu hulength
  obtain ⟨hcommitv, hwitnessv⟩ := hf inputs' v hmembers' hv hvlength
  obtain ⟨hcommits, hwitnesss⟩ := hf (.list s) s rfl hs hsfits
  refine ⟨s, hsum, ⟨_, _, _, hcommitu, hcommitv, hcommits, ?_⟩, ?_, ?_⟩
  · rw [addPoints_ofResidue, combination_add f n 0 hresidues]
  · intro position hopened
    rw [List.forall_mem_cons, List.forall_mem_cons, List.forall_mem_singleton] at hopened
    obtain ⟨⟨huopened, huwindow⟩, ⟨hvopened, hvwindow⟩, hsopened, hswindow⟩ := hopened
    refine ⟨_, _, _, hwitnessu position huopened huwindow, hwitnessv position hvopened hvwindow,
      hwitnesss position hsopened hswindow, ?_⟩
    rw [addPoints_ofResidue, combination_add f n (n - position) hresidues]
  · intro zeros hzeros hlength
    have hwhole : ∀ item ∈ u ++ zeros, item.isWhole = true := by
      refine List.forall_mem_append.mpr ⟨hu, fun zero hzero => ?_⟩
      exact (exists_residueClass?_iff zero).mp ⟨0, hzeros zero hzero⟩
    obtain ⟨hcommit, -⟩ := hf (.list (u ++ zeros)) _ rfl hwhole (by rwa [List.length_append])
    rw [hcommit, hcommitu, combination, combination]
    simp only [residueAt_append_zeros hzeros]

theorem commitments_homomorphic_shorter_vector :
    ∃ g, proverParam (.int 2) (.list [ofG1 G1.generator, .null, .null, ofG1 (-G1.generator)]) =
        .ok (.prover 2 g) ∧
      vectorSum [.scalar 3] [.int (-1), .scalar 2] = .ok [.scalar 2, .scalar 2] ∧
      (∃ a b c, commit (.prover 2 g) (.tuple [.scalar 3]) = .ok a ∧
        commit (.prover 2 g) (.list [.int (-1), .scalar 2]) = .ok b ∧
        commit (.prover 2 g) (.list [.scalar 2, .scalar 2]) = .ok c ∧ a.addPoints b = .ok c) ∧
      (∃ a b c, createWitness (.prover 2 g) (.tuple [.scalar 3]) (.int 0) = .ok a ∧
        createWitness (.prover 2 g) (.list [.int (-1), .scalar 2]) (.int 0) = .ok b ∧
        createWitness (.prover 2 g) (.list [.scalar 2, .scalar 2]) (.int 0) = .ok c ∧
        a.addPoints b = .ok c) ∧
      commit (.prover 2 g) (.list [.scalar 3, .int groupOrder]) =
        commit (.prover 2 g) (.tuple [.scalar 3]) := by
  have hprover : proverParam (.int 2)
      (.list [ofG1 G1.generator, .null, .null, ofG1 (-G1.generator)]) = .ok (.prover 2 _) := rfl
  have hsum : vectorSum [.scalar 3] [.int (-1), .scalar 2] = .ok [.scalar 2, .scalar 2] := rfl
  have hzero : (Value.int groupOrder).residueClass? = some 0 := by
    rw [residueClass?, Int.cast_natCast, ZMod.natCast_self]
  obtain ⟨s, hs, hcommits, hwitnesses, hzeros⟩ := commitments_homomorphic hprover (by decide)
    (show (Value.tuple [.scalar 3]).members = .ok _ from rfl)
    (show (Value.list [.int (-1), .scalar 2]).members = .ok _ from rfl)
    (by decide) (by decide) (by decide) (by decide)
  obtain rfl := Except.ok.inj (hs.symm.trans hsum)
  exact ⟨_, hprover, hsum, hcommits, hwitnesses 0 (by decide),
    hzeros [.int groupOrder] (List.forall_mem_singleton.mpr hzero) (by decide)⟩

end VectorCommitment
