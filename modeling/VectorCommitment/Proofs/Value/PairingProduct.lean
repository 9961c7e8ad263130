import VectorCommitment.Proofs.Value.Pairing

namespace VectorCommitment.Value

def pairingOfPair (e : PairingMap) (v : Value) : Outcome Target :=
  v.pair >>= fun points => pairing e points.2 points.1

def HasPairing (e : PairingMap) (v : Value) : Prop :=
  ∃ p q t, v.pair = .ok (p, q) ∧ p.isG1Point = true ∧ q.isG2Point = true ∧ pairing e q p = .ok t

def HasInfinity (v : Value) : Prop := ∃ p q, v.pair = .ok (p, q) ∧ (p = null ∨ q = null)

variable {e : PairingMap}

lemma pairing_null_left {q : Value} (hq : q.isG2Point = true) : pairing e q null = .ok 1 := by
  obtain ⟨q, hon, rfl⟩ := exists_of_isG2Point hq
  rw [pairing, toG2?_ofG2, ← ofG1_infinity, toG1?_ofG1]
  cases q with
  | infinity => rfl
  | affine x y =>
    have hpair : e.pair (.affine x y) .infinity = .ok 1 := by
      unfold PairingMap.pair
      rw [hon]
      rfl
    exact congrArg ofPairing hpair

lemma pairing_null_right {p : Value} (hp : p.isG1Point = true) : pairing e null p = .ok 1 := by
  obtain ⟨p, hon, rfl⟩ := exists_of_isG1Point hp
  have hpair : e.pair .infinity p = .ok 1 := by
    unfold PairingMap.pair
    rw [hon]
    rfl
  rw [pairing, toG1?_ofG1]
  exact congrArg ofPairing hpair

def IsFactor (e : PairingMap) (v : Value) (t : Target) : Prop :=
  ∀ acc, (v.pair >>= fun points => timesPairing e acc points.1 points.2) = .ok (acc * t)

lemma HasInfinity.isFactor {v : Value} (hv : HasInfinity v) : IsFactor e v 1 := by
  obtain ⟨p, q, hpair, hnull⟩ := hv
  intro acc
  rw [hpair, Outcome.ok_bind, mul_one]
  rcases hnull with rfl | rfl
  · rfl
  · cases p <;> rfl

lemma isFactor_of_pairing {v p q : Value} {t : Target} (hpair : v.pair = .ok (p, q))
    (hp : p.isG1Point = true) (hq : q.isG2Point = true) (ht : pairing e q p = .ok t) :
    IsFactor e v t := by
  by_cases hnull : p = null ∨ q = null
  -- the loop passes over infinity, and the pairing takes it to one
  · have hone : t = 1 := by
      rcases hnull with rfl | rfl
      · exact Except.ok.inj (ht.symm.trans (pairing_null_left hq))
      · exact Except.ok.inj (ht.symm.trans (pairing_null_right hp))
    rw [hone]
    exact HasInfinity.isFactor ⟨p, q, hpair, hnull⟩
  · obtain ⟨hpnull, hqnull⟩ := not_or.mp hnull
    intro acc
    rw [hpair, Outcome.ok_bind]
    unfold timesPairing
    split
    · next h => exact absurd h hpnull
    · next h _ => exact absurd h hqnull
    · rw [ht]
      rfl

lemma pairingProductOf_eq_prod {xs : List Value} {factors : List Target}
    (h : List.Forall₂ (IsFactor e) xs factors) :
    pairingProductOf e (list xs) = .ok factors.prod := by
  have hfold : ∀ acc, xs.foldlM
      (fun acc v => v.pair >>= fun points => timesPairing e acc points.1 points.2) acc =
        .ok (acc * factors.prod) := by
    induction h with
    | nil =>
      intro acc
      rw [List.prod_nil, mul_one]
      rfl
    | cons hv _ ih =>
      intro acc
      rw [List.foldlM_cons, hv acc, Outcome.ok_bind, ih, List.prod_cons, mul_assoc]
  exact (hfold 1).trans (by rw [one_mul])

lemma exists_factors {xs : List Value} (hxs : ∀ v ∈ xs, HasPairing e v) :
    ∃ factors, xs.mapM (pairingOfPair e) = .ok factors ∧
      List.Forall₂ (IsFactor e) xs factors := by
  induction xs with
  | nil => exact ⟨[], rfl, .nil⟩
  | cons v xs ih =>
    obtain ⟨⟨p, q, t, hpair, hp, hq, ht⟩, hxs⟩ := List.forall_mem_cons.mp hxs
    obtain ⟨factors, hmap, hfactors⟩ := ih hxs
    have hv : pairingOfPair e v = .ok t := by rw [pairingOfPair, hpair, Outcome.ok_bind, ht]
    refine ⟨t :: factors, ?_, .cons (isFactor_of_pairing hpair hp hq ht) hfactors⟩
    rw [List.mapM_cons, hv, Outcome.ok_bind, hmap]
    rfl

lemma forall₂_ones {skipped : List Value} (hskipped : ∀ v ∈ skipped, HasInfinity v) :
    List.Forall₂ (IsFactor e) skipped (List.replicate skipped.length 1) := by
  induction skipped with
  | nil => exact .nil
  | cons v skipped ih =>
    obtain ⟨hv, hskipped⟩ := List.forall_mem_cons.mp hskipped
    exact .cons hv.isFactor (ih hskipped)

lemma pairingProductOf_perm {xs skipped zs : List Value} {factors : List Target}
    (hxs : List.Forall₂ (IsFactor e) xs factors) (hskipped : ∀ v ∈ skipped, HasInfinity v)
    (hperm : zs.Perm (xs ++ skipped)) : pairingProductOf e (list zs) = .ok factors.prod := by
  have happend := List.rel_append hxs (forall₂_ones hskipped)
  obtain ⟨reordered, hreordered, hfactors⟩ := List.perm_comp_forall₂ hperm happend
  rw [pairingProductOf_eq_prod hreordered, hfactors.prod_eq, List.prod_append, List.prod_replicate,
    one_pow, mul_one]

/-- The product over a list is the product of the pairings of all its pairs: a homomorphism on lists
that neither their order nor pairs with infinity, put in anywhere, change. -/
theorem pairing_product_homomorphism {xs ys : List Value} (hxs : ∀ v ∈ xs, HasPairing e v)
    (hys : ∀ v ∈ ys, HasPairing e v) :
    (∃ s t, pairingProductOf e (list xs) = .ok s ∧ pairingProductOf e (list ys) = .ok t ∧
      pairingProductOf e (list (xs ++ ys)) = .ok (s * t) ∧
      (s * t).residue = s.residue * t.residue) ∧
    (∃ factors, xs.mapM (pairingOfPair e) = .ok factors ∧
      pairingProductOf e (list xs) = .ok factors.prod) ∧
    (∀ zs : List Value, zs.Perm xs → pairingProductOf e (list zs) = pairingProductOf e (list xs)) ∧
    ∀ skipped zs : List Value, (∀ v ∈ skipped, HasInfinity v) → zs.Perm (xs ++ skipped) →
      pairingProductOf e (list zs) = pairingProductOf e (list xs) := by
  obtain ⟨factors, hmap, hfactors⟩ := exists_factors hxs
  obtain ⟨others, -, hothers⟩ := exists_factors hys
  have hproduct := pairingProductOf_eq_prod hfactors
  refine ⟨⟨factors.prod, others.prod, hproduct, pairingProductOf_eq_prod hothers, ?_,
    Target.residue_mul _ _⟩, ⟨factors, hmap, hproduct⟩, ?_, ?_⟩
  · rw [pairingProductOf_eq_prod (List.rel_append hfactors hothers), List.prod_append]
  · intro zs hperm
    rw [hproduct]
    exact pairingProductOf_perm hfactors (List.forall_mem_nil _) (by rwa [List.append_nil])
  · intro skipped zs hskipped hperm
    rw [hproduct]
    exact pairingProductOf_perm hfactors hskipped hperm

lemma hasPairing_generator (x : ZMod groupOrder) :
    HasPairing logarithmPairing (tuple [ofResidue x, ofG2 G2.generator]) := by
  have hpairing := pairing_multiples logarithmPairing_isBilinear x 1
  rw [ofTwistResidue_one] at hpairing
  exact ⟨_, _, _, rfl, isG1Point_ofResidue x, by decide, hpairing⟩

theorem pairing_product_homomorphism_opposite_points :
    pairingProductOf logarithmPairing (list [tuple [ofResidue 1, ofG2 G2.generator],
      tuple [ofResidue (-1), ofG2 G2.generator]]) = .ok 1 ∧
    pairingProductOf logarithmPairing (list [tuple [null, ofG2 G2.generator],
      tuple [ofResidue 1, ofG2 G2.generator]]) = .ok (generatorTarget.power 1) := by
  have hone : ∀ x, ∀ v ∈ [tuple [ofResidue x, ofG2 G2.generator]], HasPairing logarithmPairing v :=
    fun x => List.forall_mem_singleton.mpr (hasPairing_generator x)
  obtain ⟨⟨s, t, hs, ht, hproduct, -⟩, -, -, hskip⟩ :=
    pairing_product_homomorphism (hone 1) (hone (-1))
  have hmultiple := pairingProductOf_multiple logarithmPairing_isBilinear
  constructor
  · rw [hmultiple] at hs ht
    obtain rfl := Except.ok.inj hs
    obtain rfl := Except.ok.inj ht
    refine hproduct.trans (congrArg _ ?_)
    rw [← Target.power_add logarithmPairing_isBilinear.base_pow_groupOrder, add_neg_cancel,
      Target.power_zero]
  · rw [← hmultiple]
    refine hskip [tuple [null, ofG2 G2.generator]] _ ?_ (List.Perm.swap ..)
    exact List.forall_mem_singleton.mpr ⟨_, _, rfl, .inl rfl⟩

end VectorCommitment.Value
