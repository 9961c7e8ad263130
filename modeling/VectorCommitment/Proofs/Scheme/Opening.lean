import Mathlib.Algebra.BigOperators.Intervals
import Mathlib.Algebra.BigOperators.Ring.Finset
import VectorCommitment.Proofs.Scheme.Parameters
import VectorCommitment.Proofs.Scheme.Units

/-! Honest openings. The sums behind a commitment and a witness differ by the term of the opened
position alone, which lies on the power that is kept back. -/

namespace VectorCommitment

open Value

namespace Value

lemma innerProduct_range (f : ℕ → ZMod groupOrder) (units : List ℕ) :
    innerProduct ((List.range units.length).map f) units =
      ∑ k ∈ Finset.range units.length, (units.getD k 0 : ZMod groupOrder) * f k := by
  induction units generalizing f with
  | nil => rfl
  | cons unit units ih =>
    rw [List.length_cons, Finset.sum_range_succ', List.range_succ_eq_map, List.map_cons,
      List.map_map, add_comm]
    exact congrArg _ (ih _)

lemma take_drop_range (f : ℕ → Value) {size start count : ℕ} (hbound : start + count ≤ size) :
    (((List.range size).map f).drop start).take count =
      (List.range count).map fun k => f (start + k) := by
  apply List.ext_getElem
  · simp
    omega
  · intro k hk _
    simp

lemma sumOfUnits_range (f : ℕ → ZMod groupOrder) {size start : ℕ} (units : List ℕ)
    (hbound : start + units.length ≤ size) :
    sumOfUnits ((((List.range size).map fun k => ofResidue (f k)).drop start).take units.length)
        units =
      .ok (ofResidue (∑ k ∈ Finset.range units.length,
        (units.getD k 0 : ZMod groupOrder) * f (start + k))) := by
  rw [take_drop_range _ hbound, sumOfUnits, ← innerProduct_range fun k => f (start + k),
    ← sumOfMultiples_ofResidue (by simp), List.map_map]
  rfl

lemma exists_residues {entries : List Value} (hentries : ∀ entry ∈ entries, entry.isG1Point = true) :
    ∃ xs : List (ZMod groupOrder), xs.map ofResidue = entries := by
  rw [← Set.mem_range, Set.range_list_map]
  exact fun entry hentry => (isG1Point_iff entry).mp (hentries entry hentry)

lemma exists_sumOfUnits {entries : List Value} {units : List ℕ}
    (hentries : ∀ entry ∈ entries, entry.isG1Point = true)
    (hlength : entries.length = units.length) :
    ∃ x, sumOfUnits entries units = .ok (ofResidue x) := by
  obtain ⟨xs, rfl⟩ := exists_residues hentries
  exact ⟨_, sumOfMultiples_ofResidue (by simpa using hlength)⟩

lemma isG1Point_of_sumOfUnits {entries : List Value} {units : List ℕ} {sum : Value}
    (hentries : ∀ entry ∈ entries, entry.isG1Point = true)
    (hsum : sumOfUnits entries units = .ok sum) : sum.isG1Point = true := by
  have hlength : entries.length = units.length := by
    by_contra hne
    rw [sumOfUnits, sumOfMultiples, if_pos (by simpa using hne)] at hsum
    exact absurd hsum (Outcome.refuse_ne_ok _ _)
  obtain ⟨x, hx⟩ := exists_sumOfUnits hentries hlength
  rw [← Except.ok.inj (hx.symm.trans hsum)]
  exact isG1Point_ofResidue x

end Value

lemma commit_eq_bind (capacity : ℕ) (g : List Value) (inputs : Value) :
    commit (.prover capacity g) inputs =
      messageUnits capacity inputs >>= fun units => sumOfUnits (g.take units.length) units := rfl

def witnessAt (capacity : ℕ) (g : List Value) (units : List ℕ) (position : ℕ) : Outcome Value :=
  if g.length < capacity - position + units.length then
    reject (.windowOutside position (capacity - position) (capacity - position + units.length)
      g.length)
  else if units.getD position 0 = 0 then reject (.openedZero position)
  else sumOfUnits ((g.drop (capacity - position)).take units.length) units

lemma createWitness_eq_bind (capacity : ℕ) (g : List Value) (inputs position : Value) :
    createWitness (.prover capacity g) inputs position =
      messageUnits capacity inputs >>= fun units =>
        checkPosition capacity position >>= witnessAt capacity g units := rfl

def shortRecord (α capacity size : ℕ) : Value :=
  .prover capacity ((List.range size).map fun k => ofResidue (Setup.proverResidue α capacity k))

def commitmentResidue (α : ℕ) (units : List ℕ) : ZMod groupOrder :=
  ∑ k ∈ Finset.range units.length,
    (units.getD k 0 : ZMod groupOrder) * (α : ZMod groupOrder) ^ (k + 1)

def witnessResidue (α capacity position : ℕ) (units : List ℕ) : ZMod groupOrder :=
  ∑ k ∈ Finset.range units.length,
    (units.getD k 0 : ZMod groupOrder) * Setup.proverResidue α capacity (capacity - position + k)

lemma commitmentResidue_mul (α : ℕ) {capacity position : ℕ} {units : List ℕ}
    (hfits : units.length ≤ capacity) (hposition : position < units.length) :
    commitmentResidue α units * (α : ZMod groupOrder) ^ (capacity - position) -
        witnessResidue α capacity position units =
      units.getD position 0 * (α : ZMod groupOrder) ^ (capacity + 1) := by
  rw [commitmentResidue, witnessResidue, Finset.sum_mul, ← Finset.sum_sub_distrib,
    Finset.sum_eq_single_of_mem position (Finset.mem_range.mpr hposition)]
  · have hslot : capacity - position + position = capacity := by omega
    have hexponent : position + 1 + (capacity - position) = capacity + 1 := by omega
    rw [Setup.proverResidue, if_pos hslot, mul_zero, sub_zero, mul_assoc, ← pow_add, hexponent]
  · intro k hk hne
    have hslot : capacity - position + k ≠ capacity := by omega
    have hexponent : k + 1 + (capacity - position) = capacity - position + k + 1 := by omega
    rw [Setup.proverResidue, if_neg hslot, mul_assoc, ← pow_add, hexponent, sub_self]

section Prover

variable {inputs : Value} {items : List Value} {units : List ℕ} {α capacity size : ℕ}
  (hmembers : inputs.members = .ok items) (hunits : items.mapM requireUnit = .ok units)
  (hfits : units.length ≤ capacity)
include hmembers hunits hfits

lemma commit_multiples (f : ℕ → ZMod groupOrder) (hsize : capacity ≤ size) :
    commit (.prover capacity ((List.range size).map fun k => ofResidue (f k))) inputs =
      .ok (ofResidue (∑ k ∈ Finset.range units.length,
        (units.getD k 0 : ZMod groupOrder) * f (0 + k))) := by
  have hwindow : 0 + units.length ≤ size := by omega
  rw [commit_eq_bind, messageUnits_eq hmembers hunits hfits, ← sumOfUnits_range f units hwindow]
  rfl

lemma commit_eq (hsize : capacity ≤ size) :
    commit (shortRecord α capacity size) inputs = .ok (ofResidue (commitmentResidue α units)) := by
  have hresidues : ∑ k ∈ Finset.range units.length, (units.getD k 0 : ZMod groupOrder) *
      Setup.proverResidue α capacity (0 + k) = commitmentResidue α units := by
    apply Finset.sum_congr rfl
    intro k hk
    have hlt := Finset.mem_range.mp hk
    have hslot : 0 + k ≠ capacity := by omega
    rw [Setup.proverResidue, if_neg hslot, zero_add]
  rw [← hresidues]
  exact commit_multiples hmembers hunits hfits (Setup.proverResidue α capacity) hsize

variable {position : ℕ} (hposition : position < units.length)
include hposition

lemma createWitness_eq_witnessAt (g : List Value) :
    createWitness (.prover capacity g) inputs (.int position) =
      witnessAt capacity g units position := by
  rw [createWitness_eq_bind, messageUnits_eq hmembers hunits hfits, Outcome.ok_bind,
    checkPosition_eq (hposition.trans_le hfits), Outcome.ok_bind]

lemma createWitness_multiples (f : ℕ → ZMod groupOrder) (hnonzero : units.getD position 0 ≠ 0)
    (hwindow : capacity - position + units.length ≤ size) :
    createWitness (.prover capacity ((List.range size).map fun k => ofResidue (f k))) inputs
        (.int position) =
      .ok (ofResidue (∑ k ∈ Finset.range units.length,
        (units.getD k 0 : ZMod groupOrder) * f (capacity - position + k))) := by
  rw [createWitness_eq_witnessAt hmembers hunits hfits hposition, witnessAt,
    if_neg (by simpa using hwindow), if_neg hnonzero]
  exact sumOfUnits_range f units hwindow

lemma createWitness_eq (hnonzero : units.getD position 0 ≠ 0)
    (hwindow : capacity - position + units.length ≤ size) :
    createWitness (shortRecord α capacity size) inputs (.int position) =
      .ok (ofResidue (witnessResidue α capacity position units)) :=
  createWitness_multiples hmembers hunits hfits hposition (Setup.proverResidue α capacity) hnonzero
    hwindow

lemma createWitness_outside (hwindow : size < capacity - position + units.length) :
    createWitness (shortRecord α capacity size) inputs (.int position) =
      reject (.windowOutside position (capacity - position) (capacity - position + units.length)
        size) := by
  rw [shortRecord, createWitness_eq_witnessAt hmembers hunits hfits hposition, witnessAt,
    if_pos (by simpa using hwindow), List.length_map, List.length_range]

end Prover

lemma fits_of_messageUnits {capacity : ℕ} {units units' : List ℕ}
    (h : messageUnits capacity (.list (units.map .scalar)) = .ok units') :
    units' = units ∧ units.length ≤ capacity := by
  rw [messageUnits_of_read rfl (mapM_requireUnit units)] at h
  split at h
  · exact absurd h (Outcome.reject_ne_ok _ _)
  · next hfits => exact ⟨(Except.ok.inj h).symm, by omega⟩

lemma commit_scalars {α capacity : ℕ} {units : List ℕ} (hfits : units.length ≤ capacity) :
    commit (Setup.proverRecord α capacity) (.list (units.map .scalar)) =
      .ok (ofResidue (commitmentResidue α units)) :=
  commit_eq rfl (mapM_requireUnit units) hfits (by omega)

lemma of_commit {α capacity : ℕ} {units : List ℕ} {commitment : Value}
    (h : commit (Setup.proverRecord α capacity) (.list (units.map .scalar)) = .ok commitment) :
    units.length ≤ capacity ∧ commitment = ofResidue (commitmentResidue α units) := by
  obtain ⟨units', hunits, -⟩ := Outcome.bind_eq_ok
    ((commit_eq_bind capacity (Setup.proverValues α capacity) _).symm.trans h)
  obtain ⟨-, hfits⟩ := fits_of_messageUnits hunits
  exact ⟨hfits, Except.ok.inj (h.symm.trans (commit_scalars hfits))⟩

lemma isG1Point_of_commit {capacity : ℕ} {g : List Value} {inputs commitment : Value}
    (hg : ∀ entry ∈ g, entry.isG1Point = true)
    (hcommit : commit (.prover capacity g) inputs = .ok commitment) :
    commitment.isG1Point = true := by
  obtain ⟨units, -, hsum⟩ := Outcome.bind_eq_ok ((commit_eq_bind capacity g inputs).symm.trans hcommit)
  exact isG1Point_of_sumOfUnits (fun entry hentry => hg entry (List.mem_of_mem_take hentry)) hsum

lemma lt_of_getD_ne {units : List ℕ} {k : ℕ} (hnonzero : units.getD k 0 ≠ 0) : k < units.length := by
  by_contra hlength
  exact hnonzero (List.getD_eq_default _ _ (by omega))

lemma of_createWitness {α capacity : ℕ} {units : List ℕ} {position witness : Value}
    (h : createWitness (Setup.proverRecord α capacity) (.list (units.map .scalar)) position =
      .ok witness) :
    ∃ k : ℕ, position = .int k ∧ units.getD k 0 ≠ 0 ∧
      witness = ofResidue (witnessResidue α capacity k units) := by
  obtain ⟨units', hunits, hchecked⟩ := Outcome.bind_eq_ok
    ((createWitness_eq_bind capacity (Setup.proverValues α capacity) _ _).symm.trans h)
  obtain ⟨k, hk, hopened⟩ := Outcome.bind_eq_ok hchecked
  obtain ⟨hsame, hfits⟩ := fits_of_messageUnits hunits
  obtain ⟨hposition, -⟩ := position_of_checkPosition hk
  rw [hsame, witnessAt] at hopened
  split at hopened
  · exact absurd hopened (Outcome.reject_ne_ok _ _)
  · split at hopened
    · exact absurd hopened (Outcome.reject_ne_ok _ _)
    · next hnonzero =>
      have hwitness : createWitness (shortRecord α capacity (2 * capacity))
          (.list (units.map .scalar)) (.int k) = .ok (ofResidue (witnessResidue α capacity k units)) :=
        createWitness_eq rfl (mapM_requireUnit units) hfits (lt_of_getD_ne hnonzero) hnonzero
          (by omega)
      rw [hposition] at h
      exact ⟨k, hposition, hnonzero, Except.ok.inj (h.symm.trans hwitness)⟩

/-- The prover can commit to the inputs and open the position, and the verifier accepts. -/
def Opens (e : PairingMap) (prover verifier inputs : Value) (position : ℕ) (value : Value) : Prop :=
  ∃ commitment witness, commit prover inputs = .ok commitment ∧
    createWitness prover inputs (.int position) = .ok witness ∧
    verify e commitment verifier value (.int position) witness = .ok true

lemma verify_opened {e : PairingMap} {base : Target} (h : e.IsBilinear base) {value : Value}
    {units : List ℕ} {α capacity position : ℕ} {z : ZMod groupOrder}
    (hfits : units.length ≤ capacity) (hposition : position < units.length)
    (hvalue : value.residueClass? = some z) (hz : z ≠ 0)
    (hunit : (units.getD position 0 : ZMod groupOrder) = z) :
    verify e (ofResidue (commitmentResidue α units)) (Setup.verifierRecord base α capacity) value
      (.int position) (ofResidue (witnessResidue α capacity position units)) = .ok true := by
  have hplace := hposition.trans_le hfits
  rw [Setup.verifierRecord, verify_eq h hplace (Setup.getElem?_verifierValues α hplace) hvalue hz,
    commitmentResidue_mul α hfits hposition, hunit, mul_div_cancel_left₀ _ hz, decide_eq_true rfl]

lemma opens_shortRecord {e : PairingMap} {base : Target} (h : e.IsBilinear base)
    {inputs value : Value} {items : List Value} {units : List ℕ} {α capacity size position : ℕ}
    {z : ZMod groupOrder} (hmembers : inputs.members = .ok items)
    (hunits : items.mapM requireUnit = .ok units) (hfits : units.length ≤ capacity)
    (hposition : position < units.length) (hvalue : value.residueClass? = some z) (hz : z ≠ 0)
    (hunit : (units.getD position 0 : ZMod groupOrder) = z) (hsize : capacity ≤ size)
    (hwindow : capacity - position + units.length ≤ size) :
    Opens e (shortRecord α capacity size) (Setup.verifierRecord base α capacity) inputs position
      value := by
  have hnonzero : units.getD position 0 ≠ 0 := by
    intro hzero
    rw [hzero, Nat.cast_zero] at hunit
    exact hz hunit.symm
  exact ⟨_, _, commit_eq hmembers hunits hfits hsize,
    createWitness_eq hmembers hunits hfits hposition hnonzero hwindow,
    verify_opened h hfits hposition hvalue hz hunit⟩

/-- Every honest opening is accepted. The prover's last entry is needed for one window only. -/
theorem generated_opens {e : PairingMap} {base : Target} (h : e.IsBilinear base)
    {drawn α n : ℕ} {capacity seed : Value} (hcapacity : capacity.toInt = .ok (n : ℤ))
    (hn : 1 ≤ n) (hα : Setup.trapdoor drawn seed = .ok α) :
    ∃ g verifier, generate e drawn capacity seed = .ok (.prover n g, verifier) ∧
      proverParam capacity (.list (g.take (2 * n - 1))) = .ok (.prover n (g.take (2 * n - 1))) ∧
      ∀ (inputs value : Value) (items : List Value) (position : ℕ) (z : ZMod groupOrder),
        inputs.members = .ok items → (∀ item ∈ items, ∃ x, item.residueClass? = some x) →
        items.length ≤ n → items[position]? = some value → value.residueClass? = some z → z ≠ 0 →
        Opens e (.prover n g) verifier inputs position value ∧
        if position = 0 ∧ items.length = n then
          ∃ cause : Rejection, cause.kind = .capacityExceeded ∧
            createWitness (.prover n (g.take (2 * n - 1))) inputs (.int position) =
              .error (.rejected cause)
        else Opens e (.prover n (g.take (2 * n - 1))) verifier inputs position value := by
  have hcut : (Setup.proverValues α n).take (2 * n - 1) = (List.range (2 * n - 1)).map fun k =>
      ofResidue (Setup.proverResidue α n k) := by
    rw [Setup.proverValues, ← List.map_take, List.take_range, min_eq_left (by omega)]
  refine ⟨_, _, generate_eq h hcapacity hn hα, ?_, ?_⟩
  · apply proverParam_list hcapacity hn
    rw [List.length_take, Setup.proverValues, List.length_map, List.length_range]
    omega
  · intro inputs value items position z hmembers hitems hfits hvalue hclass hz
    obtain ⟨units, hunits, hlength, hvalues⟩ := exists_units hitems
    have hunit := hvalues position value z hvalue hclass
    have hposition : position < units.length := by
      rw [hlength]
      exact (List.getElem?_eq_some_iff.mp hvalue).1
    rw [← hlength] at hfits ⊢
    refine ⟨opens_shortRecord h hmembers hunits hfits hposition hclass hz hunit (by omega)
      (by omega), ?_⟩
    rw [hcut]
    split
    · next hlast =>
      exact ⟨_, rfl, createWitness_outside hmembers hunits hfits hposition (by omega)⟩
    · next hinside =>
      exact opens_shortRecord h hmembers hunits hfits hposition hclass hz hunit (by omega) (by omega)

theorem generated_opens_full_vector :
    ∃ g verifier, generate logarithmPairing 5 (.int 2) .null = .ok (.prover 2 g, verifier) ∧
      Opens logarithmPairing (.prover 2 g) verifier (.list [.int (-7), .scalar 0]) 0 (.int (-7)) ∧
      ∃ cause : Rejection, cause.kind = .capacityExceeded ∧
        createWitness (.prover 2 (g.take 3)) (.list [.int (-7), .scalar 0]) (.int 0) =
          .error (.rejected cause) := by
  obtain ⟨g, verifier, hgenerated, -, hopens⟩ := generated_opens logarithmPairing_isBilinear
    (n := 2) (show (Value.int 2).toInt = _ from rfl) (by decide)
    (show Setup.trapdoor 5 .null = _ from rfl)
  have hitems : ∀ item ∈ [Value.int (-7), .scalar 0], ∃ x, item.residueClass? = some x := by
    simp [residueClass?]
  have hne : ((-7 : ℤ) : ZMod groupOrder) ≠ 0 := by decide +kernel
  have hboth := hopens (.list [.int (-7), .scalar 0]) (.int (-7)) _ 0 _ rfl hitems le_rfl rfl rfl hne
  exact ⟨g, verifier, hgenerated, hboth.1, hboth.2⟩

end VectorCommitment
