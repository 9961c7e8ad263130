import VectorCommitment.Proofs.Codec.Point
import VectorCommitment.Proofs.Failure.Ending
import VectorCommitment.Proofs.Json.Reader
import VectorCommitment.Proofs.Scheme.Opening

/-! What the operations of the scheme refuse. Arguments are looked at one after the other, and the
first that is refused decides. -/

namespace VectorCommitment

open Outcome Value

namespace Value

lemma isWritable_of_mem_members {v : Value} {items : List Value} (hv : v.isWritable = true)
    (hmembers : v.members = .ok items) : ∀ item ∈ items, item.isWritable = true := by
  have hbytes (bs : List UInt8) : ∀ item ∈ bs.map fun b => int b.toNat, item.isWritable = true :=
    List.forall_mem_map.mpr fun b _ => Codec.isWritable_of_lt (b.toNat_lt.trans (by decide))
  unfold members at hmembers
  split at hmembers
  · obtain rfl := Except.ok.inj hmembers
    exact (allWritable_iff _).mp hv
  · obtain rfl := Except.ok.inj hmembers
    exact (allWritable_iff _).mp hv
  · obtain rfl := Except.ok.inj hmembers
    exact List.forall_mem_map.mpr fun _ _ => rfl
  · obtain rfl := Except.ok.inj hmembers
    exact hbytes _
  · obtain rfl := Except.ok.inj hmembers
    exact hbytes _
  · obtain rfl := Except.ok.inj hmembers
    exact hbytes _
  · obtain rfl := Except.ok.inj hmembers
    exact List.forall_mem_map.mpr fun _ _ => rfl
  · cases hmembers

end Value

lemma accepts_requireUnit {v : Value} (hv : v.isWritable = true) :
    Accepts .invalidInput (requireUnit v) (messageUnit? v = some ·) := by
  cases hunit : messageUnit? v with
  | some unit =>
    exact accepts_of_unique (requireUnit_eq hunit) rfl fun _ h => (Option.some.inj h).symm
  | none =>
    refine accepts_of_rejects ?_ fun _ h => by cases h
    rw [requireUnit, hunit]
    exact rejects_reject rfl hv

def unitError? (v : Value) : Option ErrorKind :=
  if v.isWhole = true then none else some .invalidInput

def vectorError? (capacity : ℕ) (inputs : Value) : Option ErrorKind :=
  match inputs.members with
  | .error _ => some .invalidInput
  | .ok items =>
    (if ∀ item ∈ items, item.isWhole = true then none else some .invalidInput).or <|
      if capacity < items.length then some .capacityExceeded else none

def positionError? (capacity : ℕ) : Value → Option ErrorKind
  | .int i => if 0 ≤ i ∧ i < capacity then none else some .capacityExceeded
  | _ => some .invalidInput

/-- The kind of error that a position of a vector is refused with. A prover's record with one entry
less than a setup makes lacks the window of the first position of a full vector. -/
def slotError? (capacity size : ℕ) (items : List Value) (position : ℕ) : Option ErrorKind :=
  if position = 0 ∧ items.length = capacity ∧ size = 2 * capacity - 1 then some .capacityExceeded
  else if items[position]?.all Value.isZero = true then some .invalidScalar
  else none

def openingError? (capacity size : ℕ) (inputs position : Value) : Option ErrorKind :=
  (vectorError? capacity inputs).or <| (positionError? capacity position).or <|
    match inputs.members, position with
    | .ok items, .int i => slotError? capacity size items i.toNat
    | _, _ => none

def verificationError? (capacity : ℕ) (commitment value position witness : Value) :
    Option ErrorKind :=
  (positionError? capacity position).or <| (unitError? value).or <|
    if value.isZero = true then some .invalidScalar
    else if commitment.isG1Point = false then some .invalidInput
    else if witness.isG1Point = false then some .invalidInput
    else none

lemma ends_requireUnit {v : Value} (hv : v.isWritable = true) :
    (requireUnit v).Ends (unitError? v) (messageUnit? v = some ·) :=
  (accepts_requireUnit hv).ends (exists_messageUnit_iff v)

lemma ends_messageUnits (capacity : ℕ) {inputs : Value} (hinputs : inputs.isWritable = true) :
    (messageUnits capacity inputs).Ends (vectorError? capacity inputs) fun units =>
      ∃ items, inputs.members = .ok items ∧ UnitsOf items units ∧ units.length ≤ capacity := by
  unfold messageUnits vectorError?
  cases hmembers : inputs.members with
  | error cause => exact rejects_reject rfl rfl
  | ok items =>
    have hitems : ∀ item ∈ items,
        Accepts .invalidInput (requireUnit item) (messageUnit? item = some ·) := fun item hitem =>
      accepts_requireUnit (isWritable_of_mem_members hinputs hmembers item hitem)
    refine ((Accepts.mapM hitems).ends (exists_unitsOf_iff items)).bind fun units hunits => ?_
    have hlength := UnitsOf.length_eq hunits
    refine ends_ite (by rw [hlength]) (fun _ => rejects_reject rfl rfl) fun hfits => ?_
    exact ends_ok ⟨items, rfl, hunits, Nat.not_lt.mp hfits⟩

lemma ends_checkPosition (capacity : ℕ) {position : Value}
    (hposition : position.isWritable = true) :
    (checkPosition capacity position).Ends (positionError? capacity position) fun k : ℕ =>
      position = .int k ∧ k < capacity := by
  cases position with
  | int i =>
    unfold checkPosition positionError?
    refine ends_ite Iff.rfl (fun hi => ends_ok ?_) fun _ => ends_reject hposition
    exact ⟨congrArg Value.int (Int.toNat_of_nonneg hi.1).symm, by omega⟩
  | _ => exact ends_reject hposition

def IsEncodedPoint (p : Value) : Prop :=
  p.isG1Point = true ∧ ∃ bytes, encodePoint p = .ok bytes ∧ bytes.length = 64

lemma isEncodedPoint_ofResidue (x : ZMod groupOrder) : IsEncodedPoint (ofResidue x) :=
  ⟨isG1Point_ofResidue x, _, encodePoint_ofG1 (Point.isOn_multiple x), G1.length_encode _⟩

lemma ends_sumOfUnits {entries : List Value} {units : List ℕ}
    (hentries : ∀ entry ∈ entries, entry.isG1Point = true)
    (hlength : entries.length = units.length) :
    (sumOfUnits entries units).Ends none IsEncodedPoint := by
  obtain ⟨x, hx⟩ := exists_sumOfUnits hentries hlength
  rw [hx]
  exact ends_ok (isEncodedPoint_ofResidue x)

section Prover

variable {capacity : ℕ} {g : List Value} (hcapacity : 1 ≤ capacity)
  (hsize : 2 * capacity - 1 ≤ g.length) (hg : ∀ entry ∈ g, entry.isG1Point = true) {inputs : Value}
  (hinputs : inputs.isWritable = true)
include hcapacity hsize hg hinputs

lemma ends_commit :
    (commit (.prover capacity g) inputs).Ends (vectorError? capacity inputs) IsEncodedPoint := by
  have hnone : (vectorError? capacity inputs).or none = vectorError? capacity inputs :=
    Option.or_none
  rw [← hnone]
  refine (ends_messageUnits capacity hinputs).bind fun units ⟨items, _, _, hfits⟩ => ?_
  refine ends_sumOfUnits (fun entry hentry => hg entry (List.mem_of_mem_take hentry)) ?_
  rw [List.length_take]
  omega

lemma ends_createWitness {position : Value} (hposition : position.isWritable = true) :
    (createWitness (.prover capacity g) inputs position).Ends
      (openingError? capacity g.length inputs position) IsEncodedPoint := by
  refine (ends_messageUnits capacity hinputs).bind fun units ⟨items, hmembers, hunits, hfits⟩ => ?_
  refine (ends_checkPosition capacity hposition).bind fun k ⟨hk, hlt⟩ => ?_
  have hlength := hunits.length_eq
  rw [hmembers, hk]
  -- a window ends behind the last entry only if it is the longest and the last entry is missing
  refine ends_ite ?_ (fun _ => rejects_reject rfl rfl) fun hwindow => ?_
  · rw [Int.toNat_natCast]
    omega
  refine ends_ite (hunits.getD_eq_zero_iff k) (fun _ => rejects_reject rfl rfl) fun _ => ?_
  refine ends_sumOfUnits (fun entry hentry => hg entry ?_) ?_
  · exact List.mem_of_mem_drop (List.mem_of_mem_take hentry)
  · rw [List.length_take, List.length_drop]
    omega

end Prover

/-- Committing and opening refuse exactly the arguments that are described, and nothing else stops
them. -/
theorem prover_operations_end {capacity entries inputs position : Value} {n : ℕ} {g : List Value}
    (hprover : proverParam capacity entries = .ok (.prover n g))
    (hg : ∀ entry ∈ g, entry.isG1Point = true) (hinputs : inputs.isWritable = true)
    (hposition : position.isWritable = true) :
    (commit (.prover n g) inputs).Ends (vectorError? n inputs) IsEncodedPoint ∧
    (createWitness (.prover n g) inputs position).Ends (openingError? n g.length inputs position)
      IsEncodedPoint := by
  obtain ⟨hn, hsize⟩ := size_of_proverParam hprover
  exact ⟨ends_commit hn hsize hg hinputs, ends_createWitness hn hsize hg hinputs hposition⟩

theorem prover_operations_end_short_record :
    (commit (.prover 2 [ofG1 G1.generator, ofG1 G1.generator, .null])
      (.list [.int (-1), .scalar 2])).Ends none IsEncodedPoint ∧
    Rejects .capacityExceeded
      (createWitness (.prover 2 [ofG1 G1.generator, ofG1 G1.generator, .null])
        (.list [.int (-1), .scalar 2]) (.int 0)) ∧
    (createWitness (.prover 2 [ofG1 G1.generator, ofG1 G1.generator, .null])
      (.list [.int (-1), .scalar 2]) (.int 1)).Ends none IsEncodedPoint := by
  have hprover : proverParam (.int 2) (.list [ofG1 G1.generator, ofG1 G1.generator, .null]) =
    .ok (.prover 2 [ofG1 G1.generator, ofG1 G1.generator, .null]) := rfl
  have hg : ∀ entry ∈ [ofG1 G1.generator, ofG1 G1.generator, .null], entry.isG1Point = true := by
    decide
  have hinputs : (Value.list [.int (-1), .scalar 2]).isWritable = true := by decide +kernel
  obtain ⟨hcommit, hfirst⟩ := prover_operations_end hprover hg hinputs
    (show (Value.int 0).isWritable = true by decide +kernel)
  obtain ⟨-, hsecond⟩ := prover_operations_end hprover hg hinputs
    (show (Value.int 1).isWritable = true by decide +kernel)
  exact ⟨hcommit, hfirst, hsecond⟩

theorem prover_operations_end_unreduced :
    (Value.coordinate (.ofNat groupOrder)).toScalar = .ok (.scalar groupOrder) ∧
    (Value.scalar groupOrder).residueClass? = some 0 ∧
    proverParam (.int 1) (.list [ofG1 G1.generator, .null]) =
      .ok (.prover 1 [ofG1 G1.generator, .null]) ∧
    (∀ entry ∈ [ofG1 G1.generator, .null], entry.isG1Point = true) ∧
    createWitness (.prover 1 [ofG1 G1.generator, .null]) (.list [.scalar groupOrder]) (.int 0) =
      .ok .null :=
  ⟨rfl, congrArg some (ZMod.natCast_self groupOrder), rfl, by decide, rfl⟩

lemma ends_verify {e : PairingMap} (h : e.IsTotal) {capacity : ℕ} {entries : List Value}
    (hsize : capacity ≤ entries.length)
    (hentries : ∀ entry ∈ entries, ∃ b : ℕ, entry = .ofG2 (b • G2.generator)) (target : Target)
    (commitment : Value) {value position : Value} (hvalue : value.isWritable = true)
    (hposition : position.isWritable = true) (witness : Value) :
    (verify e commitment (.verifier capacity entries (.target target)) value position witness).Ends
      (verificationError? capacity commitment value position witness) fun _ => True := by
  refine (ends_checkPosition capacity hposition).bind fun k ⟨_, hlt⟩ => ?_
  refine (ends_requireUnit hvalue).bind fun unit hunit => ?_
  refine ends_ite (messageUnit_eq_zero_iff hunit) (fun _ => rejects_reject rfl rfl) fun _ => ?_
  refine ends_ite (by simp) (fun _ => rejects_reject rfl rfl) fun hcommitment => ?_
  refine ends_ite (by simp) (fun _ => rejects_reject rfl rfl) fun hwitness => ?_
  obtain ⟨c, rfl⟩ := (isG1Point_iff commitment).mp (by simpa using hcommitment)
  obtain ⟨w, rfl⟩ := (isG1Point_iff witness).mp (by simpa using hwitness)
  have hindex : capacity - k - 1 < entries.length := by omega
  obtain ⟨b, hb⟩ := hentries _ (List.getElem_mem hindex)
  simp only [mulPoint_ofResidue, ok_bind, verifierEntries, List.getElem?_eq_getElem hindex, hb]
  have hpairs : ∀ x y : ZMod groupOrder,
      ∀ pair ∈ [(ofResidue x, ofG2 (b • G2.generator)), (ofResidue y, ofG2 G2.generator)],
        pair.1.isG1Point = true ∧ ∃ b : ℕ, pair.2 = ofG2 (b • G2.generator) := by
    intro x y
    rw [List.forall_mem_cons, List.forall_mem_singleton]
    exact ⟨⟨isG1Point_ofResidue x, b, rfl⟩, isG1Point_ofResidue y, 1, rfl⟩
  obtain ⟨product, hproduct⟩ := exists_pairingProduct h (hpairs _ _)
  rw [hproduct]
  exact ⟨_, rfl, trivial⟩

theorem verification_ends {e : PairingMap} (h : e.IsTotal) {capacity entries t : Value} {n : ℕ}
    {hs : List Value} {target : Target}
    (hverifier : verifierParam capacity entries t = .ok (.verifier n hs (.target target)))
    (hentries : ∀ entry ∈ hs, ∃ b : ℕ, entry = .ofG2 (b • G2.generator)) (commitment : Value)
    {value position : Value} (hvalue : value.isWritable = true)
    (hposition : position.isWritable = true) (witness : Value) :
    (verify e commitment (.verifier n hs (.target target)) value position witness).Ends
      (verificationError? n commitment value position witness) fun _ => True :=
  ends_verify h (size_of_verifierParam hverifier).2 hentries target commitment hvalue hposition
    witness

theorem verification_ends_without_point :
    Rejects .invalidScalar (verify logarithmPairing (.text []) (.verifier 1 [.null] (.target 1))
      (.int groupOrder) (.int 0) .null) ∧
    Rejects .invalidInput (verify logarithmPairing (ofG1 (.affine 1 1))
      (.verifier 1 [.null] (.target 1)) (.scalar 5) (.int 0) .null) ∧
    ∃ accepted, verify logarithmPairing (ofG1 G1.generator) (.verifier 1 [.null] (.target 1))
      (.scalar 5) (.int 0) (ofG1 G1.generator) = .ok accepted := by
  have hends := verification_ends logarithmPairing_isBilinear.isTotal
    (show verifierParam (.int 1) (.list [.null]) (.target 1) = _ from rfl)
    (List.forall_mem_singleton.mpr ⟨0, rfl⟩)
  have hposition : (Value.int 0).isWritable = true := by decide +kernel
  have hzero : (Value.int groupOrder).isWritable = true := by decide +kernel
  have hfive : (Value.scalar 5).isWritable = true := rfl
  obtain ⟨accepted, haccepted, -⟩ := hends (ofG1 G1.generator) hfive hposition (ofG1 G1.generator)
  exact ⟨hends (.text []) hzero hposition .null, hends (ofG1 (.affine 1 1)) hfive hposition .null,
    accepted, haccepted⟩

theorem verification_ends_unreduced :
    (Value.coordinate (.ofNat groupOrder)).toScalar = .ok (.scalar groupOrder) ∧
    (Value.scalar groupOrder).residueClass? = some 0 ∧
    verifierParam (.int 1) (.list [ofG2 G2.generator]) (.target generatorTarget) =
      .ok (.verifier 1 [ofG2 G2.generator] (.target generatorTarget)) ∧
    verify atePairing (ofG1 G1.generator)
      (.verifier 1 [ofG2 G2.generator] (.target generatorTarget)) (.scalar groupOrder) (.int 0)
      (ofG1 G1.generator) = .ok false :=
  ⟨rfl, congrArg some (ZMod.natCast_self groupOrder), rfl, rfl⟩

end VectorCommitment
