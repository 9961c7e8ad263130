import VectorCommitment.Proofs.Codec.Decimal
import VectorCommitment.Proofs.Curve.GroupLaw
import VectorCommitment.Proofs.Failure.Acceptance
import VectorCommitment.Proofs.Json.Reader

namespace VectorCommitment

open Outcome

namespace Value

mutual

def hasShortTexts : Value → Bool
  | text t => t.length ≤ Text.digitLimit
  | list items => allShort items
  | tuple items => allShort items
  | dict entries => entriesShort entries
  | _ => true

def allShort : List Value → Bool
  | [] => true
  | v :: vs => v.hasShortTexts && allShort vs

def entriesShort : List (Text × Value) → Bool
  | [] => true
  | (_, v) :: entries => v.hasShortTexts && entriesShort entries

end

lemma allShort_iff (items : List Value) :
    allShort items = true ↔ ∀ v ∈ items, v.hasShortTexts = true := by
  induction items with
  | nil => simp [allShort]
  | cons v items ih => simp [allShort, ih]

structure IsWithinLimits (v : Value) : Prop where
  writable : v.isWritable = true
  short : v.hasShortTexts = true

lemma IsWithinLimits.of_mem {items : List Value} (h : (list items).IsWithinLimits) {v : Value}
    (hv : v ∈ items) : v.IsWithinLimits where
  writable := (allWritable_iff items).mp h.writable v hv
  short := (allShort_iff items).mp h.short v hv

inductive Denotes : Value → ℤ → Prop
  | int (i : ℤ) : Denotes (int i) i
  | text {t : Text} {i : ℤ} (h : t.Denotes i) : Denotes (text t) i

end Value

open Value

namespace Codec

inductive DenotesQuadratic : Value → Fp2 → Prop
  | coefficients {a b : Value} {re im : Fp} (ha : a.Denotes re.val) (hb : b.Denotes im.val) :
      DenotesQuadratic (.list [a, b]) ⟨re, im⟩

inductive DenotesPoint {F : Type} [Add F] [Mul F] (denotes : Value → F → Prop) (b : F) :
    Value → Point F → Prop
  | infinity : DenotesPoint denotes b .null .infinity
  | affine {v w : Value} {x y : F} (hx : denotes v x) (hy : denotes w y)
      (hon : y * y = x * x * x + b) : DenotesPoint denotes b (.list [v, w]) (.affine x y)

section Readers

variable (other : Value → Rejection) (hkind : ∀ v, (other v).kind = .serialization)
  (hwritable : ∀ v, (other v).isWritable = v.isWritable)

include hkind hwritable

lemma rejects_other {α : Type} {v : Value} (hv : v.IsWithinLimits) :
    Rejects .serialization (reject (other v) : Outcome α) :=
  rejects_reject (hkind v) ((hwritable v).trans hv.writable)

lemma accepts_readInteger {v : Value} (hv : v.IsWithinLimits) :
    Accepts .serialization (readInteger other v) v.Denotes := by
  have hother : Rejects .serialization (reject (other v) : Outcome ℤ) :=
    rejects_other other hkind hwritable hv
  cases v with
  | int i =>
    refine accepts_of_unique rfl (.int i) fun j hj => ?_
    cases hj
    rfl
  | text t =>
    have hlength : t.length ≤ Text.digitLimit := of_decide_eq_true hv.short
    rw [readInteger]
    rcases Text.readInt_cases hlength with ⟨i, hread, hi⟩ | hread
    · rw [hread]
      refine accepts_of_unique rfl (.text hi) fun j hj => ?_
      cases hj with
      | text hj => exact hj.unique hi hlength
    -- A text that is not read denotes nothing: the texts that denote an integer are all read.
    · rw [hread]
      refine accepts_of_rejects hother fun i hi => ?_
      cases hi with
      | text hi =>
        rw [Text.readInt_of_denotes hi hlength] at hread
        cases hread
  | _ => exact accepts_of_rejects hother fun i h => by cases h

lemma accepts_readPair {v : Value} (hv : v.IsWithinLimits) :
    Accepts .serialization (readPair other v) fun pair => v = .list [pair.1, pair.2] := by
  unfold readPair
  split
  · next a b =>
    refine accepts_of_unique (a := (a, b)) rfl rfl fun pair hpair => ?_
    cases hpair
    rfl
  · next hnot =>
    refine accepts_of_rejects (rejects_other other hkind hwritable hv) ?_
    rintro ⟨a, b⟩ rfl
    exact hnot a b rfl

lemma accepts_pairOf {α β : Type} {read : Value → Outcome α} {finish : α → α → Outcome β}
    {allowed : Value → α → Prop} {allowed' : α → α → β → Prop}
    (hread : ∀ v : Value, v.IsWithinLimits → Accepts .serialization (read v) (allowed v))
    (hfinish : ∀ x y, Accepts .serialization (finish x y) (allowed' x y))
    {v : Value} (hv : v.IsWithinLimits) :
    Accepts .serialization
      (do
        let (a, b) ← readPair other v
        let x ← read a
        let y ← read b
        finish x y)
      fun result => ∃ a b x y, v = .list [a, b] ∧ allowed a x ∧ allowed b y ∧
        allowed' x y result := by
  have hmembers : ∀ pair : Value × Value, v = .list [pair.1, pair.2] → Accepts .serialization
      (do
        let x ← read pair.1
        let y ← read pair.2
        finish x y)
      fun result => ∃ x, allowed pair.1 x ∧ ∃ y, allowed pair.2 y ∧ allowed' x y result := by
    rintro ⟨a, b⟩ rfl
    have ha := hread a (hv.of_mem List.mem_cons_self)
    have hb := hread b (hv.of_mem (List.mem_cons_of_mem _ List.mem_cons_self))
    exact ha.bind fun x _ => hb.bind fun y _ => hfinish x y
  refine ((accepts_readPair other hkind hwritable hv).bind hmembers).congr fun result => ⟨?_, ?_⟩
  · rintro ⟨⟨a, b⟩, hpair, x, hx, y, hy, hresult⟩
    exact ⟨a, b, x, y, hpair, hx, hy, hresult⟩
  · rintro ⟨a, b, x, y, hpair, hx, hy, hresult⟩
    exact ⟨(a, b), hpair, x, hx, y, hy, hresult⟩

lemma accepts_affine {F : Type} [Field F] [DecidableEq F] {read : Value → Outcome F}
    {denotes : Value → F → Prop} {b : F} (cause : Rejection)
    (hread : ∀ v : Value, v.IsWithinLimits → Accepts .serialization (read v) (denotes v))
    (hcauseKind : cause.kind = .serialization) (hcauseWritable : cause.isWritable = true)
    {v : Value} (hv : v.IsWithinLimits) (hnull : v ≠ .null) :
    Accepts .serialization
      (do
        let (v, w) ← readPair other v
        let x ← read v
        let y ← read w
        let p : Point F := .affine x y
        if p.isOn b then return p else reject cause)
      (DenotesPoint denotes b v) := by
  refine (accepts_pairOf other hkind hwritable hread
    (fun x y => accepts_check cause hcauseKind hcauseWritable (Point.affine x y)) hv).congr
    fun p => ⟨?_, ?_⟩
  · rintro ⟨v, w, x, y, rfl, hx, hy, hon, rfl⟩
    exact .affine hx hy (sub_eq_iff_eq_add'.mp (of_decide_eq_true hon))
  · intro h
    cases h with
    | infinity => exact absurd rfl hnull
    | affine hx hy hon =>
      exact ⟨_, _, _, _, rfl, hx, hy, decide_eq_true (sub_eq_iff_eq_add'.mpr hon), rfl⟩

end Readers

lemma accepts_readScalar {v : Value} (hv : v.IsWithinLimits) :
    Accepts .serialization (readScalar v) fun n => ∃ i, v.Denotes i ∧ (n : ℤ) = i % groupOrder := by
  refine ((accepts_readInteger .notScalarNumber (fun _ => rfl) (fun _ => rfl) hv).bind fun i _ =>
    accepts_ok (i % groupOrder).toNat).congr fun n => ?_
  refine exists_congr fun i => and_congr_right fun _ => ?_
  have hpos : 0 ≤ i % groupOrder := Int.emod_nonneg i (by decide)
  omega

lemma accepts_readCoordinate {v : Value} (hv : v.IsWithinLimits) :
    Accepts .serialization (readCoordinate v) fun x => v.Denotes x.val := by
  have hinteger := accepts_readInteger .notCoordinateNumber (fun _ => rfl) (fun _ => rfl) hv
  have hrange : ∀ i : ℤ, v.Denotes i → Accepts .serialization
      (if 0 ≤ i ∧ i < fieldModulus then .ok (Fp.ofNat i.toNat) else reject .coordinateOutside)
      fun x => (0 ≤ i ∧ i < fieldModulus) ∧ x = Fp.ofNat i.toNat :=
    fun i _ => accepts_check .coordinateOutside rfl rfl (Fp.ofNat i.toNat)
  refine (hinteger.bind hrange).congr fun x => ⟨?_, fun hx => ?_⟩
  · rintro ⟨i, hi, ⟨hnonneg, hlt⟩, rfl⟩
    have htoNat : i.toNat < fieldModulus := by omega
    rw [Fp.val_ofNat, Nat.mod_eq_of_lt htoNat, Int.toNat_of_nonneg hnonneg]
    exact hi
  · refine ⟨x.val, hx, ⟨Int.natCast_nonneg _, Int.ofNat_lt.mpr x.val_lt⟩, ?_⟩
    rw [Int.toNat_natCast, Fp.ofNat_val]

lemma accepts_readQuadratic {v : Value} (hv : v.IsWithinLimits) :
    Accepts .serialization (readQuadratic v) (DenotesQuadratic v) := by
  have hpair := accepts_pairOf .quadraticNotPair (fun _ => rfl) (fun _ => rfl)
    (fun _ => accepts_readCoordinate) (fun re im => accepts_ok (⟨re, im⟩ : Fp2)) hv
  refine hpair.congr fun x => ⟨?_, ?_⟩
  · rintro ⟨a, b, re, im, rfl, ha, hb, rfl⟩
    exact .coefficients ha hb
  · rintro ⟨ha, hb⟩
    exact ⟨_, _, _, _, rfl, ha, hb, rfl⟩

def DenotesG1 : Value → G1 → Prop := DenotesPoint (fun v x => v.Denotes x.val) 3

def DenotesG2 : Value → G2 → Prop := DenotesPoint DenotesQuadratic twistConstant

inductive DenotesTarget : Value → Target → Prop
  | coefficients {items : List Value} {t : Target}
      (h : List.Forall₂ (fun v x => v.Denotes (Fp.val x)) items t.coeffs) :
      DenotesTarget (.list items) t

lemma accepts_infinity {F : Type} [Field F] {denotes : Value → F → Prop} {b : F} :
    Accepts .serialization (.ok .infinity) (DenotesPoint denotes b .null) := by
  refine accepts_of_unique rfl .infinity fun p hp => ?_
  cases hp
  rfl

lemma accepts_readG1 {v : Value} (hv : v.IsWithinLimits) :
    Accepts .serialization (readG1 v) (DenotesG1 v) := by
  unfold readG1
  split
  · exact accepts_infinity
  · next hnull =>
    exact accepts_affine .curvePointNotPair (fun _ => rfl) (fun _ => rfl) .pointOffCurve
      (fun _ => accepts_readCoordinate) rfl rfl hv hnull

lemma accepts_readG2 {v : Value} (hv : v.IsWithinLimits) :
    Accepts .serialization (readG2 v) (DenotesG2 v) := by
  unfold readG2
  split
  · exact accepts_infinity
  · next hnull =>
    exact accepts_affine .twistPointNotPair (fun _ => rfl) (fun _ => rfl) .pointOffTwist
      (fun _ => accepts_readQuadratic) rfl rfl hv hnull

lemma rejects_targetNotTwelve (size : ℕ ⊕ String) :
    Rejects .serialization (reject (.targetNotTwelve size) : Outcome Target) :=
  rejects_reject rfl rfl

lemma accepts_targetOf {coeffs : List Fp} (hlength : coeffs.length = 12) :
    Accepts .serialization
      (if h : coeffs.length = 12 then .ok ⟨coeffs, h⟩
        else reject (.targetNotTwelve (.inl coeffs.length)) : Outcome Target)
      fun t => t.coeffs = coeffs := by
  rw [dif_pos hlength]
  refine accepts_of_unique rfl rfl fun t ht => ?_
  subst ht
  rfl

lemma accepts_readTarget {v : Value} (hv : v.IsWithinLimits) :
    Accepts .serialization (readTarget v) (DenotesTarget v) := by
  unfold readTarget
  split
  · next items =>
    by_cases hlength : items.length = 12
    · have hcoeffs := Accepts.mapM fun item hitem => accepts_readCoordinate (hv.of_mem hitem)
      rw [if_neg (not_not.mpr hlength)]
      refine (hcoeffs.bind fun coeffs h => accepts_targetOf (h.length_eq.symm.trans hlength)).congr
        fun t => ⟨?_, ?_⟩
      · rintro ⟨coeffs, h, rfl⟩
        exact .coefficients h
      · rintro ⟨h⟩
        exact ⟨t.coeffs, h, rfl⟩
    · rw [if_pos hlength]
      refine accepts_of_rejects (rejects_targetNotTwelve _) ?_
      rintro t ⟨h⟩
      exact hlength (h.length_eq.trans t.length_eq)
  · next hnot =>
    refine accepts_of_rejects (rejects_targetNotTwelve _) ?_
    rintro t ⟨h⟩
    exact hnot _ rfl

inductive SameNumbers : Value → Value → Prop
  | null : SameNumbers .null .null
  | number {v w : Value} {i : ℤ} (hv : v.Denotes i) (hw : w.Denotes i) : SameNumbers v w
  | list {vs ws : List Value} (h : List.Forall₂ SameNumbers vs ws) :
      SameNumbers (.list vs) (.list ws)

lemma sameNumbers_list_iff (vs ws : List Value) :
    SameNumbers (.list vs) (.list ws) ↔ List.Forall₂ SameNumbers vs ws := by
  refine ⟨fun h => ?_, .list⟩
  cases h with
  | number hv hw => cases hv
  | list h => exact h

lemma denotes_unique {v : Value} (hv : v.IsWithinLimits) {i j : ℤ} (hi : v.Denotes i)
    (hj : v.Denotes j) : i = j :=
  (accepts_readInteger .notScalarNumber (fun _ => rfl) (fun _ => rfl) hv).unique hi hj

def IsFaithful {α : Type} (denotes : Value → α → Prop) : Prop :=
  ∀ {v w : Value} {x y : α}, v.IsWithinLimits → w.IsWithinLimits → denotes v x → denotes w y →
    (x = y ↔ SameNumbers v w)

lemma isFaithful_coordinate : IsFaithful fun v x => v.Denotes (Fp.val x) := by
  intro v w x y hv hw hx hy
  constructor
  · rintro rfl
    exact .number hx hy
  · intro h
    cases h with
    | null => cases hx
    -- The numbers that the two values share need not be the coordinates yet: each value has only one.
    | number hi hj =>
      have hxi := denotes_unique hv hx hi
      have hyi := denotes_unique hw hy hj
      exact Fp.ext (by omega)
    | list => cases hx

namespace IsFaithful

variable {α : Type} {denotes : Value → α → Prop} {vs ws : List Value} {xs ys : List α}

lemma forall₂_iff (h : IsFaithful denotes) (hvs : ∀ v ∈ vs, v.IsWithinLimits)
    (hws : ∀ w ∈ ws, w.IsWithinLimits) (hxs : List.Forall₂ denotes vs xs)
    (hys : List.Forall₂ denotes ws ys) : xs = ys ↔ List.Forall₂ SameNumbers vs ws := by
  induction hxs generalizing ws ys with
  | nil => cases hys <;> simp
  | cons hx hxs ih =>
    cases hys with
    | nil => simp
    | cons hy hys =>
      obtain ⟨hv, hvs⟩ := List.forall_mem_cons.mp hvs
      obtain ⟨hw, hws⟩ := List.forall_mem_cons.mp hws
      rw [List.cons.injEq, List.forall₂_cons, h hv hw hx hy, ih hvs hws hys]

lemma list_iff (h : IsFaithful denotes) (hvs : (Value.list vs).IsWithinLimits)
    (hws : (Value.list ws).IsWithinLimits) (hxs : List.Forall₂ denotes vs xs)
    (hys : List.Forall₂ denotes ws ys) : xs = ys ↔ SameNumbers (.list vs) (.list ws) := by
  rw [sameNumbers_list_iff]
  exact h.forall₂_iff (fun v hv => hvs.of_mem hv) (fun w hw => hws.of_mem hw) hxs hys

lemma pair_iff (h : IsFaithful denotes) {v v' w w' : Value} {x x' y y' : α}
    (hv : (Value.list [v, v']).IsWithinLimits) (hw : (Value.list [w, w']).IsWithinLimits)
    (hx : denotes v x) (hx' : denotes v' x') (hy : denotes w y) (hy' : denotes w' y') :
    x = y ∧ x' = y' ↔ SameNumbers (.list [v, v']) (.list [w, w']) := by
  rw [← h.list_iff hv hw (.cons hx (.cons hx' .nil)) (.cons hy (.cons hy' .nil))]
  simp

lemma point {F : Type} [Field F] {denotes : Value → F → Prop} (h : IsFaithful denotes) (b : F) :
    IsFaithful (DenotesPoint denotes b) := by
  intro v w p q hv hw hp hq
  cases hp with
  | infinity =>
    cases hq with
    | infinity => exact iff_of_true rfl .null
    | affine hx hy hon =>
      refine iff_of_false nofun fun hsame => ?_
      cases hsame with
      | number hnull => cases hnull
  | affine hx hy hon =>
    cases hq with
    | infinity =>
      refine iff_of_false nofun fun hsame => ?_
      cases hsame with
      | number hlist => cases hlist
    | affine hx' hy' hon' =>
      rw [Point.affine.injEq]
      exact h.pair_iff hv hw hx hy hx' hy'

lemma reading_iff (h : IsFaithful denotes) {read : Value → Outcome α}
    (hread : ∀ v : Value, v.IsWithinLimits → Accepts .serialization (read v) (denotes v))
    {v w : Value} (hv : v.IsWithinLimits) (hw : w.IsWithinLimits) {x y : α} (hx : read v = .ok x)
    (hy : read w = .ok y) : x = y ↔ SameNumbers v w :=
  h hv hw (((hread v hv).ok_iff x).mp hx) (((hread w hw).ok_iff y).mp hy)

end IsFaithful

lemma isFaithful_quadratic : IsFaithful DenotesQuadratic := by
  rintro v w x y hv hw ⟨hre, him⟩ ⟨hre', him'⟩
  rw [Fp2.mk.injEq]
  exact isFaithful_coordinate.pair_iff hv hw hre him hre' him'

lemma isFaithful_g1 : IsFaithful DenotesG1 := isFaithful_coordinate.point 3

lemma isFaithful_g2 : IsFaithful DenotesG2 := isFaithful_quadratic.point twistConstant

lemma isFaithful_target : IsFaithful DenotesTarget := by
  rintro v w ⟨xs, hx⟩ ⟨ys, hy⟩ hv hw ⟨hxs⟩ ⟨hys⟩
  rw [Target.mk.injEq]
  exact isFaithful_coordinate.list_iff hv hw hxs hys

/-- Scalars, points and target elements are read from exactly their forms; everything else is
rejected. Two readings give the same point or target element if and only if their numbers are the
same. -/
theorem formats_exact {v : Value} (hv : v.IsWithinLimits) :
    Accepts .serialization (readScalar v)
      (fun n => ∃ i, v.Denotes i ∧ (n : ℤ) = i % groupOrder) ∧
    Accepts .serialization (readG1 v) (DenotesG1 v) ∧
    Accepts .serialization (readG2 v) (DenotesG2 v) ∧
    Accepts .serialization (readTarget v) (DenotesTarget v) ∧
    ∀ w : Value, w.IsWithinLimits →
      (∀ p q, readG1 v = .ok p → readG1 w = .ok q → (p = q ↔ SameNumbers v w)) ∧
      (∀ p q, readG2 v = .ok p → readG2 w = .ok q → (p = q ↔ SameNumbers v w)) ∧
      ∀ s t, readTarget v = .ok s → readTarget w = .ok t → (s = t ↔ SameNumbers v w) := by
  refine ⟨accepts_readScalar hv, accepts_readG1 hv, accepts_readG2 hv, accepts_readTarget hv,
    fun w hw => ⟨fun p q => ?_, fun p q => ?_, fun s t => ?_⟩⟩
  · exact isFaithful_g1.reading_iff (fun _ => accepts_readG1) hv hw
  · exact isFaithful_g2.reading_iff (fun _ => accepts_readG2) hv hw
  · exact isFaithful_target.reading_iff (fun _ => accepts_readTarget) hv hw

theorem formats_exact_leading_zero :
    readG1 (.list [.text (Text.ofString "01"), .int 2]) = .ok G1.generator ∧
    Rejects .serialization (readTarget (.list [.text (Text.ofString "01"), .int 2])) ∧
    SameNumbers (.list [.text (Text.ofString "01"), .int 2])
      (.list [.int 1, .text (Text.ofString "2")]) := by
  have hv : (Value.list [.text (Text.ofString "01"), .int 2]).IsWithinLimits :=
    ⟨by decide +kernel, by decide⟩
  have hw : (Value.list [.int 1, .text (Text.ofString "2")]).IsWithinLimits :=
    ⟨by decide +kernel, by decide⟩
  obtain ⟨-, hpoint, -, htarget, hsame⟩ := formats_exact hv
  have hdigits : Text.Denotes ([0, 1].map (0x30 + ·)) (Nat.ofDigits 10 [0, 1].reverse : ℕ) :=
    .plain (by decide) (by decide)
  have hone : Text.Denotes (Text.ofString "01") 1 := hdigits
  have hread := (hpoint.ok_iff G1.generator).mpr (.affine (.text hone) (.int 2) (by decide))
  refine ⟨hread, htarget.rejects ?_, ((hsame _ hw).1 _ _ hread rfl).mp rfl⟩
  rintro t ⟨h⟩
  exact absurd (h.length_eq.trans t.length_eq) (by decide)

end Codec

end VectorCommitment
