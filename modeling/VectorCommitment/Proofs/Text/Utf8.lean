import Mathlib.Tactic.Lemma
import VectorCommitment.Text.Utf8

namespace VectorCommitment.Text

def isScalar (c : CodePoint) : Bool := c < 0x110000 && !isSurrogate c

lemma isScalar_iff (c : Nat) : isScalar c = true ↔ c < 0xD800 ∨ 0xE000 ≤ c ∧ c < 0x110000 := by
  have hiff : isScalar c = true ↔ c < 0x110000 ∧ (¬0xD800 ≤ c ∨ ¬c < 0xE000) := by
    simp only [isScalar, isSurrogate, Bool.and_eq_true, Bool.not_eq_true', Bool.and_eq_false_iff,
      decide_eq_true_eq, decide_eq_false_iff_not]
  rw [hiff]
  omega

def Passes (surrogates : Bool) (c : Nat) : Prop :=
  c < 0x110000 ∧ (surrogates = false → isScalar c = true)

lemma passes_of_isScalar (surrogates : Bool) {c : Nat} (hc : isScalar c = true) :
    Passes surrogates c := by
  have hbound := (isScalar_iff c).mp hc
  exact ⟨by omega, fun _ => hc⟩

section Bytes

variable {surrogates : Bool} {n low high : Nat} (hn : n < 256)
include hn

lemma toNat_ofNat : (UInt8.ofNat n).toNat = n := by
  rw [UInt8.toNat_ofNat', Nat.mod_eq_of_lt hn]

lemma decodeFrom_lead (hlead : 0x80 ≤ n) {following : Nat}
    (hfollowing : following? surrogates n = some (following, low, high)) (rest : List UInt8) :
    decodeFrom surrogates 0 0 0 0 (.ofNat n :: rest) =
      decodeFrom surrogates (leadBits n following) following low high rest := by
  rw [decodeFrom, toNat_ofNat hn, if_neg (by simp)]
  dsimp only
  rw [if_neg (by omega), hfollowing]
  rfl

variable (hlow : low ≤ n) (hhigh : n ≤ high)
include hlow hhigh

lemma decodeFrom_more (begun needed : Nat) (rest : List UInt8) :
    decodeFrom surrogates begun (needed + 2) low high (.ofNat n :: rest) =
      decodeFrom surrogates (begun * 0x40 + n % 0x40) (needed + 1) 0x80 0xBF rest := by
  rw [decodeFrom, toNat_ofNat hn, if_pos (by simp [hlow, hhigh])]
  exact if_neg (by omega)

lemma decodeFrom_last (begun : Nat) (rest : List UInt8) :
    decodeFrom surrogates begun 1 low high (.ofNat n :: rest) =
      (begun * 0x40 + n % 0x40) :: decodeFrom surrogates 0 0 0 0 rest := by
  rw [decodeFrom, toNat_ofNat hn, if_pos (by simp [hlow, hhigh])]
  exact if_pos rfl

end Bytes

section Leads

variable {surrogates : Bool} {c : Nat}

lemma following?_two (hlow : 0x80 ≤ c) (hhigh : c < 0x800) :
    following? surrogates (0xC0 + c / 0x40) = some (1, 0x80, 0xBF) := by
  have hlead : 0xC2 ≤ 0xC0 + c / 0x40 ∧ 0xC0 + c / 0x40 ≤ 0xDF := by omega
  rw [following?, if_pos (by simpa using hlead)]

lemma exists_following?_three (hlow : 0x800 ≤ c) (hhigh : c < 0x10000)
    (hc : Passes surrogates c) : ∃ low high,
      following? surrogates (0xE0 + c / 0x1000) = some (2, low, high) ∧
        low ≤ 0x80 + c / 0x40 % 0x40 ∧ 0x80 + c / 0x40 % 0x40 ≤ high := by
  generalize hlead : c / 0x1000 = lead
  -- two ranges of the second byte are narrower: what two bytes encode and surrogates are left out
  have hcases : lead = 0 ∨ lead = 0xD ∨ lead ≠ 0 ∧ lead ≠ 0xD ∧ lead < 0x10 := by omega
  rcases hcases with rfl | rfl | ⟨hzero, hsurrogate, hlt⟩
  · exact ⟨0xA0, 0xBF, rfl, by omega, by omega⟩
  · refine ⟨0x80, if surrogates then 0xBF else 0x9F, rfl, by omega, ?_⟩
    cases surrogates with
    | true =>
      rw [if_pos rfl]
      omega
    | false =>
      have hbound := (isScalar_iff c).mp (hc.2 rfl)
      rw [if_neg Bool.false_ne_true]
      omega
  · refine ⟨0x80, 0xBF, ?_, by omega, by omega⟩
    have hall : ∀ k : Fin 0x10, k.val ≠ 0 → k.val ≠ 0xD →
        following? surrogates (0xE0 + k) = some (2, 0x80, 0xBF) := by
      cases surrogates <;> decide
    exact hall ⟨lead, hlt⟩ hzero hsurrogate

lemma exists_following?_four (hlow : 0x10000 ≤ c) (hhigh : c < 0x110000) : ∃ low high,
    following? surrogates (0xF0 + c / 0x40000) = some (3, low, high) ∧ low ≤ 0x80 + c / 0x1000 % 0x40 ∧
      0x80 + c / 0x1000 % 0x40 ≤ high := by
  generalize hlead : c / 0x40000 = lead
  -- here what three bytes encode and what is beyond the code space
  have hcases : lead = 0 ∨ lead = 4 ∨ lead ≠ 0 ∧ lead < 4 := by omega
  rcases hcases with rfl | rfl | ⟨hzero, hlt⟩
  · exact ⟨0x90, 0xBF, rfl, by omega, by omega⟩
  · exact ⟨0x80, 0x8F, rfl, by omega, by omega⟩
  · refine ⟨0x80, 0xBF, ?_, by omega, by omega⟩
    have hall : ∀ k : Fin 4, k.val ≠ 0 →
        following? surrogates (0xF0 + k) = some (3, 0x80, 0xBF) := by
      cases surrogates <;> decide
    exact hall ⟨lead, hlt⟩ hzero

end Leads

lemma decodeFrom_encodeCodePoint {surrogates : Bool} {c : Nat} (hc : Passes surrogates c)
    (rest : List UInt8) :
    decodeFrom surrogates 0 0 0 0 (encodeCodePoint c ++ rest) =
      c :: decodeFrom surrogates 0 0 0 0 rest := by
  have hbound := hc.1
  rcases Nat.lt_or_ge c 0x80 with hone | hone
  · rw [encodeCodePoint, if_pos hone, List.singleton_append, decodeFrom,
      toNat_ofNat (by omega : c < 256), if_neg (by simp)]
    exact if_pos hone
  rcases Nat.lt_or_ge c 0x800 with htwo | htwo
  · rw [encodeCodePoint, if_neg (Nat.not_lt.mpr hone), if_pos htwo, List.cons_append,
      List.cons_append, List.nil_append, decodeFrom_lead (by omega) (by omega)
      (following?_two hone htwo), decodeFrom_last (by omega) (by omega) (by omega), leadBits,
      if_pos rfl]
    congr 1
    omega
  rcases Nat.lt_or_ge c 0x10000 with hthree | hthree
  · obtain ⟨low, high, hlead, hsecond⟩ := exists_following?_three htwo hthree hc
    rw [encodeCodePoint, if_neg (Nat.not_lt.mpr hone), if_neg (Nat.not_lt.mpr htwo), if_pos hthree,
      List.cons_append, List.cons_append, List.cons_append, List.nil_append,
      decodeFrom_lead (by omega) (by omega) hlead,
      decodeFrom_more (by omega) hsecond.1 hsecond.2,
      decodeFrom_last (by omega) (by omega) (by omega), leadBits, if_neg (by decide), if_pos rfl]
    congr 1
    omega
  · obtain ⟨low, high, hlead, hsecond⟩ := exists_following?_four hthree (by omega)
    rw [encodeCodePoint, if_neg (Nat.not_lt.mpr hone), if_neg (Nat.not_lt.mpr htwo),
      if_neg (Nat.not_lt.mpr hthree), List.cons_append, List.cons_append, List.cons_append,
      List.cons_append, List.nil_append, decodeFrom_lead (by omega) (by omega) hlead,
      decodeFrom_more (by omega) hsecond.1 hsecond.2,
      decodeFrom_more (by omega) (by omega) (by omega),
      decodeFrom_last (by omega) (by omega) (by omega), leadBits, if_neg (by decide),
      if_neg (by decide)]
    congr 1
    omega

lemma decodeFrom_encode {surrogates : Bool} {t : Text} (ht : ∀ c ∈ t, Passes surrogates c) :
    decodeFrom surrogates 0 0 0 0 (t.flatMap encodeCodePoint) = t := by
  induction t with
  | nil => rfl
  | cons c t ih =>
    obtain ⟨hc, ht⟩ := List.forall_mem_cons.mp ht
    rw [List.flatMap_cons, decodeFrom_encodeCodePoint hc, ih ht]

lemma decodeUtf8_encode {t : Text} (ht : ∀ c ∈ t, isScalar c = true) :
    decodeUtf8 (t.flatMap encodeCodePoint) = t :=
  decodeFrom_encode fun c hc => passes_of_isScalar false (ht c hc)

lemma decodeUtf8?_encode {t : Text} (ht : ∀ c ∈ t, c < 0x110000) :
    decodeUtf8? (t.flatMap encodeCodePoint) = some t := by
  have hdecoded : decodeFrom true 0 0 0 0 (t.flatMap encodeCodePoint) = t :=
    decodeFrom_encode fun c hc => ⟨ht c hc, nofun⟩
  rw [decodeUtf8?, hdecoded]
  exact if_pos rfl

end VectorCommitment.Text
