import Mathlib.Data.List.Induction
import Mathlib.Data.Nat.Digits.Defs
import VectorCommitment.Text.Decimal

namespace VectorCommitment.Text

structure IsNumeral (n : Nat) (digits : List Nat) : Prop where
  lt : ∀ d ∈ digits, d < 10
  ne_nil : digits ≠ []
  value : digitsValue digits = n
  length_le : ∀ k, 1 ≤ k → n < Nat.pow 10 k → digits.length ≤ k

lemma IsNumeral.digit {n : Nat} (h : n < 10) : IsNumeral n [n] where
  lt d hd := by
    rw [List.mem_singleton.mp hd]
    exact h
  ne_nil := nofun
  value := by simp [digitsValue]
  length_le k hk _ := hk

lemma digitsValue_append (digits : List Nat) (d : Nat) :
    digitsValue (digits ++ [d]) = 10 * digitsValue digits + d := by
  simp [digitsValue]

lemma IsNumeral.append {n : Nat} {digits : List Nat} (h : IsNumeral (n / 10) digits)
    (hn : 10 ≤ n) : IsNumeral n (digits ++ [n % 10]) where
  lt d hd := by
    rcases List.mem_append.mp hd with hd | hd
    · exact h.lt d hd
    · rw [List.mem_singleton.mp hd]
      omega
  ne_nil := by simp
  value := by
    rw [digitsValue_append, h.value]
    omega
  length_le k hk hlt := by
    cases k with
    | zero => omega
    | succ k =>
      have hstep : Nat.pow 10 (k + 1) = Nat.pow 10 k * 10 := rfl
      have hbound : n / 10 < Nat.pow 10 k := by omega
      have hpos : 1 ≤ k := by
        rcases Nat.eq_zero_or_pos k with rfl | hk
        · exact absurd hlt (Nat.not_lt.mpr hn)
        · exact hk
      have hlength := h.length_le k hpos hbound
      rw [List.length_append, List.length_singleton]
      omega

lemma exists_digitsOnto (budget n : Nat) (rest : Text) (hbudget : n < budget) :
    ∃ digits, digitsOnto budget n rest = digits.map (0x30 + ·) ++ rest ∧ IsNumeral n digits := by
  induction budget generalizing n rest with
  | zero => omega
  | succ budget ih =>
    rw [digitsOnto]
    by_cases hn : n < 10
    · rw [if_pos hn]
      exact ⟨[n], rfl, .digit hn⟩
    · rw [if_neg hn]
      obtain ⟨digits, hdigits, hnumeral⟩ := ih (n / 10) ((0x30 + n % 10) :: rest) (by omega)
      refine ⟨digits ++ [n % 10], ?_, hnumeral.append (by omega)⟩
      rw [hdigits]
      simp

lemma exists_ofNat (n : Nat) : ∃ digits, ofNat n = digits.map (0x30 + ·) ∧ IsNumeral n digits := by
  obtain ⟨digits, hdigits, hnumeral⟩ := exists_digitsOnto (n + 1) n [] (Nat.lt_succ_self n)
  rw [List.append_nil] at hdigits
  exact ⟨digits, hdigits, hnumeral⟩

lemma lt_of_mem_ofNat {n c : Nat} (hc : c ∈ ofNat n) : c < 0x80 := by
  obtain ⟨digits, hdigits, hnumeral⟩ := exists_ofNat n
  obtain ⟨d, hd, rfl⟩ := List.mem_map.mp (hdigits ▸ hc)
  have := hnumeral.lt d hd
  omega

inductive Denotes : Text → Int → Prop
  | plain {digits : List Nat} (hne : digits ≠ []) (hlt : ∀ d ∈ digits, d < 10) :
      Denotes (digits.map (0x30 + ·)) (Nat.ofDigits 10 digits.reverse : Nat)
  | negative {digits : List Nat} (hne : digits ≠ []) (hlt : ∀ d ∈ digits, d < 10) :
      Denotes (0x2D :: digits.map (0x30 + ·)) (-(Nat.ofDigits 10 digits.reverse : Nat))

lemma digitsValue_eq_ofDigits (digits : List Nat) :
    digitsValue digits = Nat.ofDigits 10 digits.reverse := by
  induction digits using List.reverseRecOn with
  | nil => rfl
  | append_singleton digits d ih =>
    rw [digitsValue_append, ih, List.reverse_append, List.reverse_singleton, List.singleton_append,
      Nat.ofDigits_cons]
    exact Nat.add_comm _ _

lemma denotes_ofNat (n : Nat) : Denotes (ofNat n) n := by
  obtain ⟨digits, hdigits, hnumeral⟩ := exists_ofNat n
  rw [hdigits, ← hnumeral.value, digitsValue_eq_ofDigits]
  exact .plain hnumeral.ne_nil hnumeral.lt

lemma asciiDigits?_map {digits : List Nat} (hne : digits ≠ []) (hlt : ∀ d ∈ digits, d < 10) :
    asciiDigits? (digits.map (0x30 + ·)) = some digits := by
  have hdigits : (digits.map (0x30 + ·)).all isDigit = true := by
    rw [List.all_map, List.all_eq_true]
    intro d hd
    have hlt := hlt d hd
    have hbounds : (0x30 : Nat) ≤ 0x30 + d ∧ 0x30 + d ≤ (0x39 : Nat) := by omega
    change isDigit (0x30 + d) = true
    rw [isDigit, Bool.and_eq_true, decide_eq_true_eq, decide_eq_true_eq]
    exact hbounds
  rw [asciiDigits?, hdigits, if_pos (by simp [hne]), List.map_map]
  simp [Function.comp_def]

lemma of_asciiDigits? {t : Text} {digits : List Nat} (hread : asciiDigits? t = some digits) :
    digits ≠ [] ∧ (∀ d ∈ digits, d < 10) ∧ t = digits.map (0x30 + ·) := by
  unfold asciiDigits? at hread
  split at hread
  · next hform =>
    obtain ⟨hne, hall⟩ := Bool.and_eq_true _ _ ▸ hform
    obtain rfl := Option.some.inj hread
    have hbounds : ∀ c ∈ t, (0x30 : Nat) ≤ c ∧ c ≤ (0x39 : Nat) := by
      intro c hc
      have hdigit := List.all_eq_true.mp hall c hc
      rwa [isDigit, Bool.and_eq_true, decide_eq_true_eq, decide_eq_true_eq] at hdigit
    refine ⟨by simpa using hne, fun d hd => ?_, ?_⟩
    · obtain ⟨c, hc, rfl⟩ := List.mem_map.mp hd
      obtain ⟨hlow, hhigh⟩ := hbounds c hc
      exact Nat.sub_lt_left_of_lt_add hlow (Nat.lt_succ_of_le hhigh)
    · rw [List.map_map]
      refine (List.map_id t).symm.trans (List.map_congr_left fun c hc => ?_)
      exact (Nat.add_sub_cancel' (hbounds c hc).1).symm
  · cases hread

lemma readDigits_eq_ok {digits : List Nat} (hlength : digits.length ≤ digitLimit) :
    readDigits digits = .ok (Nat.ofDigits 10 digits.reverse) := by
  rw [readDigits, if_neg (Nat.not_lt.mpr hlength), digitsValue_eq_ofDigits]

lemma readInt_of_denotes {t : Text} {i : Int} (h : Denotes t i) (hlength : t.length ≤ digitLimit) :
    readInt t = .ok i := by
  cases h with
  | @plain digits hne hlt =>
    rw [List.length_map] at hlength
    unfold readInt
    split
    -- None of the digits is a minus sign.
    · next rest hrest =>
      have hmem : 0x2D ∈ digits.map (0x30 + ·) := hrest ▸ List.mem_cons_self
      obtain ⟨d, -, hd⟩ := List.mem_map.mp hmem
      have hle : 0x30 + d = 0x2D := hd
      omega
    · rw [asciiDigits?_map hne hlt]
      simp only [readDigits_eq_ok hlength]
      rfl
  | @negative digits hne hlt =>
    rw [List.length_cons, List.length_map] at hlength
    rw [readInt, asciiDigits?_map hne hlt]
    simp only [readDigits_eq_ok (Nat.le_of_succ_le hlength)]
    rfl

lemma Denotes.unique {t : Text} {i j : Int} (hi : Denotes t i) (hj : Denotes t j)
    (hlength : t.length ≤ digitLimit) : i = j :=
  Except.ok.inj ((readInt_of_denotes hi hlength).symm.trans (readInt_of_denotes hj hlength))

lemma readInt_cases {t : Text} (hlength : t.length ≤ digitLimit) :
    (∃ i, readInt t = .ok i ∧ Denotes t i) ∨ readInt t = .error .form := by
  unfold readInt
  split
  · split
    · next digits hdigits =>
      obtain ⟨hne, hlt, rfl⟩ := of_asciiDigits? hdigits
      rw [List.length_cons, List.length_map] at hlength
      simp only [readDigits_eq_ok (Nat.le_of_succ_le hlength)]
      exact Or.inl ⟨_, rfl, .negative hne hlt⟩
    · exact Or.inr rfl
  · split
    · next digits hdigits =>
      obtain ⟨hne, hlt, rfl⟩ := of_asciiDigits? hdigits
      rw [List.length_map] at hlength
      simp only [readDigits_eq_ok hlength]
      exact Or.inl ⟨_, rfl, .plain hne hlt⟩
    · exact Or.inr rfl

lemma readInt_ofNat {n : Nat} (hn : isWritable n = true) : readInt (ofNat n) = .ok n := by
  obtain ⟨digits, hdigits, hnumeral⟩ := exists_ofNat n
  refine readInt_of_denotes (denotes_ofNat n) ?_
  rw [hdigits, List.length_map]
  exact hnumeral.length_le digitLimit (by decide) (of_decide_eq_true hn)

end VectorCommitment.Text
