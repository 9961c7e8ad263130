import Mathlib.Tactic.Lemma
import VectorCommitment.Text.Basic

namespace VectorCommitment.Text

lemma isHighSurrogate_of_lt {c : CodePoint} (hc : c < 0xD800) : isHighSurrogate c = false := by
  rw [isHighSurrogate, Bool.and_eq_false_iff]
  exact Or.inl (decide_eq_false (Nat.not_le.mpr hc))

lemma joinSurrogates_append_of_not_high {start : Text}
    (hstart : ∀ c ∈ start, isHighSurrogate c = false) (t : Text) :
    (start ++ t).joinSurrogates = start ++ t.joinSurrogates := by
  induction start with
  | nil => rfl
  | cons c start ih =>
    have hrest := ih fun d hd => hstart d (List.mem_cons_of_mem c hd)
    rw [List.cons_append, joinSurrogates, joinFrom, hstart c List.mem_cons_self]
    exact congrArg (c :: ·) hrest

lemma joinSurrogates_append {start : Text} (hstart : ∀ c ∈ start, c < 0xD800) (t : Text) :
    (start ++ t).joinSurrogates = start ++ t.joinSurrogates :=
  joinSurrogates_append_of_not_high (fun c hc => isHighSurrogate_of_lt (hstart c hc)) t

lemma joinSurrogates_eq_of_not_high {t : Text} (ht : ∀ c ∈ t, isHighSurrogate c = false) :
    t.joinSurrogates = t := by
  have happend := joinSurrogates_append_of_not_high ht []
  rwa [List.append_nil, show joinSurrogates [] = [] from rfl, List.append_nil] at happend

lemma joinSurrogates_eq {t : Text} (ht : ∀ c ∈ t, c < 0xD800) : t.joinSurrogates = t :=
  joinSurrogates_eq_of_not_high fun c hc => isHighSurrogate_of_lt (ht c hc)

lemma exists_le_of_joinFrom {high : CodePoint} (hhigh : isHighSurrogate high = true) (t : Text) :
    ∃ c ∈ joinFrom (some high) t, 0xD800 ≤ c := by
  have hle : 0xD800 ≤ high := of_decide_eq_true (Bool.and_eq_true _ _ ▸ hhigh).1
  cases t with
  | nil => exact ⟨high, List.mem_cons_self, hle⟩
  | cons c rest =>
    rw [joinFrom]
    split
    · refine ⟨joinPair high c, List.mem_cons_self, ?_⟩
      have hle : 0x10000 ≤ joinPair high c :=
        Nat.le_trans (Nat.le_add_right _ _) (Nat.le_add_right _ _)
      exact Nat.le_trans (by decide) hle
    · split
      · exact ⟨high, List.mem_cons_self, hle⟩
      · exact ⟨high, List.mem_cons_self, hle⟩

lemma eq_of_joinSurrogates {t : Text} (ht : ∀ c ∈ t.joinSurrogates, c < 0xD800) :
    t.joinSurrogates = t := by
  induction t with
  | nil => rfl
  | cons c rest ih =>
    rw [joinSurrogates, joinFrom] at ht ⊢
    split at ht
    · next hhigh =>
      obtain ⟨d, hd, hle⟩ := exists_le_of_joinFrom hhigh rest
      exact absurd (ht d hd) (Nat.not_lt.mpr hle)
    · next hhigh =>
      rw [if_neg hhigh]
      exact congrArg (c :: ·) (ih fun d hd => ht d (List.mem_cons_of_mem c hd))

end VectorCommitment.Text
