import VectorCommitment.Proofs.Text.Decimal
import VectorCommitment.Text.Hex
import VectorCommitment.Text.Quoted
import VectorCommitment.Text.Utf8

namespace VectorCommitment

namespace Text

def IsEncodable (t : Text) : Prop := ∀ c ∈ t, isSurrogate c = false

instance (t : Text) : Decidable t.IsEncodable :=
  inferInstanceAs (Decidable (∀ c ∈ t, isSurrogate c = false))

lemma isSurrogate_of_lt {c : CodePoint} (hc : c < 0xD800) : isSurrogate c = false := by
  rw [isSurrogate, Bool.and_eq_false_iff]
  exact Or.inl (decide_eq_false (Nat.not_le.mpr hc))

lemma isEncodable_of_lt {t : Text} (ht : ∀ c ∈ t, c < 0xD800) : t.IsEncodable :=
  fun c hc => isSurrogate_of_lt (ht c hc)

namespace IsEncodable

variable {s t : Text}

lemma append (hs : s.IsEncodable) (ht : t.IsEncodable) : (s ++ t).IsEncodable :=
  List.forall_mem_append.mpr ⟨hs, ht⟩

lemma cons {c : CodePoint} (hc : c < 0xD800) (ht : t.IsEncodable) : IsEncodable (c :: t) :=
  List.forall_mem_cons.mpr ⟨isSurrogate_of_lt hc, ht⟩

lemma subset (ht : t.IsEncodable) (hst : s ⊆ t) : s.IsEncodable := fun c hc => ht c (hst hc)

lemma replicate {c : CodePoint} (hc : c < 0xD800) (n : Nat) : IsEncodable (List.replicate n c) := by
  intro d hd
  rw [List.eq_of_mem_replicate hd]
  exact isSurrogate_of_lt hc

end IsEncodable

lemma isEncodable_ofNat (n : Nat) : (ofNat n).IsEncodable :=
  isEncodable_of_lt fun _ hc => Nat.lt_trans (lt_of_mem_ofNat hc) (by decide)

lemma isEncodable_ofInt (i : Int) : (ofInt i).IsEncodable := by
  cases i with
  | ofNat n => exact isEncodable_ofNat n
  | negSucc n => exact .cons (by decide) (isEncodable_ofNat (n + 1))

lemma isEncodable_joinWith {separator : Text} (hseparator : separator.IsEncodable)
    {parts : List Text} (hparts : ∀ part ∈ parts, part.IsEncodable) :
    (joinWith separator parts).IsEncodable := by
  induction parts with
  | nil => exact nofun
  | cons part parts ih =>
    obtain ⟨hpart, hrest⟩ := List.forall_mem_cons.mp hparts
    cases parts with
    | nil => exact hpart
    | cons next parts => exact (hpart.append hseparator).append (ih hrest)

lemma isEncodable_hexDigits (width n : Nat) : (hexDigits width n).IsEncodable := by
  induction width generalizing n with
  | zero => exact nofun
  | succ width ih =>
    have hdigits : ∀ k : Fin 16, hexDigit k < 0xD800 := by decide
    have hdigit := hdigits ⟨n % 16, Nat.mod_lt n (by decide)⟩
    exact (ih (n / 16)).append (.cons hdigit nofun)

lemma isSurrogate_of_isPrintable {c : CodePoint} (hc : isPrintable c = true) :
    isSurrogate c = false := by
  cases hsurrogate : isSurrogate c with
  | false => rfl
  | true =>
    rw [isSurrogate, Bool.and_eq_true, decide_eq_true_eq, decide_eq_true_eq] at hsurrogate
    obtain ⟨hlow, hhigh⟩ := hsurrogate
    have hrun : (0xD7FC, 0xF8FF) ∈ unprintableRuns := by decide
    have hinside : (decide (0xD7FC ≤ c) && decide (c ≤ 0xF8FF)) = true := by
      rw [Bool.and_eq_true, decide_eq_true_eq, decide_eq_true_eq]
      exact ⟨Nat.le_trans (by decide) hlow, Nat.le_trans (Nat.le_of_lt hhigh) (by decide)⟩
    have hany : unprintableRuns.any (fun run => run.1 ≤ c && c ≤ run.2) = true :=
      List.any_eq_true.mpr ⟨_, hrun, hinside⟩
    have hbehind : ¬c < 0x7F := Nat.not_lt.mpr (Nat.le_trans (by decide) hlow)
    rw [isPrintable, if_neg hbehind, hany] at hc
    exact Bool.noConfusion hc

lemma quoteFor_lt (t : Text) : quoteFor t < 0xD800 := by
  unfold quoteFor
  split <;> decide

lemma isEncodable_sharedEscape? {quote c : CodePoint} (hquote : quote < 0xD800) {t : Text}
    (ht : sharedEscape? quote c = some t) : t.IsEncodable := by
  unfold sharedEscape? at ht
  split at ht
  · next hc =>
    have hlt : c < 0xD800 := by
      rw [Bool.or_eq_true, decide_eq_true_eq, decide_eq_true_eq] at hc
      rcases hc with rfl | rfl
      · exact hquote
      · decide
    obtain rfl := Option.some.inj ht
    exact .cons (by decide) (.cons hlt nofun)
  · split at ht
    · obtain rfl := Option.some.inj ht
      decide
    · split at ht
      · obtain rfl := Option.some.inj ht
        decide
      · split at ht
        · obtain rfl := Option.some.inj ht
          decide
        · cases ht

lemma isEncodable_escape {quote : CodePoint} (hquote : quote < 0xD800) (c : CodePoint) :
    (escape quote c).IsEncodable := by
  unfold escape
  split
  · next t ht => exact isEncodable_sharedEscape? hquote ht
  · split
    · next hprintable =>
      exact List.forall_mem_singleton.mpr (isSurrogate_of_isPrintable hprintable)
    · split
      · exact IsEncodable.append (by decide) (isEncodable_hexDigits 2 c)
      · split
        · exact IsEncodable.append (by decide) (isEncodable_hexDigits 4 c)
        · exact IsEncodable.append (by decide) (isEncodable_hexDigits 8 c)

lemma isEncodable_quoted (t : Text) : (quoted t).IsEncodable := by
  have hquote := quoteFor_lt t
  have hescaped : IsEncodable (t.flatMap (escape (quoteFor t))) := by
    intro c hc
    obtain ⟨d, -, hd⟩ := List.mem_flatMap.mp hc
    exact isEncodable_escape hquote d c hd
  exact (IsEncodable.cons hquote hescaped).append (.cons hquote nofun)

lemma isEncodable_bytesBetween {quote escaped : CodePoint} (hquote : quote < 0xD800)
    (hescaped : escaped < 0xD800) (bytes : List UInt8) :
    (bytesBetween quote escaped bytes).IsEncodable := by
  have hbytes : IsEncodable (bytes.flatMap (escapeByte escaped)) := by
    intro c hc
    obtain ⟨b, -, hb⟩ := List.mem_flatMap.mp hc
    have hlt : b.toNat < 256 := b.toNat_lt
    unfold escapeByte at hb
    split at hb
    · next t ht => exact isEncodable_sharedEscape? hescaped ht c hb
    · split at hb
      · rw [List.mem_singleton.mp hb]
        exact isSurrogate_of_lt (Nat.lt_trans hlt (by decide))
      · exact IsEncodable.append (by decide) (isEncodable_hexDigits 2 b.toNat) c hb
  exact (IsEncodable.cons (by decide) (.cons hquote hbytes)).append (.cons hquote nofun)

lemma isEncodable_quotedBytes (bytes : List UInt8) : (quotedBytes bytes).IsEncodable :=
  isEncodable_bytesBetween (quoteFor_lt _) (quoteFor_lt _) bytes

lemma isEncodable_quotedByteArray (bytes : List UInt8) : (quotedByteArray bytes).IsEncodable :=
  isEncodable_bytesBetween (quoteFor_lt _) (by decide) bytes

lemma isEncodable_ofAddress (n : Nat) : (ofAddress n).IsEncodable :=
  IsEncodable.append (by decide) (isEncodable_hexDigits _ n)

end Text

end VectorCommitment
