import Mathlib.Algebra.Ring.Nat
import Mathlib.Data.List.Induction
import VectorCommitment.Text.Hex

namespace VectorCommitment

lemma ofBigEndian_append (bytes : List UInt8) (b : UInt8) :
    ofBigEndian (bytes ++ [b]) = 256 * ofBigEndian bytes + b.toNat := by
  simp [ofBigEndian]

lemma ofBigEndian_bigEndian (width n : Nat) : ofBigEndian (bigEndian width n) = n % 256 ^ width := by
  induction width generalizing n with
  | zero => rw [Nat.pow_zero, Nat.mod_one]; rfl
  | succ width ih =>
    have hbyte : (UInt8.ofNat n).toNat = n % 256 := UInt8.toNat_ofNat'
    rw [bigEndian, ofBigEndian_append, ih, hbyte, Nat.pow_succ', Nat.mod_mul, Nat.add_comm]

lemma bigEndian_ofBigEndian (bytes : List UInt8) :
    bigEndian bytes.length (ofBigEndian bytes) = bytes := by
  induction bytes using List.reverseRecOn with
  | nil => rfl
  | append_singleton bytes b ih =>
    have hlt : b.toNat < 256 := b.toNat_lt
    have hdiv : (256 * ofBigEndian bytes + b.toNat) / 256 = ofBigEndian bytes := by omega
    have hbyte : UInt8.ofNat (256 * ofBigEndian bytes + b.toNat) = b := by
      apply UInt8.toNat_inj.mp
      rw [UInt8.toNat_ofNat']
      omega
    rw [List.length_append, List.length_singleton, bigEndian, ofBigEndian_append, hdiv, ih, hbyte]

namespace Text

lemma hexValue?_hexDigit {n : Nat} (hn : n < 16) :
    isAsciiBlank (hexDigit n) = false ∧ hexValue? (hexDigit n) = some n := by
  have hall : ∀ k : Fin 16, isAsciiBlank (hexDigit k) = false ∧
      hexValue? (hexDigit k) = some k.val := by
    decide
  exact hall ⟨n, hn⟩

lemma ofBytes_cons (b : UInt8) (bytes : List UInt8) :
    ofBytes (b :: bytes) =
      hexDigit (b.toNat / 16 % 16) :: hexDigit (b.toNat % 16) :: ofBytes bytes := rfl

lemma readHex?_ofBytes (bytes : List UInt8) : readHex? (ofBytes bytes) = some bytes := by
  induction bytes with
  | nil => rfl
  | cons b bytes ih =>
    have hlt : b.toNat < 256 := b.toNat_lt
    obtain ⟨hblank, hhigh⟩ := hexValue?_hexDigit (Nat.mod_lt (b.toNat / 16) (by decide : 0 < 16))
    obtain ⟨-, hlow⟩ := hexValue?_hexDigit (Nat.mod_lt b.toNat (by decide : 0 < 16))
    have hbyte : 16 * (b.toNat / 16 % 16) + b.toNat % 16 = b.toNat := by omega
    rw [ofBytes_cons, readHex?, hblank, hhigh, hlow, ih]
    change some (UInt8.ofNat (16 * (b.toNat / 16 % 16) + b.toNat % 16) :: bytes) = _
    rw [hbyte, UInt8.ofNat_toNat]

def isHexDigit (c : CodePoint) : Bool :=
  isDigit c || (0x61 ≤ c && c ≤ 0x66) || (0x41 ≤ c && c ≤ 0x46)

inductive IsHexPairs : Nat → Text → Prop
  | nil : IsHexPairs 0 []
  | blank {n : Nat} {c : CodePoint} {t : Text} (hc : isAsciiBlank c = true) (ht : IsHexPairs n t) :
      IsHexPairs n (c :: t)
  | pair {n : Nat} {c d : CodePoint} {t : Text} (hc : isHexDigit c = true) (hd : isHexDigit d = true)
      (ht : IsHexPairs n t) : IsHexPairs (n + 1) (c :: d :: t)

def withoutBlanks (t : Text) : Text := t.filter fun c => !isAsciiBlank c

lemma lowerCase_append (s t : Text) : lowerCase (s ++ t) = lowerCase s ++ lowerCase t :=
  List.map_append

lemma exists_hexValue? {c : CodePoint} (hc : isHexDigit c = true) :
    isAsciiBlank c = false ∧ ∃ n, n < 16 ∧ hexValue? c = some n ∧ lowerCase [c] = [hexDigit n] := by
  -- Below this bound there are few enough characters to go through.
  have hlt : c < 0x67 := by
    simp only [isHexDigit, isDigit, Bool.or_eq_true, Bool.and_eq_true, decide_eq_true_eq] at hc
    rcases hc with (⟨-, hle⟩ | ⟨-, hle⟩) | ⟨-, hle⟩ <;> exact Nat.lt_of_le_of_lt hle (by decide)
  have hall : ∀ k : Fin 0x67, isHexDigit k = true → isAsciiBlank k = false ∧
      ∃ n : Fin 16, hexValue? k = some n.val ∧ lowerCase [k.val] = [hexDigit n] := by
    decide
  obtain ⟨hblank, n, hvalue, hlower⟩ := hall ⟨c, hlt⟩ hc
  exact ⟨hblank, n, n.isLt, hvalue, hlower⟩

lemma isHexDigit_of_hexValue? {c : CodePoint} {n : Nat} (hvalue : hexValue? c = some n) :
    isHexDigit c = true := by
  simp only [isHexDigit, Bool.or_eq_true]
  unfold hexValue? at hvalue
  split at hvalue
  · next hdigit => exact Or.inl (Or.inl hdigit)
  · split at hvalue
    · next hlower => exact Or.inl (Or.inr hlower)
    · split at hvalue
      · next hupper => exact Or.inr hupper
      · cases hvalue

lemma ofBytes_pair {high low : Nat} (hhigh : high < 16) (hlow : low < 16) (bytes : List UInt8) :
    ofBytes (UInt8.ofNat (16 * high + low) :: bytes) =
      hexDigit high :: hexDigit low :: ofBytes bytes := by
  have hbyte : (UInt8.ofNat (16 * high + low)).toNat = 16 * high + low := by
    rw [UInt8.toNat_ofNat']
    omega
  have hfirst : (16 * high + low) / 16 % 16 = high := by omega
  have hsecond : (16 * high + low) % 16 = low := by omega
  rw [ofBytes_cons, hbyte, hfirst, hsecond]

lemma readHex?_blank {c : CodePoint} (hblank : isAsciiBlank c = true) (t : Text) :
    readHex? (c :: t) = readHex? t := by
  rw [readHex?.eq_def]
  exact if_pos hblank

lemma readHex?_cons_cons {c d : CodePoint} {high low : Nat} (hblank : isAsciiBlank c = false)
    (hhigh : hexValue? c = some high) (hlow : hexValue? d = some low) (t : Text) :
    readHex? (c :: d :: t) = (readHex? t).map (UInt8.ofNat (16 * high + low) :: ·) := by
  rw [readHex?, hblank, hhigh, hlow]
  cases readHex? t <;> rfl

lemma exists_readHex? {n : Nat} {t : Text} (ht : IsHexPairs n t) :
    ∃ bytes, readHex? t = some bytes ∧ bytes.length = n ∧
      ofBytes bytes = lowerCase (withoutBlanks t) := by
  induction ht with
  | nil => exact ⟨[], rfl, rfl, rfl⟩
  | blank hc ht ih =>
    obtain ⟨bytes, hread, hlength, hbytes⟩ := ih
    refine ⟨bytes, ?_, hlength, ?_⟩
    · rw [readHex?_blank hc, hread]
    · rw [hbytes, withoutBlanks, withoutBlanks, List.filter_cons_of_neg (by simp [hc])]
  | @pair n c d t hc hd ht ih =>
    obtain ⟨bytes, hread, hlength, hbytes⟩ := ih
    obtain ⟨hcblank, high, hhigh, hcvalue, hclower⟩ := exists_hexValue? hc
    obtain ⟨hdblank, low, hlow, hdvalue, hdlower⟩ := exists_hexValue? hd
    refine ⟨UInt8.ofNat (16 * high + low) :: bytes, ?_, congrArg (· + 1) hlength, ?_⟩
    · rw [readHex?_cons_cons hcblank hcvalue hdvalue, hread]
      rfl
    · have hkept : withoutBlanks (c :: d :: t) = [c] ++ [d] ++ withoutBlanks t := by
        simp [withoutBlanks, hcblank, hdblank]
      rw [ofBytes_pair hhigh hlow, hbytes, hkept, lowerCase_append, lowerCase_append, hclower, hdlower]
      rfl

lemma isHexPairs_of_readHex? {t : Text} {bytes : List UInt8} (hread : readHex? t = some bytes) :
    IsHexPairs bytes.length t := by
  fun_induction readHex? t generalizing bytes with
  | case1 =>
    obtain rfl := Option.some.inj hread
    exact .nil
  | case2 c rest hblank ih => exact .blank hblank (ih hread)
  | case3 => cases hread
  | case4 c hblank d rest ih =>
    obtain ⟨high, hhigh, hread⟩ := Option.bind_eq_some_iff.mp hread
    obtain ⟨low, hlow, hread⟩ := Option.bind_eq_some_iff.mp hread
    obtain ⟨rest, hrest, hread⟩ := Option.bind_eq_some_iff.mp hread
    obtain rfl := Option.some.inj hread
    exact .pair (isHexDigit_of_hexValue? hhigh) (isHexDigit_of_hexValue? hlow) (ih hrest)

lemma ofBytes_injective : Function.Injective ofBytes := by
  intro bytes other h
  have hread := congrArg readHex? h
  rw [readHex?_ofBytes, readHex?_ofBytes] at hread
  exact Option.some.inj hread

lemma readHex?_eq_some_iff {t : Text} {bytes : List UInt8} :
    readHex? t = some bytes ↔
      IsHexPairs bytes.length t ∧ ofBytes bytes = lowerCase (withoutBlanks t) := by
  constructor
  · intro hread
    have hpairs := isHexPairs_of_readHex? hread
    obtain ⟨other, hother, -, hdigits⟩ := exists_readHex? hpairs
    obtain rfl := Option.some.inj (hother.symm.trans hread)
    exact ⟨hpairs, hdigits⟩
  · rintro ⟨hpairs, hdigits⟩
    obtain ⟨other, hother, -, hsame⟩ := exists_readHex? hpairs
    rw [hother, ofBytes_injective (hsame.trans hdigits.symm)]

end Text

end VectorCommitment
