import Mathlib.Data.List.TakeWhile
import VectorCommitment.Http.Message
import VectorCommitment.Proofs.Text.Hex
import VectorCommitment.Proofs.Text.Utf8

namespace VectorCommitment.Http

def cutCharacters : Text := [0x09, 0x0A, 0x0D, 0x23, 0x3F]

structure IsBarePath (target : Text) : Prop where
  single : ∃ c rest, target = 0x2F :: c :: rest ∧ c ≠ 0x2F
  plain : ∀ c ∈ target, c < 0x80 ∧ c ∉ cutCharacters

namespace IsBarePath

variable {target : Text} (h : IsBarePath target)
include h

lemma ne_cut {cut : CodePoint} (hcut : cut ∈ cutCharacters) : ∀ c ∈ target, c ≠ cut := by
  rintro c hc rfl
  exact (h.plain c hc).2 hcut

lemma takeWhile_eq {cut : CodePoint} (hcut : cut ∈ cutCharacters) :
    target.takeWhile (· ≠ cut) = target :=
  List.takeWhile_eq_self_iff.mpr fun c hc => decide_eq_true (h.ne_cut hcut c hc)

lemma splitFirst_eq {cut : CodePoint} (hcut : cut ∈ cutCharacters) :
    Text.splitFirst cut target = (target, []) := by
  have hbehind : target.dropWhile (· ≠ cut) = [] :=
    List.dropWhile_eq_nil_iff.mpr fun c hc => decide_eq_true (h.ne_cut hcut c hc)
  rw [Text.splitFirst, h.takeWhile_eq hcut, hbehind]
  rfl

lemma dropControls_eq : dropControls target = target := by
  obtain ⟨c, rest, htarget, -⟩ := h.single
  have hfront : target.dropWhile (· ≤ 0x20) = target := by
    rw [htarget]
    rfl
  rw [dropControls, hfront, List.filter_eq_self]
  intro d hd
  have htab : d ≠ 0x09 := h.ne_cut (by decide) d hd
  have hfeed : d ≠ 0x0A := h.ne_cut (by decide) d hd
  have hreturn : d ≠ 0x0D := h.ne_cut (by decide) d hd
  simp [htab, hfeed, hreturn]

lemma takeScheme_eq : takeScheme target = (none, target) := by
  obtain ⟨c, rest, rfl, -⟩ := h.single
  rfl

lemma takeAuthority_eq : takeAuthority target = ([], target) := by
  obtain ⟨c, rest, rfl, hc⟩ := h.single
  unfold takeAuthority
  split
  · next hslashes => exact absurd (List.cons.inj (List.cons.inj hslashes).2).1 hc
  · rfl

lemma ofTarget_eq : Parts.ofTarget target = ⟨none, [], target, []⟩ := by
  unfold Parts.ofTarget
  rw [h.dropControls_eq, h.takeScheme_eq]
  dsimp only
  rw [h.takeAuthority_eq]
  dsimp only
  rw [h.takeWhile_eq (by decide), h.splitFirst_eq (by decide)]

lemma inner_eq : inner target = target := by
  rw [inner, h.ofTarget_eq]
  rfl

lemma bare_eq : bare target = target := by
  rw [bare, h.inner_eq, h.ofTarget_eq]

lemma normalize_eq : normalize target = target := by
  unfold normalize
  rw [h.dropControls_eq, h.takeAuthority_eq]
  rfl

lemma host_eq : host target = .ok [] := by
  rw [host, h.ofTarget_eq]
  rfl

lemma hasHostName_eq : hasHostName target = true := by
  rw [hasHostName, h.host_eq]
  rfl

lemma isSocket_eq : isSocket target = false := by
  rw [isSocket, h.ofTarget_eq]

lemma path_eq :
    path target = (Text.decodeUtf8 (pathBytes target)).dropWhile (· = 0x2F) := by
  rw [path, h.bare_eq, h.normalize_eq]

lemma checkEncodable_eq : checkEncodable target = .ok () := by
  have hany : target.any Text.isSurrogate = false := by
    rw [List.any_eq_false]
    intro c hc
    have hlow : c < 0xD800 := Nat.lt_trans (h.plain c hc).1 (by decide)
    simp [Text.isSurrogate, Nat.not_le.mpr hlow]
  rw [checkEncodable, hany]
  rfl

lemma checkTarget_eq : checkTarget target = .ok () := by
  unfold checkTarget
  rw [h.inner_eq, h.bare_eq, h.ofTarget_eq, h.host_eq]
  dsimp only
  rw [h.checkEncodable_eq]
  rfl

lemma send_eq (method : Text) :
    Draft.send ⟨method, target, none, []⟩ = .ok ⟨method, target, none, []⟩ := by
  rw [Draft.send, h.checkTarget_eq, h.inner_eq, h.checkEncodable_eq]
  rfl

end IsBarePath

def isUnreserved (c : CodePoint) : Bool :=
  Text.isDigit c || isLetter c || (Text.ofString "_.-~").contains c

def percentEncode (t : Text) : Text :=
  t.flatMap fun c =>
    if isUnreserved c then [c] else (Text.encodeCodePoint c).flatMap byteEscape

lemma plain_of_isUnreserved {c : CodePoint} (hc : isUnreserved c = true) :
    c < 0x80 ∧ c ≠ 0x25 ∧ c ∉ cutCharacters := by
  have hlt : c < 0x80 := by
    simp only [isUnreserved, isLetter, Text.isDigit, Bool.or_eq_true, Bool.and_eq_true,
      decide_eq_true_eq, List.contains_iff_mem] at hc
    rcases hc with (⟨-, hle⟩ | ⟨-, hle⟩ | ⟨-, hle⟩) | hmark
    · exact Nat.lt_of_le_of_lt hle (by decide)
    · exact Nat.lt_of_le_of_lt hle (by decide)
    · exact Nat.lt_of_le_of_lt hle (by decide)
    · have hmarks : ∀ mark ∈ Text.ofString "_.-~", mark < 0x80 := by decide
      exact hmarks c hmark
  -- below this bound there are few enough characters to go through
  have hall : ∀ k : Fin 0x80, isUnreserved k = true → k.val ≠ 0x25 ∧ k.val ∉ cutCharacters := by
    decide
  exact ⟨hlt, hall ⟨c, hlt⟩ hc⟩

def upperDigit (n : Nat) : CodePoint := (Text.upperForm (Text.hexDigit n)).headD 0

lemma upperForm_hexDigit {n : Nat} (hn : n < 16) :
    Text.upperForm (Text.hexDigit n) = [upperDigit n] ∧ Text.hexValue? (upperDigit n) = some n ∧
      upperDigit n < 0x80 ∧ upperDigit n ∉ cutCharacters := by
  have hall : ∀ k : Fin 16, Text.upperForm (Text.hexDigit k) = [upperDigit k] ∧
      Text.hexValue? (upperDigit k) = some k.val ∧ upperDigit k < 0x80 ∧
      upperDigit k ∉ cutCharacters := by
    decide
  exact hall ⟨n, hn⟩

lemma byteEscape_eq (b : UInt8) :
    byteEscape b = [0x25, upperDigit (b.toNat / 16 % 16), upperDigit (b.toNat % 16)] := by
  obtain ⟨hhigh, -⟩ := upperForm_hexDigit (Nat.mod_lt (b.toNat / 16) (by decide : 0 < 16))
  obtain ⟨hlow, -⟩ := upperForm_hexDigit (Nat.mod_lt b.toNat (by decide : 0 < 16))
  change 0x25 :: (Text.upperForm (Text.hexDigit (b.toNat / 16 % 16)) ++
    (Text.upperForm (Text.hexDigit (b.toNat % 16)) ++ [])) = _
  rw [hhigh, hlow]
  rfl

lemma pathBytes_byteEscape (b : UInt8) (rest : Text) :
    pathBytes (byteEscape b ++ rest) = b :: pathBytes rest := by
  obtain ⟨-, hhigh, -⟩ := upperForm_hexDigit (Nat.mod_lt (b.toNat / 16) (by decide : 0 < 16))
  obtain ⟨-, hlow, -⟩ := upperForm_hexDigit (Nat.mod_lt b.toNat (by decide : 0 < 16))
  have hlt : b.toNat < 256 := b.toNat_lt
  have hbyte : 16 * (b.toNat / 16 % 16) + b.toNat % 16 = b.toNat := by omega
  rw [byteEscape_eq, List.cons_append, List.cons_append, List.cons_append, List.nil_append,
    pathBytes, hhigh, hlow]
  dsimp only
  rw [hbyte, UInt8.ofNat_toNat]

lemma pathBytes_escapes (bytes : List UInt8) (rest : Text) :
    pathBytes (bytes.flatMap byteEscape ++ rest) = bytes ++ pathBytes rest := by
  induction bytes with
  | nil => rfl
  | cons b bytes ih =>
    rw [List.flatMap_cons, List.append_assoc, pathBytes_byteEscape, ih, List.cons_append]

lemma pathBytes_cons {c : CodePoint} (hc : c ≠ 0x25) (rest : Text) :
    pathBytes (c :: rest) = Text.encodeCodePoint c ++ pathBytes rest := by
  rw [pathBytes]
  rintro a b rest' rfl
  exact absurd rfl hc

lemma pathBytes_append {start : Text} (hstart : ∀ c ∈ start, c ≠ 0x25) (rest : Text) :
    pathBytes (start ++ rest) = start.flatMap Text.encodeCodePoint ++ pathBytes rest := by
  induction start with
  | nil => rfl
  | cons c start ih =>
    obtain ⟨hc, hstart⟩ := List.forall_mem_cons.mp hstart
    rw [List.cons_append, pathBytes_cons hc, ih hstart, List.flatMap_cons, List.append_assoc]

lemma pathBytes_percentEncode (t : Text) :
    pathBytes (percentEncode t) = t.flatMap Text.encodeCodePoint := by
  induction t with
  | nil => rfl
  | cons c t ih =>
    rw [percentEncode, List.flatMap_cons, List.flatMap_cons, ← percentEncode, ← ih]
    split
    · next hc => exact pathBytes_cons (plain_of_isUnreserved hc).2.1 _
    · exact pathBytes_escapes _ _

lemma plain_percentEncode (t : Text) : ∀ c ∈ percentEncode t, c < 0x80 ∧ c ∉ cutCharacters := by
  intro c hc
  obtain ⟨d, -, hd⟩ := List.mem_flatMap.mp hc
  split at hd
  · next hunreserved =>
    obtain rfl := List.mem_singleton.mp hd
    obtain ⟨hlt, -, hcut⟩ := plain_of_isUnreserved hunreserved
    exact ⟨hlt, hcut⟩
  · obtain ⟨b, -, hb⟩ := List.mem_flatMap.mp hd
    obtain ⟨-, -, hhigh⟩ := upperForm_hexDigit (Nat.mod_lt (b.toNat / 16) (by decide : 0 < 16))
    obtain ⟨-, -, hlow⟩ := upperForm_hexDigit (Nat.mod_lt b.toNat (by decide : 0 < 16))
    rw [byteEscape_eq, List.mem_cons, List.mem_cons, List.mem_singleton] at hb
    rcases hb with rfl | rfl | rfl
    · decide
    · exact hhigh
    · exact hlow

end VectorCommitment.Http
