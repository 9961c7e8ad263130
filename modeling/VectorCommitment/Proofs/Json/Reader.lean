import Mathlib.Algebra.Ring.Nat
import Mathlib.Data.List.Induction
import Mathlib.Data.List.TakeWhile
import VectorCommitment.Json.Encoding
import VectorCommitment.Proofs.Failure.Outcome
import VectorCommitment.Proofs.Store.Table
import VectorCommitment.Proofs.Text.Decimal
import VectorCommitment.Proofs.Text.Utf8
import VectorCommitment.Value.Display

namespace VectorCommitment

namespace Text

lemma digitsValue_lt {digits : List Nat} (hdigits : ∀ d ∈ digits, d < 10) :
    digitsValue digits < 10 ^ digits.length := by
  induction digits using List.reverseRecOn with
  | nil => exact Nat.one_pos
  | append_singleton digits d ih =>
    have hvalue := ih fun c hc => hdigits c (List.mem_append_left _ hc)
    have hd := hdigits d (List.mem_append_right _ List.mem_cons_self)
    rw [digitsValue_append, List.length_append, List.length_singleton, pow_succ]
    omega

lemma digitsValue_lt_of_length_le {digits : List Nat} (hdigits : ∀ d ∈ digits, d < 10) {limit : Nat}
    (hlength : digits.length ≤ limit) : digitsValue digits < Nat.pow 10 limit :=
  Nat.lt_of_lt_of_le (digitsValue_lt hdigits) (Nat.pow_le_pow_right (by decide) hlength)

lemma isWritable_of_readDigits {digits : List Nat} {n : Nat} (hdigits : ∀ d ∈ digits, d < 10)
    (hread : readDigits digits = .ok n) :
    isWritable n = true ∧ isWritable (-n) = true := by
  unfold readDigits at hread
  split at hread
  · cases hread
  · next hlength =>
    have hlt := digitsValue_lt_of_length_le hdigits (Nat.not_lt.mp hlength)
    rw [Except.ok.inj hread] at hlt
    rw [isWritable, isWritable, Int.natAbs_neg, Int.natAbs_natCast, decide_eq_true_eq]
    exact ⟨hlt, hlt⟩

end Text

namespace Value

lemma allWritable_iff (items : List Value) :
    allWritable items = true ↔ ∀ v ∈ items, v.isWritable = true := by
  induction items with
  | nil => simp [allWritable]
  | cons v items ih => simp [allWritable, ih]

lemma entriesWritable_iff (entries : List (Text × Value)) :
    entriesWritable entries = true ↔ ∀ entry ∈ entries, entry.2.isWritable = true := by
  induction entries with
  | nil => simp [entriesWritable]
  | cons entry entries ih => simp [entriesWritable, ih]

end Value

namespace Json

open Value

lemma lt_of_mem_spanDigits {t : Text} {d : Nat} (hd : d ∈ (spanDigits t).1) : d < 10 := by
  obtain ⟨c, hc, rfl⟩ := List.mem_map.mp hd
  have hdigit := List.mem_takeWhile_imp hc
  rw [Text.isDigit, Bool.and_eq_true, decide_eq_true_eq, decide_eq_true_eq] at hdigit
  have hle : c ≤ 0x39 := hdigit.2
  change c - 0x30 < 10
  omega

lemma lt_of_readWhole? {t rest : Text} {digits : List Nat}
    (hread : readWhole? t = some (digits, rest)) : ∀ d ∈ digits, d < 10 := by
  unfold readWhole? at hread
  split at hread
  · obtain ⟨rfl, -⟩ := Prod.mk.inj (Option.some.inj hread)
    simp
  · split at hread
    · cases hread
    · intro d hd
      have hspan : (spanDigits t).1 = digits := congrArg Prod.fst (Option.some.inj hread)
      exact lt_of_mem_spanDigits (hspan ▸ hd)

lemma isWritable_of_readNumber? {negative : Bool} {t rest : Text} {v : Value}
    (hread : readNumber? negative t = some (v, rest)) : v.isWritable = true := by
  obtain ⟨⟨whole, behind⟩, hwhole, hread⟩ := Option.bind_eq_some_iff.mp hread
  dsimp only at hread
  split at hread
  · split at hread
    · next n hn =>
      obtain ⟨hpositive, hnegative⟩ :=
        Text.isWritable_of_readDigits (lt_of_readWhole? hwhole) hn
      obtain ⟨rfl, -⟩ := Prod.mk.inj (Option.some.inj hread)
      cases negative with
      | true => exact hnegative
      | false => exact hpositive
    · cases hread
  · obtain ⟨rfl, -⟩ := Prod.mk.inj (Option.some.inj hread)
    rfl

lemma isWritable_of_readAtom? {t rest : Text} {v : Value}
    (hread : readAtom? t = some (v, rest)) : v.isWritable = true := by
  unfold readAtom? at hread
  split at hread
  · next word w hfind =>
    have hwords : ∀ word ∈ words, word.2.isWritable = true := by decide
    obtain ⟨rfl, -⟩ := Prod.mk.inj (Option.some.inj hread)
    exact hwords _ (List.mem_of_find?_eq_some hfind)
  · split at hread
    · exact isWritable_of_readNumber? hread
    · exact isWritable_of_readNumber? hread

lemma eq_some_of_orMalformed {α : Type} {x : Option α} {a : α} (h : orMalformed x = .ok a) :
    x = some a := by
  cases x with
  | none => cases h
  | some b => exact congrArg some (Except.ok.inj h)

mutual

lemma isWritable_of_readValue {budget room : Nat} {t rest : Text} {v : Value}
    (hread : readValue budget room t = .ok (v, rest)) : v.isWritable = true := by
  cases budget with
  | zero => cases hread
  | succ budget =>
    unfold readValue at hread
    split at hread
    · obtain ⟨_, -, hread⟩ := Outcome.bind_eq_ok hread
      obtain ⟨rfl, -⟩ := Prod.mk.inj (Except.ok.inj hread)
      rfl
    · split at hread
      · cases hread
      · obtain ⟨rfl, -⟩ := Prod.mk.inj (Except.ok.inj hread)
        rfl
      · obtain ⟨⟨items, _⟩, hitems, hread⟩ := Outcome.bind_eq_ok hread
        obtain ⟨rfl, -⟩ := Prod.mk.inj (Except.ok.inj hread)
        exact (allWritable_iff items).mpr (isWritable_of_readItems hitems)
    · split at hread
      · cases hread
      · obtain ⟨rfl, -⟩ := Prod.mk.inj (Except.ok.inj hread)
        rfl
      · obtain ⟨⟨entries, _⟩, hentries, hread⟩ := Outcome.bind_eq_ok hread
        obtain ⟨rfl, -⟩ := Prod.mk.inj (Except.ok.inj hread)
        exact (entriesWritable_iff entries).mpr (isWritable_of_readEntries hentries nofun)
    · exact isWritable_of_readAtom? (eq_some_of_orMalformed hread)

lemma isWritable_of_readItems {budget room : Nat} {t rest : Text} {items : List Value}
    (hread : readItems budget room t = .ok (items, rest)) : ∀ v ∈ items, v.isWritable = true := by
  cases budget with
  | zero => cases hread
  | succ budget =>
    obtain ⟨⟨v, behind⟩, hv, hread⟩ := Outcome.bind_eq_ok hread
    have hfirst := isWritable_of_readValue hv
    dsimp only at hread
    split at hread
    · obtain ⟨⟨others, _⟩, hothers, hread⟩ := Outcome.bind_eq_ok hread
      obtain ⟨rfl, -⟩ := Prod.mk.inj (Except.ok.inj hread)
      exact List.forall_mem_cons.mpr ⟨hfirst, isWritable_of_readItems hothers⟩
    · obtain ⟨rfl, -⟩ := Prod.mk.inj (Except.ok.inj hread)
      exact List.forall_mem_cons.mpr ⟨hfirst, nofun⟩
    · cases hread

lemma isWritable_of_readEntries {budget room : Nat} {before entries : List (Text × Value)}
    {t rest : Text} (hread : readEntries budget room before t = .ok (entries, rest))
    (hbefore : ∀ entry ∈ before, entry.2.isWritable = true) :
    ∀ entry ∈ entries, entry.2.isWritable = true := by
  cases budget with
  | zero => cases hread
  | succ budget =>
    obtain ⟨⟨key, behind⟩, -, hread⟩ := Outcome.bind_eq_ok hread
    obtain ⟨⟨v, behind'⟩, hv, hread⟩ := Outcome.bind_eq_ok hread
    have hset : ∀ entry ∈ setEntry key v before, entry.2.isWritable = true := by
      intro entry hentry
      rcases mem_setEntry hentry with rfl | hentry
      · exact isWritable_of_readValue hv
      · exact hbefore entry hentry
    dsimp only at hread
    split at hread
    · exact isWritable_of_readEntries hread hset
    · obtain ⟨rfl, -⟩ := Prod.mk.inj (Except.ok.inj hread)
      exact hset
    · cases hread

end

lemma readValue_replicate (room : Nat) {budget : Nat} (hbudget : 2 * room < budget) (rest : Text) :
    readValue budget room (List.replicate (room + 1) 0x5B ++ rest) = .error .tooDeep := by
  induction room generalizing budget with
  | zero =>
    obtain ⟨budget, rfl⟩ := Nat.exists_eq_add_of_lt hbudget
    rfl
  | succ room ih =>
    obtain ⟨budget, rfl⟩ : ∃ k, budget = k + 2 := ⟨budget - 2, by omega⟩
    have hinner : readItems (budget + 1) room (List.replicate (room + 1) 0x5B ++ rest) =
        .error .tooDeep := by
      rw [readItems, ih (by omega : 2 * room < budget)]
      rfl
    change (readItems (budget + 1) room (List.replicate (room + 1) 0x5B ++ rest) >>=
      fun read => .ok (Value.list read.1, read.2)) = _
    rw [hinner]
    rfl

lemma detect_replicate (n : Nat) :
    detect (List.replicate (n + 1) 0x5B) = (.utf8, List.replicate (n + 1) 0x5B) := by
  rcases n with _ | _ | _ | n <;> rfl

lemma decode?_replicate (n : Nat) :
    decode? (List.replicate (n + 1) 0x5B) = some (List.replicate (n + 1) 0x5B) := by
  have hencoded : (List.replicate (n + 1) 0x5B).flatMap Text.encodeCodePoint =
      List.replicate (n + 1) 0x5B := by
    rw [List.flatMap_replicate]
    exact List.flatten_replicate_singleton
  have hcode : ∀ c ∈ List.replicate (n + 1) 0x5B, c < 0x110000 := by
    intro c hc
    rw [List.eq_of_mem_replicate hc]
    decide
  rw [decode?, detect_replicate]
  dsimp only
  have hdecoded := Text.decodeUtf8?_encode hcode
  rwa [hencoded] at hdecoded

lemma readBytes_replicate (room : Nat) :
    readBytes room (List.replicate (room + 1) 0x5B) = .error .tooDeep := by
  have hvalue : readValue (2 * (room + 1) + 2) room (List.replicate (room + 1) 0x5B) =
      .error .tooDeep := by
    have hread := readValue_replicate room (by omega : 2 * room < 2 * (room + 1) + 2) []
    rwa [List.append_nil] at hread
  have hblanks : skipBlanks (List.replicate (room + 1) 0x5B) = List.replicate (room + 1) 0x5B := rfl
  rw [readBytes, decode?_replicate, orMalformed, Outcome.ok_bind, read, List.length_replicate,
    hblanks, hvalue]
  rfl

end Json

end VectorCommitment
