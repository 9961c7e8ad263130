import VectorCommitment.Proofs.Failure.Outcome
import VectorCommitment.Proofs.Text.Encodable
import VectorCommitment.Value.Conversion

namespace VectorCommitment

open Text

namespace Binary64

lemma isEncodable_layout {digits : Text} (hdigits : digits.IsEncodable) (point : Int) :
    (layout digits point).IsEncodable := by
  have htake : ∀ n, IsEncodable (digits.take n) := fun n => hdigits.subset (List.take_subset n digits)
  have hdrop : ∀ n, IsEncodable (digits.drop n) := fun n => hdigits.subset (List.drop_subset n digits)
  have hzeros : ∀ n, IsEncodable (List.replicate n 0x30) := IsEncodable.replicate (by decide)
  have hexponent : (exponentText (point - 1)).IsEncodable := by
    have hnat := isEncodable_ofNat (point - 1).natAbs
    unfold exponentText
    dsimp only
    split <;> split <;> first
      | exact .cons (by decide) (.cons (by decide) hnat)
      | exact .cons (by decide) hnat
  unfold layout
  dsimp only
  split
  · split
    · exact (IsEncodable.append (by decide) (hzeros _)).append hdigits
    · split
      · exact (htake _).append (.cons (by decide) (hdrop _))
      · exact (hdigits.append (hzeros _)).append (by decide)
  · refine ((htake 1).append ?_).append (.cons (by decide) hexponent)
    split
    · exact nofun
    · exact .cons (by decide) (hdrop 1)

lemma isEncodable_toText (x : Binary64) : x.toText.IsEncodable := by
  cases x with
  | undefined mark => exact (by decide : IsEncodable "nan")
  | infinite negative => cases negative <;> decide
  | finite negative mantissa exponent =>
    have hsign : IsEncodable (if negative = true then [0x2D] else []) := by
      cases negative <;> decide
    have htrimmed : ∀ t : Text, t.IsEncodable → (trimZeros t).IsEncodable := by
      intro t ht
      refine ht.subset fun c hc => ?_
      have hc := (List.dropWhile_sublist _).subset (List.mem_reverse.mp hc)
      exact List.mem_reverse.mp hc
    unfold toText
    dsimp only
    split
    · exact hsign.append (by decide)
    · exact hsign.append (isEncodable_layout (htrimmed _ (isEncodable_ofNat _)) _)

end Binary64

namespace Value

lemma isEncodable_bracketed {opening closing : String} {parts : List Text}
    (hopening : IsEncodable opening) (hclosing : IsEncodable closing)
    (hparts : ∀ part ∈ parts, part.IsEncodable) :
    (bracketed opening closing parts).IsEncodable :=
  (hopening.append (isEncodable_joinWith (by decide) hparts)).append hclosing

lemma isEncodable_parenthesized {parts : List Text} (hparts : ∀ part ∈ parts, part.IsEncodable) :
    (parenthesized parts).IsEncodable := by
  unfold parenthesized
  split
  · next part =>
    exact (IsEncodable.append (by decide) (hparts part List.mem_cons_self)).append (by decide)
  · exact isEncodable_bracketed (by decide) (by decide) hparts

mutual

lemma isEncodable_display (v : Value) : v.display.IsEncodable := by
  cases v with
  | null => exact (by decide : IsEncodable "None")
  | bool b => cases b <;> decide
  | int i => exact isEncodable_ofInt i
  | float x => exact x.isEncodable_toText
  | text t => exact isEncodable_quoted t
  | bytes bs => exact isEncodable_quotedBytes bs
  | byteArray bs =>
    exact (IsEncodable.append (by decide) (isEncodable_quotedByteArray bs)).append (by decide)
  | memoryView address bs =>
    exact (IsEncodable.append (by decide) (isEncodable_ofAddress address)).append (by decide)
  | list items =>
    exact isEncodable_bracketed (by decide) (by decide) (isEncodable_displayAll items)
  | tuple items => exact isEncodable_parenthesized (isEncodable_displayAll items)
  | dict entries =>
    exact isEncodable_bracketed (by decide) (by decide) (isEncodable_displayEntries entries)
  | scalar residue => exact isEncodable_ofNat residue
  | coordinate x => exact isEncodable_ofNat x.val
  | quadratic x =>
    exact isEncodable_parenthesized (List.forall_mem_cons.mpr ⟨isEncodable_ofNat _,
      List.forall_mem_singleton.mpr (isEncodable_ofNat _)⟩)
  | target x =>
    refine isEncodable_parenthesized fun part hpart => ?_
    obtain ⟨c, -, rfl⟩ := List.mem_map.mp hpart
    exact isEncodable_ofNat c.val
  | prover capacity g | verifier capacity g =>
    exact (((IsEncodable.append (by decide) (isEncodable_ofNat capacity)).append
      (by decide)).append (isEncodable_ofNat g.length)).append (by decide)

lemma isEncodable_displayAll (vs : List Value) : ∀ part ∈ displayAll vs, part.IsEncodable := by
  cases vs with
  | nil => exact nofun
  | cons v vs =>
    exact List.forall_mem_cons.mpr ⟨isEncodable_display v, isEncodable_displayAll vs⟩

lemma isEncodable_displayEntries (entries : List (Text × Value)) :
    ∀ part ∈ displayEntries entries, part.IsEncodable := by
  cases entries with
  | nil => exact nofun
  | cons entry entries =>
    have hcolon : IsEncodable ": " := by decide
    have hentry := ((isEncodable_quoted entry.1).append hcolon).append
      (isEncodable_display entry.2)
    exact List.forall_mem_cons.mpr ⟨hentry, isEncodable_displayEntries entries⟩

end

lemma write_eq {v : Value} (htext : ∀ t, v ≠ .text t) : v.write = v.writeDisplay := by
  cases v with
  | text t => exact absurd rfl (htext t)
  | _ => rfl

lemma exists_write {v : Value} (hv : v.isWritable = true) : ∃ t, v.write = .ok t := by
  by_cases htext : ∃ t, v = .text t
  · obtain ⟨t, rfl⟩ := htext
    exact ⟨t, rfl⟩
  · rw [write_eq (not_exists.mp htext), writeDisplay, if_pos hv]
    exact ⟨_, rfl⟩

end Value

end VectorCommitment
