import VectorCommitment.Proofs.Codec.Point
import VectorCommitment.Proofs.Scheme.Opening
import VectorCommitment.Proofs.Service.Records
import VectorCommitment.Proofs.Value.Display

/-! Operations that nothing but library errors stops, as long as every integer handed in can be
written in a message. -/

namespace VectorCommitment

open Outcome Value

namespace Codec

lemma faultless_readScalar {v : Value} (hv : v.isWritable = true)
    (hshort : ∀ t digits, v = .text t → Text.readInt t ≠ .error (.tooLong digits)) :
    Faultless (readScalar v) := by
  refine Faultless.bind ?_ fun i _ => faultless_ok _
  cases v with
  | int i => exact faultless_ok i
  | text t =>
    rw [readInteger]
    split
    · exact faultless_ok _
    · exact faultless_reject rfl
    · next digits hread => exact absurd hread (hshort t digits rfl)
  | _ => exact faultless_reject hv

lemma faultless_readScalars {items : List Value} (hitems : ∀ v ∈ items, v.isWritable = true)
    (hshort : ∀ before t after units digits, items = before ++ .text t :: after →
      readScalars (.list before) = .ok units → Text.readInt t ≠ .error (.tooLong digits)) :
    Faultless (readScalars (.list items)) := by
  induction items with
  | nil => exact faultless_ok []
  | cons v items ih =>
    obtain ⟨hv, hitems⟩ := List.forall_mem_cons.mp hitems
    change Faultless ((v :: items).mapM readScalar)
    rw [List.mapM_cons]
    have hfirst : Faultless (readScalar v) := by
      apply faultless_readScalar hv
      rintro t digits rfl
      exact hshort [] t items [] digits rfl rfl
    refine hfirst.bind fun unit hunit => ?_
    have hrest : Faultless (items.mapM readScalar) := by
      apply ih hitems
      rintro before t after units digits rfl hbefore
      refine hshort (v :: before) t after (unit :: units) digits rfl ?_
      change (v :: before).mapM readScalar = _
      change before.mapM readScalar = _ at hbefore
      rw [List.mapM_cons, hunit, ok_bind, hbefore]
      rfl
    exact hrest.bind fun units _ => faultless_ok _

end Codec

section Generated

variable {α capacity : ℕ} {units : List ℕ}

lemma faultless_commit (α capacity : ℕ) (units : List ℕ) :
    Faultless (commit (Setup.proverRecord α capacity) (.list (units.map .scalar))) := by
  by_cases hfits : units.length ≤ capacity
  · rw [commit_scalars hfits]
    exact faultless_ok _
  · have hlong : capacity < units.length := Nat.not_le.mp hfits
    rw [Setup.proverRecord, commit_eq_bind, messageUnits_too_long rfl (mapM_requireUnit units) hlong]
    exact (faultless_reject rfl).bind fun _ h => absurd h (reject_ne_ok _ _)

end Generated

end VectorCommitment
