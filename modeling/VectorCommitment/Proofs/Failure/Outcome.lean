import Mathlib.Tactic.Lemma
import VectorCommitment.Failure.Basic

namespace VectorCommitment.Outcome

variable {α β : Type}

lemma ok_bind {ε : Type} (a : α) (f : α → Except ε β) : (.ok a : Except ε α) >>= f = f a := rfl

lemma bind_eq_ok {ε : Type} {x : Except ε α} {f : α → Except ε β} {b : β} (h : x >>= f = .ok b) :
    ∃ a, x = .ok a ∧ f a = .ok b := by
  cases x with
  | error failure => cases h
  | ok a => exact ⟨a, rfl, h⟩

lemma toOption_eq_some {x : Outcome α} {a : α} : x.toOption = some a ↔ x = .ok a := by
  cases x with
  | error failure => exact ⟨nofun, nofun⟩
  | ok b => exact ⟨fun h => congrArg _ (Option.some.inj h), fun h => congrArg _ (Except.ok.inj h)⟩

instance [DecidableEq α] (x : Outcome α) (a : α) : Decidable (x = .ok a) :=
  decidable_of_iff _ toOption_eq_some

lemma mapM_eq_ok {f : α → Outcome β} {g : α → β} {items : List α}
    (h : ∀ item ∈ items, f item = .ok (g item)) : items.mapM f = .ok (items.map g) := by
  induction items with
  | nil => rfl
  | cons item items ih =>
    rw [List.mapM_cons, h item List.mem_cons_self,
      ih fun item hitem => h item (List.mem_cons_of_mem _ hitem)]
    rfl

lemma forall_of_mapM {f : α → Outcome β} {P : β → Prop} (hf : ∀ a b, f a = .ok b → P b)
    {items : List α} {results : List β} (h : items.mapM f = .ok results) :
    ∀ result ∈ results, P result := by
  induction items generalizing results with
  | nil =>
    obtain rfl := Except.ok.inj h
    exact nofun
  | cons item items ih =>
    rw [List.mapM_cons] at h
    obtain ⟨first, hfirst, h⟩ := bind_eq_ok h
    obtain ⟨rest, hrest, h⟩ := bind_eq_ok h
    obtain rfl := Except.ok.inj h
    intro result hresult
    rcases List.mem_cons.mp hresult with rfl | hresult
    · exact hf item _ hfirst
    · exact ih hrest result hresult

lemma reject_ne_ok (cause : Rejection) (a : α) : (reject cause : Outcome α) ≠ .ok a := nofun

lemma reject_unwritable {cause : Rejection} (hcause : cause.isWritable = false) :
    (reject cause : Outcome α) = .error (.fault .unwritable) := by
  rw [reject, hcause]
  rfl

lemma refuse_ne_ok (cause : Fault) (a : α) : (refuse cause : Outcome α) ≠ .ok a := nofun

def Faultless (x : Outcome α) : Prop := ∀ cause, x ≠ .error (.fault cause)

lemma faultless_ok (a : α) : Faultless (.ok a) := nofun

lemma faultless_reject {cause : Rejection} (hcause : cause.isWritable = true) :
    Faultless (reject cause : Outcome α) := by
  rw [reject, if_pos hcause]
  exact nofun

lemma Faultless.bind {x : Outcome α} {f : α → Outcome β} (hx : Faultless x)
    (hf : ∀ a, x = .ok a → Faultless (f a)) : Faultless (x >>= f) := by
  cases x with
  | error failure =>
    intro cause hcause
    exact hx cause (congrArg Except.error (Except.error.inj hcause))
  | ok a => exact hf a rfl

end VectorCommitment.Outcome
