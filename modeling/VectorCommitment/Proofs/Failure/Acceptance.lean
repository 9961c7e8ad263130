import Mathlib.Data.List.Forall2
import VectorCommitment.Proofs.Failure.Outcome

namespace VectorCommitment.Outcome

variable {α β : Type} {kind : ErrorKind}

def Rejects (kind : ErrorKind) (x : Outcome α) : Prop :=
  ∃ cause : Rejection, x = .error (.rejected cause) ∧ cause.kind = kind

lemma rejects_reject {cause : Rejection} (hkind : cause.kind = kind)
    (hcause : cause.isWritable = true) : Rejects kind (reject cause : Outcome α) :=
  ⟨cause, by rw [reject, if_pos hcause], hkind⟩

lemma Rejects.bind {x : Outcome α} (hx : Rejects kind x) (f : α → Outcome β) :
    Rejects kind (x >>= f) := by
  obtain ⟨cause, rfl, hkind⟩ := hx
  exact ⟨cause, rfl, hkind⟩

/-- The results of the run are those that the description allows, and without one it is rejected. -/
structure Accepts (kind : ErrorKind) (x : Outcome α) (allowed : α → Prop) : Prop where
  ok_iff : ∀ a, x = .ok a ↔ allowed a
  rejects : (∀ a, ¬allowed a) → Rejects kind x

lemma accepts_of_unique {x : Outcome α} {a : α} (hx : x = .ok a) {allowed : α → Prop}
    (ha : allowed a) (hunique : ∀ b, allowed b → b = a) : Accepts kind x allowed where
  ok_iff b := by
    rw [hx, Except.ok.injEq]
    constructor
    · rintro rfl
      exact ha
    · intro hb
      exact (hunique b hb).symm
  rejects hnone := absurd ha (hnone a)

lemma accepts_ok (a : α) : Accepts kind (.ok a) (· = a) :=
  accepts_of_unique rfl rfl fun _ h => h

lemma accepts_of_rejects {x : Outcome α} (hx : Rejects kind x) {allowed : α → Prop}
    (hnone : ∀ a, ¬allowed a) : Accepts kind x allowed where
  ok_iff a := by
    obtain ⟨cause, rfl, -⟩ := hx
    exact ⟨nofun, fun ha => absurd ha (hnone a)⟩
  rejects _ := hx

lemma accepts_check {c : Prop} [Decidable c] (cause : Rejection) (hkind : cause.kind = kind)
    (hcause : cause.isWritable = true) (a : α) :
    Accepts kind (if c then .ok a else reject cause) fun b => c ∧ b = a where
  ok_iff b := by
    by_cases hc : c
    · rw [if_pos hc, Except.ok.injEq, eq_comm]
      exact (and_iff_right hc).symm
    · rw [if_neg hc]
      exact ⟨fun h => absurd h (reject_ne_ok _ _), fun h => absurd h.1 hc⟩
  rejects hnone := by
    rw [if_neg fun hc => hnone a ⟨hc, rfl⟩]
    exact rejects_reject hkind hcause

namespace Accepts

variable {x : Outcome α} {allowed : α → Prop}

lemma unique (hx : Accepts kind x allowed) {a b : α} (ha : allowed a) (hb : allowed b) : a = b :=
  Except.ok.inj (((hx.ok_iff a).mpr ha).symm.trans ((hx.ok_iff b).mpr hb))

lemma congr (hx : Accepts kind x allowed) {allowed' : α → Prop} (h : ∀ a, allowed a ↔ allowed' a) :
    Accepts kind x allowed' where
  ok_iff a := (hx.ok_iff a).trans (h a)
  rejects hnone := hx.rejects fun a ha => hnone a ((h a).mp ha)

lemma bind (hx : Accepts kind x allowed) {f : α → Outcome β} {allowed' : α → β → Prop}
    (hf : ∀ a, allowed a → Accepts kind (f a) (allowed' a)) :
    Accepts kind (x >>= f) fun b => ∃ a, allowed a ∧ allowed' a b := by
  by_cases h : ∃ a, allowed a
  · obtain ⟨a, ha⟩ := h
    rw [(hx.ok_iff a).mpr ha, ok_bind]
    refine (hf a ha).congr fun b => ⟨fun hb => ⟨a, ha, hb⟩, ?_⟩
    rintro ⟨a', ha', hb⟩
    rwa [hx.unique ha' ha] at hb
  · refine accepts_of_rejects ((hx.rejects (not_exists.mp h)).bind f) ?_
    rintro b ⟨a, ha, -⟩
    exact h ⟨a, ha⟩

lemma mapM {f : α → Outcome β} {allowed : α → β → Prop} {items : List α}
    (hitems : ∀ item ∈ items, Accepts kind (f item) (allowed item)) :
    Accepts kind (items.mapM f) (List.Forall₂ allowed items) := by
  induction items with
  | nil => exact (accepts_ok []).congr fun bs => List.forall₂_nil_left_iff.symm
  | cons item items ih =>
    obtain ⟨hitem, hitems⟩ := List.forall_mem_cons.mp hitems
    rw [List.mapM_cons]
    refine (hitem.bind fun b _ => (ih hitems).bind fun bs _ => accepts_ok (b :: bs)).congr ?_
    intro results
    rw [List.forall₂_cons_left_iff]
    constructor
    · rintro ⟨b, hb, bs, hbs, rfl⟩
      exact ⟨b, bs, hb, hbs, rfl⟩
    · rintro ⟨b, bs, hb, hbs, rfl⟩
      exact ⟨b, hb, bs, hbs, rfl⟩

end Accepts

end VectorCommitment.Outcome
