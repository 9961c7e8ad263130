import VectorCommitment.Proofs.Failure.Acceptance

namespace VectorCommitment.Outcome

variable {α β : Type} {kind : ErrorKind} {first? second? : Option ErrorKind}
variable {P : α → Prop} {Q : β → Prop} {x y : Outcome α}

/-- A library error of the kind that is foretold ends the run. Where none is, there is a result. -/
def Ends (failure? : Option ErrorKind) (P : α → Prop) (x : Outcome α) : Prop :=
  match failure? with
  | some kind => Rejects kind x
  | none => ∃ a, x = .ok a ∧ P a

lemma ends_ok {a : α} (ha : P a) : Ends none P (.ok a) := ⟨a, rfl, ha⟩

lemma ends_reject {cause : Rejection} (hcause : cause.isWritable = true) :
    Ends (some cause.kind) P (reject cause) :=
  rejects_reject rfl hcause

lemma Ends.bind (hx : Ends first? P x) {f : α → Outcome β} (hf : ∀ a, P a → Ends second? Q (f a)) :
    Ends (first?.or second?) Q (x >>= f) := by
  cases first? with
  | some kind => exact Rejects.bind hx f
  | none =>
    obtain ⟨a, rfl, ha⟩ := hx
    exact hf a ha

lemma ends_ite {c d : Prop} [Decidable c] [Decidable d] (hcd : c ↔ d) (hx : c → Ends first? P x)
    (hy : ¬c → Ends second? P y) :
    Ends (if d then first? else second?) P (if c then x else y) := by
  by_cases hc : c
  · rw [if_pos hc, if_pos (hcd.mp hc)]
    exact hx hc
  · rw [if_neg hc, if_neg fun hd => hc (hcd.mpr hd)]
    exact hy hc

lemma Accepts.ends {allowed : α → Prop} (hx : Accepts kind x allowed) {c : Prop} [Decidable c]
    (hc : (∃ a, allowed a) ↔ c) : Ends (if c then none else some kind) allowed x := by
  split
  · next h =>
    obtain ⟨a, ha⟩ := hc.mpr h
    exact ⟨a, (hx.ok_iff a).mpr ha, ha⟩
  · next h => exact hx.rejects fun a ha => h (hc.mp ⟨a, ha⟩)

end VectorCommitment.Outcome
