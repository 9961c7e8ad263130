import VectorCommitment.Proofs.Service.Transition
import VectorCommitment.Proofs.Value.Decidable

namespace VectorCommitment.Service

open Http Point Value

lemma le_of_isAbove {settings : Settings} {capacity limit : ℤ}
    (hallowed : settings.isAbove capacity = .ok false) (hlimit : settings.maxCapacity = .int limit) :
    capacity ≤ limit := by
  rw [Settings.isAbove, hlimit] at hallowed
  have hle := of_decide_eq_false (Except.ok.inj hallowed)
  omega

section Run

variable {e : PairingMap} {settings : Settings} {events : List Event}

end Run

noncomputable def setupTable : Table :=
  ⟨.file, [proverRow 2 1, verifierRowWith
    (generatorTarget.power (((2 : ℕ) : ZMod groupOrder) ^ (1 + 1))) 2 1]⟩

lemma route_post_setup : route (post "/vc/setup" "") = .found .setup (.perform true) := by
  decide +kernel

lemma route_setup (body : Text) : route (post "/vc/setup" body) = .found .setup (.perform true) :=
  route_post_setup

end VectorCommitment.Service
