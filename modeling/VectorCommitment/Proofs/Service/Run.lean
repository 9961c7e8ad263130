import Mathlib.Tactic.Lemma
import VectorCommitment.Service.Answer

namespace VectorCommitment.Service

open Http

/-- A request, with the settings in force and the trapdoor drawn for it, or a new start. -/
inductive Event where
  | request (settings : Settings) (drawn : Nat) (request : Request)
  | restart

def post (path body : Text) : Request :=
  ⟨"POST", path, some "application/json", (Text.encodeUtf8? body).getD []⟩

variable (e : PairingMap)

def step (table : Table) : Event → Table
  | .request settings drawn request => (answer e settings drawn request table).2
  | .restart => table.reopen

def run (storage : Storage) (events : List Event) : Table :=
  events.foldl (step e) (Table.ofRecords storage [])

variable {e}

lemma run_induction {P : Table → Prop} {storage : Storage} {events : List Event}
    (hempty : P (Table.ofRecords storage []))
    (hstep : ∀ table, P table → ∀ event ∈ events, P (step e table event)) :
    P (run e storage events) :=
  List.foldlRecOn events (step e) hempty hstep

lemma of_matchPath {method path : Text} {resource : Resource} {verb : Verb}
    (hmatch : matchPath method path = .taken resource verb) :
    Resource.at? (segments path) = some resource ∧ verb? resource method = some verb := by
  unfold matchPath at hmatch
  split at hmatch
  · cases hmatch
  · next hat =>
    split at hmatch
    · next hverb =>
      obtain ⟨rfl, rfl⟩ := Match.taken.inj hmatch
      exact ⟨hat, hverb⟩
    · cases hmatch

lemma of_route {request : Request} {resource : Resource} {verb : Verb}
    (hroute : route request = .found resource verb) :
    Resource.at? (segments (path request.target)) = some resource ∧
      verb? resource request.method = some verb := by
  unfold route at hroute
  dsimp only at hroute
  split at hroute
  · cases hroute
  · split at hroute
    · unfold socketRouteOf at hroute
      split at hroute <;> cases hroute
    · unfold routeOf at hroute
      split at hroute
      · next hmatch =>
        obtain ⟨rfl, rfl⟩ := Route.found.inj hroute
        exact of_matchPath hmatch
      all_goals cases hroute

lemma withBody_of_route {request : Request} {resource : Resource} {withBody : Bool}
    (hroute : route request = .found resource (.perform withBody)) (hread : resource.isRead = false) :
    withBody = true := by
  have hverb := (of_route hroute).2
  unfold verb? at hverb
  dsimp only at hverb
  split at hverb
  · cases hverb
  · rw [hread, if_neg Bool.false_ne_true] at hverb
    split at hverb
    · obtain rfl := Verb.perform.inj (Option.some.inj hverb)
      rfl
    · cases hverb

lemma answer_found {settings : Settings} {drawn : Nat} {request : Request} {table : Table}
    {resource : Resource} {performed : Handling Value × Table}
    (hroute : route request = .found resource (.perform true))
    (hperform : perform e settings drawn request table resource = some performed) :
    answer e settings drawn request table = (respond performed.1, performed.2) := by
  rw [answer, hroute]
  dsimp only
  rw [hperform]
  rfl

end VectorCommitment.Service
