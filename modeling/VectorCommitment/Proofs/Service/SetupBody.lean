import VectorCommitment.Proofs.Service.Ledger

/-! What the body of a setup stands for. Malformed JSON and `null` are taken for no body at all. -/

namespace VectorCommitment.Service

open Http

section Body

variable {e : PairingMap} {settings : Settings} {drawn : ℕ} {request : Request} {room : ℕ}

section Read

variable (hjson : request.isJson = true)
include hjson

lemma readBody_ok {body : Value} (hread : Json.readBytes room request.body = .ok body) :
    request.readBody room = .ok body := by
  rw [Request.readBody, if_pos hjson, hread]

lemma readBody_malformed (hread : Json.readBytes room request.body = .error .malformed) :
    request.readBody room = .ok .null := by
  rw [Request.readBody, if_pos hjson, hread]

lemma readBody_tooDeep (hread : Json.readBytes room request.body = .error .tooDeep) :
    request.readBody room = .error (.fault .tooDeep) := by
  rw [Request.readBody, if_pos hjson, hread]
  rfl

end Read

def defaultBody (settings : Settings) : Value :=
  .dict [("capacity", settings.capacity), ("seed", settings.srsSeed)]

lemma newParameters_default :
    newParameters e settings drawn (defaultBody settings) =
      newParameters e settings drawn .null := by
  rfl

lemma setup_default (table : Table) :
    setup e settings drawn .null table = setup e settings drawn (defaultBody settings) table := by
  rw [setup, setup, newParameters_default]

end Body

theorem setup_by_body (e : PairingMap) (settings : Settings) (drawn : ℕ) {request : Request}
    (table : Table) (hroute : route request = .found .setup (.perform true))
    (hjson : request.isJson = true) :
    let read := Json.readBytes (settings.nesting .setup) request.body
    (∀ body, read = .ok body → body ≠ .null → (∀ entries, body ≠ .dict entries) →
      answer e settings drawn request table =
        (⟨400, errorBody "InvalidInput" Rejection.bodyNotObject.message⟩, table)) ∧
    (request.body = [] ∨ read = .error .malformed ∨ read = .ok .null →
      answer e settings drawn request table =
        (respond (setup e settings drawn (defaultBody settings) table).1,
          (setup e settings drawn (defaultBody settings) table).2)) ∧
    (read = .error .tooDeep → answer e settings drawn request table = (⟨500, .null⟩, table)) := by
  intro read
  rw [answer_found hroute rfl, bodyFor]
  refine ⟨fun body hbody hnull hdict => ?_, fun hbody => ?_, fun hdeep => ?_⟩
  · have hother : ¬(body = .null ∨ ∃ fields, body = .dict fields) := by
      rintro (hsame | ⟨fields, hsame⟩)
      · exact hnull hsame
      · exact hdict fields hsame
    rw [readBody_ok hjson hbody, onBody, setup, newParameters_other hother]
    rfl
  · have hnull : request.readBody (settings.nesting .setup) = .ok .null := by
      rcases hbody with hempty | hmalformed | hnull
      · have hread : Json.readBytes (settings.nesting .setup) [] = .error .malformed := rfl
        exact readBody_malformed hjson (hempty ▸ hread)
      · exact readBody_malformed hjson hmalformed
      · exact readBody_ok hjson hnull
    rw [hnull, onBody, setup_default]
  · rw [readBody_tooDeep hjson hdeep]
    rfl

theorem setup_by_body_list_and_null :
    answer logarithmPairing {} 0 (post "/vc/setup" "[1]") committedTable =
        (⟨400, errorBody "InvalidInput" Rejection.bodyNotObject.message⟩, committedTable) ∧
      answer logarithmPairing {} 0 (post "/vc/setup" "null") committedTable =
        (respond (setup logarithmPairing {} 0 (defaultBody {}) committedTable).1,
          (setup logarithmPairing {} 0 (defaultBody {}) committedTable).2) ∧
      answer logarithmPairing { nesting := fun _ => 1 } 0 (post "/vc/setup" "[[]]")
        committedTable = (⟨500, .null⟩, committedTable) := by
  have hlist : Json.readBytes 99900 (post "/vc/setup" "[1]").body = .ok (.list [.int 1]) := by
    decide +kernel
  have hnull : Json.readBytes 99900 (post "/vc/setup" "null").body = .ok .null := by decide +kernel
  have hdeep : Json.readBytes 1 (post "/vc/setup" "[[]]").body = .error .tooDeep := by
    decide +kernel
  have hjson : ∀ body, (post "/vc/setup" body).isJson = true :=
    fun _ => (by decide : isJsonType (mediaType "application/json") = true)
  exact ⟨(setup_by_body logarithmPairing {} 0 committedTable (route_setup "[1]") (hjson _)).1 _
      hlist nofun nofun,
    (setup_by_body logarithmPairing {} 0 committedTable (route_setup "null") (hjson _)).2.1
      (Or.inr (Or.inr hnull)),
    (setup_by_body logarithmPairing { nesting := fun _ => 1 } 0 committedTable
      (route_setup "[[]]") (hjson _)).2.2 hdeep⟩

theorem setup_by_body_drops_commitment :
    committedTable.lookup? (commitmentKey "a") ≠ none ∧
      ∀ body ∈ [Text.ofString "null", Text.ofString "\x7b"],
        (answer logarithmPairing { capacity := .int 2 } 2 (post "/vc/setup" body)
            committedTable).1.status = 200 ∧
          (answer logarithmPairing { capacity := .int 2 } 2 (post "/vc/setup" body)
            committedTable).2.lookup? (commitmentKey "a") = none := by
  refine ⟨?_, fun body hbody => ?_⟩
  · rw [committedTable_eq]
    decide +kernel
  · have hread : bodyFor { capacity := .int 2 } .setup (post "/vc/setup" body) = .ok .null := by
      simp only [List.mem_cons, List.not_mem_nil, or_false] at hbody
      rcases hbody with rfl | rfl <;> decide +kernel
    have hnew : newParameters logarithmPairing { capacity := .int 2 } 2 .null =
        .ok (keptParameters _ 2 2) :=
      newParameters_null logarithmPairing_isBilinear (by decide) rfl rfl rfl
    have harranged : Arranged logarithmPairing _ committedTable := arranged_run _ _ _
    rw [answer_found (route_setup body) rfl, hread, onBody, setup_eq harranged hnew]
    exact ⟨rfl, lookup?_parameters _ _ _⟩

end VectorCommitment.Service
