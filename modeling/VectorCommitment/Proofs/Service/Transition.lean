import VectorCommitment.Proofs.Service.Arrangement

/-! What a request can do to the table and how it is answered then. -/

namespace VectorCommitment.Service

open Http Point Value

section Load

variable {table : Table} {α capacity : ℕ}

lemma lookup?_proverKey {rest : List Record}
    (hrecords : table.records = proverRow α capacity :: rest) :
    table.lookup? proverKey = some (Setup.proverData α capacity) := by
  rw [Table.lookup?, hrecords, List.find?_cons_of_pos (hasKey_proverRow α capacity).1]
  rfl

lemma lookup?_verifierKey {t : Target} {entries : List Record}
    (hrecords : table.records = proverRow α capacity :: verifierRowWith t α capacity :: entries) :
    table.lookup? verifierKey = some (Setup.verifierDataWith t α capacity) := by
  rw [Table.lookup?, hrecords,
    List.find?_cons_of_neg (by rw [(hasKey_proverRow α capacity).2]; exact Bool.false_ne_true),
    List.find?_cons_of_pos (hasKey_verifierRowWith t α capacity).1]
  rfl

lemma loadProver_eq (hcapacity : 1 ≤ capacity) {rest : List Record}
    (hrecords : table.records = proverRow α capacity :: rest) :
    loadProver table = .ok (Setup.proverRecord α capacity) := by
  have hfilled : filled? proverKey table = some (Setup.proverData α capacity) := by
    rw [filled?, lookup?_proverKey hrecords]
    rfl
  rw [loadProver, hfilled]
  dsimp only
  rw [Setup.readProver_proverData α hcapacity]
  rfl

lemma loadVerifier_eq (hcapacity : 1 ≤ capacity) {t : Target} {entries : List Record}
    (hrecords : table.records = proverRow α capacity :: verifierRowWith t α capacity :: entries) :
    loadVerifier table = .ok (Setup.verifierWith t α capacity) := by
  have hfilled : filled? verifierKey table = some (Setup.verifierDataWith t α capacity) := by
    rw [filled?, lookup?_verifierKey hrecords]
    rfl
  rw [loadVerifier, hfilled]
  dsimp only
  rw [Setup.readVerifier_verifierDataWith t α hcapacity]
  rfl

lemma parameters_eq (hcapacity : 1 ≤ capacity) {t : Target} {entries : List Record}
    (hrecords : table.records = proverRow α capacity :: verifierRowWith t α capacity :: entries) :
    parameters table = .ok (.dict [("prover", Setup.proverData α capacity),
      ("verifier", Setup.verifierDataWith t α capacity)]) := by
  have hprover : present? proverKey table = some (Setup.proverData α capacity) := by
    rw [present?, lookup?_proverKey hrecords]
    rfl
  have hverifier : present? verifierKey table = some (Setup.verifierDataWith t α capacity) := by
    rw [present?, lookup?_verifierKey hrecords]
    rfl
  have hcompatible : checkCompatible (Setup.proverRecord α capacity)
      (Setup.verifierWith t α capacity) = .ok () := if_pos rfl
  rw [parameters, hprover, hverifier]
  dsimp only
  rw [Setup.readProver_proverData α hcapacity, lift_ok_bind,
    Setup.readVerifier_verifierDataWith t α hcapacity, lift_ok_bind, hcompatible]
  rfl

lemma parameters_empty (hrecords : table.records = []) :
    parameters table = absent .parameters := by
  rw [parameters, present?, Table.lookup?, hrecords]
  rfl

lemma loadProver_empty (hrecords : table.records = []) :
    loadProver table = absent .parameters := by
  rw [loadProver, filled?, Table.lookup?, hrecords]
  rfl

end Load

lemma of_setupCapacity {settings : Settings} {v : Value} {n : ℤ}
    (hcapacity : setupCapacity settings v = .ok n) :
    v = .int n ∧ settings.isAbove n = .ok false := by
  unfold setupCapacity at hcapacity
  split at hcapacity
  · obtain ⟨above, habove, hcapacity⟩ := Outcome.bind_eq_ok hcapacity
    cases above with
    | true => exact absurd hcapacity (Outcome.reject_ne_ok _ _)
    | false =>
      obtain rfl := Except.ok.inj hcapacity
      exact ⟨rfl, habove⟩
  · exact absurd hcapacity (Outcome.reject_ne_ok _ _)

section NewParameters

variable {e : PairingMap} {settings : Settings} {drawn : ℕ} {body : Value}

lemma newParameters_of_fields (hbody : body = .null ∨ ∃ fields, body = .dict fields) :
    newParameters e settings drawn body =
      setupCapacity settings ((fieldOf? "capacity" body).getD settings.capacity) >>= fun n =>
        generate e drawn (.int n) ((fieldOf? "seed" body).getD settings.srsSeed) >>= fun made =>
          Codec.writeProver made.1 >>= fun prover => Codec.writeVerifier made.2 >>= fun verifier =>
            .ok ⟨n, prover, verifier⟩ := by
  rcases hbody with rfl | ⟨fields, rfl⟩ <;> rfl

lemma newParameters_other (hbody : ¬(body = .null ∨ ∃ fields, body = .dict fields)) :
    newParameters e settings drawn body = .error (.rejected .bodyNotObject) := by
  cases body with
  | null => exact absurd (Or.inl rfl) hbody
  | dict fields => exact absurd (Or.inr ⟨fields, rfl⟩) hbody
  | _ => rfl

lemma exists_of_newParameters {new : NewParameters}
    (hnew : newParameters e settings drawn body = .ok new) :
    ∃ (t : Target) (α capacity : ℕ), new = keptParameters t α capacity ∧ 1 ≤ capacity ∧
      settings.isAbove capacity = .ok false ∧ Setup.verifierTarget e α capacity = .ok t ∧
      Setup.trapdoor drawn ((fieldOf? "seed" body).getD settings.srsSeed) = .ok α ∧
      generate e drawn (.int capacity) ((fieldOf? "seed" body).getD settings.srsSeed) =
        .ok (Setup.proverRecord α capacity, Setup.verifierWith t α capacity) := by
  have hbody : body = .null ∨ ∃ fields, body = .dict fields := by
    by_contra hother
    rw [newParameters_other hother] at hnew
    cases hnew
  rw [newParameters_of_fields hbody] at hnew
  obtain ⟨capacity, hcapacity, hnew⟩ := Outcome.bind_eq_ok hnew
  obtain ⟨⟨prover, verifier⟩, hgenerated, hnew⟩ := Outcome.bind_eq_ok hnew
  obtain ⟨proverData, hprover, hnew⟩ := Outcome.bind_eq_ok hnew
  obtain ⟨verifierData, hverifier, hnew⟩ := Outcome.bind_eq_ok hnew
  obtain rfl := Except.ok.inj hnew
  obtain ⟨α, n, t, hn, hpos, hα, htarget, rfl, rfl⟩ := of_generate hgenerated
  obtain rfl : capacity = n := Except.ok.inj hn
  obtain rfl := Except.ok.inj (hprover.symm.trans (Setup.writeProver_proverRecord α n))
  obtain rfl := Except.ok.inj (hverifier.symm.trans (Setup.writeVerifier_verifierWith t α n))
  exact ⟨t, α, n, rfl, hpos, (of_setupCapacity hcapacity).2, htarget, hα, hgenerated⟩

lemma of_newParameters {new : NewParameters}
    (hnew : newParameters e settings drawn body = .ok new) :
    ∃ (t : Target) (α capacity : ℕ), new = keptParameters t α capacity ∧
      Makes e settings drawn body t α capacity := by
  obtain ⟨t, α, capacity, rfl, hpos, hallowed, htarget, -, hgenerated⟩ :=
    exists_of_newParameters hnew
  exact ⟨t, α, capacity, rfl, hpos, hallowed, htarget, ⟨_, hgenerated⟩, hnew⟩

variable {base : Target} (h : e.IsBilinear base) {capacity : ℕ} (hcapacity : 1 ≤ capacity)
  (hlimit : settings.isAbove capacity = .ok false)
include h hcapacity hlimit

lemma newParameters_eq {α : ℕ} (hbody : body = .null ∨ ∃ fields, body = .dict fields)
    (hasked : (fieldOf? "capacity" body).getD settings.capacity = .int capacity)
    (hα : Setup.trapdoor drawn ((fieldOf? "seed" body).getD settings.srsSeed) = .ok α) :
    newParameters e settings drawn body =
      .ok (keptParameters (base.power ((α : ZMod groupOrder) ^ (capacity + 1))) α capacity) := by
  have hchecked : setupCapacity settings (.int capacity) = .ok (capacity : ℤ) := by
    rw [setupCapacity, hlimit]
    rfl
  have hgenerated : generate e drawn (.int capacity) _ = .ok _ := generate_eq h rfl hcapacity hα
  rw [newParameters_of_fields hbody, hasked, hchecked, Outcome.ok_bind, hgenerated, Outcome.ok_bind,
    Setup.writeProver_proverRecord, Outcome.ok_bind, Setup.verifierRecord, ← Setup.verifierWith,
    Setup.writeVerifier_verifierWith]
  rfl

lemma newParameters_null (hsettings : settings.capacity = .int capacity)
    (hseed : settings.srsSeed = .null) :
    newParameters e settings drawn .null =
      .ok ⟨capacity, Setup.proverData drawn capacity, Setup.verifierData base drawn capacity⟩ := by
  have hα : Setup.trapdoor drawn ((fieldOf? "seed" .null).getD settings.srsSeed) = .ok drawn := by
    rw [hseed]
    rfl
  exact newParameters_eq h hcapacity hlimit (Or.inl rfl) hsettings hα

end NewParameters

def commitBody (α : ℕ) (key : Text) (units : List ℕ) : Value :=
  .dict [("success", .bool true), ("key", .text key), ("length", .int units.length),
    ("commitment", .text (residueDigits (commitmentResidue α units)))]

lemma of_newEntry {body : Value} {table : Table} {entry : Entry}
    (hnew : newEntry body table = .ok entry) :
    keyOf? body = some entry.key ∧
      (∃ inputs, fieldOf? "inputs" body = some inputs ∧ Codec.readScalars inputs = .ok entry.units) ∧
      ∃ prover, loadProver table = .ok prover ∧
        VectorCommitment.commit prover (.list (entry.units.map .scalar)) = .ok entry.commitment := by
  obtain ⟨fields, hfields, hnew⟩ := lift_bind_eq_ok hnew
  obtain ⟨keyField, hkeyField, hnew⟩ := lift_bind_eq_ok hnew
  obtain ⟨key, hkey, hnew⟩ := lift_bind_eq_ok hnew
  obtain ⟨inputs, hinputs, hnew⟩ := lift_bind_eq_ok hnew
  obtain ⟨units, hunits, hnew⟩ := lift_bind_eq_ok hnew
  obtain ⟨prover, hprover, hnew⟩ := Outcome.bind_eq_ok hnew
  obtain ⟨commitment, hcommitment, hnew⟩ := lift_bind_eq_ok hnew
  obtain rfl := Except.ok.inj hnew
  exact ⟨keyOf?_eq hfields hkeyField hkey, ⟨inputs, fieldOf?_eq hfields hinputs, hunits⟩, prover,
    hprover, hcommitment⟩

lemma data_eq_entryData {x : ZMod groupOrder} {entry : Entry}
    (hunits : ∀ unit ∈ entry.units, unit < groupOrder) (hcommitment : entry.commitment = ofResidue x) :
    entry.data = .ok (entryData entry.units x) := by
  rw [Entry.data, Codec.writeScalars_eq hunits, hcommitment, ofResidue, Codec.writeG1_ofG1]
  rfl

lemma data_eq {α : ℕ} {entry : Entry} (hunits : ∀ unit ∈ entry.units, unit < groupOrder)
    (hcommitment : entry.commitment = ofResidue (commitmentResidue α entry.units)) :
    entry.data = .ok (commitmentData α entry.units) :=
  data_eq_entryData hunits hcommitment

def Writes (request : Request) : Prop :=
  ∃ resource ∈ [Resource.setup, .commit, .clear], route request = .found resource (.perform true)

/-- How a request is answered and what becomes of the table. -/
inductive Transition (e : PairingMap) (events : List Event) (settings : Settings) (drawn : ℕ)
    (request : Request) (table : Table) : Response → Table → Prop
  | quiet {response : Response} (hquiet : response.status = 200 → ¬Writes request) :
    Transition e events settings drawn request table response table
  | setup {t : Target} {α capacity : ℕ} {body : Value}
      (hroute : route request = .found .setup (.perform true))
      (hread : bodyFor settings .setup request = .ok body)
      (hmakes : Makes e settings drawn body t α capacity) :
    Transition e events settings drawn request table
      ⟨200, .dict [("success", .bool true), ("capacity", .int capacity)]⟩
      ⟨table.storage, [proverRow α capacity, verifierRowWith t α capacity]⟩
  | commit {t : Target} {α capacity : ℕ} {entries : List Record} {body : Value} {key : Text}
      {inputs : Value} {units : List ℕ} (hroute : route request = .found .commit (.perform true))
      (hinitialized : Initialized e events table α capacity t entries)
      (hread : bodyFor settings .commit request = .ok body) (hkey : keyOf? body = some key)
      (hinputs : fieldOf? "inputs" body = some inputs)
      (hunits : Codec.readScalars inputs = .ok units) (hfits : units.length ≤ capacity) :
    Transition e events settings drawn request table ⟨200, commitBody α key units⟩
      (table.upsert (commitmentKey key) (commitmentData α units))
  | clear (hroute : route request = .found .clear (.perform true)) :
    Transition e events settings drawn request table ⟨200, .dict [("success", .bool true)]⟩
      ⟨table.storage, []⟩

section Transition

variable {e : PairingMap} {events : List Event} {settings : Settings} {drawn : ℕ}
  {request : Request} {table : Table} (harranged : Arranged e events table)

lemma status_error (refusal : Refusal) : (respond (.error refusal)).status ≠ 200 := by
  rcases refusal with what | cause | cause <;> exact of_decide_eq_false rfl

lemma not_writes {resource : Resource} {verb : Verb} (hroute : route request = .found resource verb)
    (hread : resource ∉ [Resource.setup, .commit, .clear]) : ¬Writes request := by
  rintro ⟨other, hother, hroute'⟩
  obtain ⟨rfl, -⟩ := Route.found.inj (hroute.symm.trans hroute')
  exact hread hother

include harranged

lemma transition_setup (hroute : route request = .found .setup (.perform true)) :
    let performed := onBody (bodyFor settings .setup request) table fun body =>
      setup e settings drawn body table
    Transition e events settings drawn request table (respond performed.1) performed.2 := by
  cases hread : bodyFor settings .setup request with
  | error cause => exact .quiet fun hstatus => absurd hstatus (status_error _)
  | ok body =>
    cases hnew : newParameters e settings drawn body with
    | error cause =>
      rw [onBody, setup, hnew]
      exact .quiet fun hstatus => absurd hstatus (status_error _)
    | ok new =>
      obtain ⟨t, α, capacity, rfl, hmakes⟩ := of_newParameters hnew
      rw [onBody, setup_eq harranged hnew]
      exact .setup hroute hread hmakes

lemma transition_commit (hroute : route request = .found .commit (.perform true)) :
    let performed := onBody (bodyFor settings .commit request) table fun body => commit body table
    Transition e events settings drawn request table (respond performed.1) performed.2 := by
  cases hread : bodyFor settings .commit request with
  | error cause => exact .quiet fun hstatus => absurd hstatus (status_error _)
  | ok body =>
    cases hnew : newEntry body table with
    | error refusal =>
      rw [onBody, commit, hnew]
      exact .quiet fun hstatus => absurd hstatus (status_error _)
    | ok entry =>
      obtain ⟨hkey, ⟨inputs, hinputs, hunits⟩, prover, hprover, hmade⟩ := of_newEntry hnew
      cases harranged with
      | empty hrecords =>
        rw [loadProver_empty hrecords] at hprover
        cases hprover
      | initialized hinitialized =>
        have hloaded := loadProver_eq hinitialized.capacity_pos hinitialized.records
        obtain rfl := Except.ok.inj (hprover.symm.trans hloaded)
        obtain ⟨hfits, hcommitment⟩ := of_commit hmade
        rw [onBody, commit, hnew]
        dsimp only
        rw [data_eq (Codec.lt_of_readScalars hunits) hcommitment]
        dsimp only
        rw [hcommitment, pointToHex_ofResidue]
        exact .commit hroute hinitialized hread hkey hinputs hunits hfits

lemma transition (settings : Settings) (drawn : ℕ) (request : Request) :
    Transition e events settings drawn request table (answer e settings drawn request table).1
      (answer e settings drawn request table).2 := by
  cases hroute : route request with
  | unknown | wrongMethod | moved | refused =>
    rw [answer, hroute]
    exact .quiet fun hstatus => absurd hstatus (of_decide_eq_false rfl)
  | found resource verb =>
    cases verb with
    | options =>
      rw [answer, hroute]
      refine .quiet fun _ hwrites => ?_
      obtain ⟨other, -, hroute'⟩ := hwrites
      cases hroute.symm.trans hroute'
    | perform withBody =>
      cases resource with
      | setup =>
        obtain rfl := withBody_of_route hroute rfl
        rw [answer_found hroute rfl]
        exact transition_setup harranged hroute
      | commit =>
        obtain rfl := withBody_of_route hroute rfl
        rw [answer_found hroute rfl]
        exact transition_commit harranged hroute
      | clear =>
        obtain rfl := withBody_of_route hroute rfl
        rw [answer_found hroute rfl]
        change Transition _ _ _ _ _ _ (respond (clear table).1) (clear table).2
        rw [clear_eq harranged]
        exact .clear hroute
      | health | parameters | commitment | opening | verification | file =>
        have hquiet := not_writes hroute (by simp)
        rw [answer, hroute]
        exact .quiet fun _ => hquiet

end Transition

section Run

variable {e : PairingMap} {events : List Event} {table : Table}

lemma initialized_upsert {α capacity : ℕ} {t : Target} {entries : List Record}
    (hinitialized : Initialized e events table α capacity t entries) (key : Text) {units : List ℕ}
    (hfits : units.length ≤ capacity) (hunits : ∀ unit ∈ units, unit < groupOrder) :
    ∃ entries', Initialized e events (table.upsert (commitmentKey key) (commitmentData α units))
      α capacity t entries' := by
  have hstart := startsWith_commitmentKey key
  have hnew : IsCommitment α capacity
      (table.storage.keep (Record.ofData (commitmentKey key) (commitmentData α units))) := by
    refine ⟨table.storage.keepKey (commitmentKey key), units,
      Storage.startsWith_keepKey _ ascii_commitmentStart hstart, hfits, hunits, ?_⟩
    exact Storage.keep_ofData _ _ (joinSurrogates_commitmentData α units)
  refine ⟨_, hinitialized.made,
    (Table.upsert_cons hinitialized.records (hasKey_parameters hstart _).1).trans
      (congrArg _ (Table.upsert_cons rfl (hasKey_parameters hstart _).2)),
    fun record hrecord => ?_⟩
  rcases Table.mem_upsert hrecord with ⟨hold, -⟩ | ⟨old, hold, rfl⟩
  · exact hinitialized.commitments record hold
  · rcases hold with ⟨hold, -⟩ | rfl
    · obtain ⟨key', units', -, -, -, rfl⟩ := hinitialized.commitments old hold
      exact hnew
    · exact hnew

lemma Transition.arranged {settings : Settings} {drawn : ℕ} {request : Request}
    {response : Response} {table' : Table}
    (htransition : Transition e events settings drawn request table response table')
    (hevent : .request settings drawn request ∈ events) (harranged : Arranged e events table) :
    Arranged e events table' := by
  cases htransition with
  | quiet => exact harranged
  | setup _ hread hmakes =>
    exact .initialized ⟨⟨settings, drawn, request, _, hevent, hread, hmakes⟩, rfl, nofun⟩
  | commit _ hinitialized _ _ _ hunits hfits =>
    obtain ⟨entries', hinitialized'⟩ :=
      initialized_upsert hinitialized _ hfits (Codec.lt_of_readScalars hunits)
    exact .initialized hinitialized'
  | clear => exact .empty rfl

lemma Transition.storage {settings : Settings} {drawn : ℕ} {request : Request} {response : Response}
    {table' : Table}
    (htransition : Transition e events settings drawn request table response table') :
    table'.storage = table.storage := by
  cases htransition with
  | quiet | setup | clear => rfl
  | commit => exact storage_upsert _ _ _

lemma reopen_eq (table : Table) : table.reopen = table ∨ table.reopen = ⟨table.storage, []⟩ := by
  obtain ⟨storage, records⟩ := table
  cases storage with
  | memory => exact Or.inr rfl
  | file => exact Or.inl rfl

lemma arranged_step (harranged : Arranged e events table) {event : Event}
    (hevent : event ∈ events) : Arranged e events (step e table event) := by
  cases event with
  | request settings drawn request =>
    exact (transition harranged settings drawn request).arranged hevent harranged
  | restart =>
    rw [step]
    rcases reopen_eq table with hsame | hempty
    · rwa [hsame]
    · rw [hempty]
      exact .empty rfl

lemma arranged_run (e : PairingMap) (storage : Storage) (events : List Event) :
    Arranged e events (run e storage events) :=
  run_induction (.empty rfl) fun _ harranged _ hevent => arranged_step harranged hevent

end Run

end VectorCommitment.Service
