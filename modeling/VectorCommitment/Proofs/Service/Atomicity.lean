import VectorCommitment.Proofs.Service.Openings

/-! Requests that fail leave the table as it is, whatever is in it. Setups write before they look
through the keys, and commits before the digits of the commitment are made. -/

namespace VectorCommitment.Service

open Http Value

def IsAtomic (table : Table) (performed : Handling Value × Table) : Prop :=
  (∃ body, performed.1 = .ok body) ∨ performed.2 = table

section Operations

variable {e : PairingMap} {settings : Settings} {drawn : ℕ} {body : Value} {table : Table}

lemma exists_drop (hkeys : ∀ record ∈ table.records, record.HasTextKey) (start : Text)
    (body : Value) :
    ∃ table', drop start table body = (.ok body, table') := by
  have hstarts : ∀ record ∈ table.records, (Record.startsWith? start record).isSome = true :=
    fun record hrecord => (hkeys record hrecord).startsWith? start
  rw [drop, Table.removeStarting?_eq hstarts]
  exact ⟨_, rfl⟩

lemma setup_of_newParameters (hkeys : ∀ record ∈ table.records, record.HasTextKey)
    {new : NewParameters} (hnew : newParameters e settings drawn body = .ok new) :
    ∃ answered table', setup e settings drawn body table = (.ok answered, table') := by
  have hwritten := Table.hasTextKey_upsert
    (Table.hasTextKey_upsert hkeys proverKey new.prover) verifierKey new.verifier
  obtain ⟨table', hdrop⟩ := exists_drop hwritten commitmentStart
    (.dict [("success", .bool true), ("capacity", .int new.capacity)])
  rw [setup, hnew]
  exact ⟨_, table', hdrop⟩

lemma isG1Point_of_newEntry {entry : Entry} (hnew : newEntry body table = .ok entry) :
    entry.commitment.isG1Point = true := by
  obtain ⟨-, -, prover, hprover, hcommit⟩ := of_newEntry hnew
  obtain ⟨data, hread⟩ : ∃ data, Codec.readProver data = .ok prover := by
    unfold loadProver at hprover
    split at hprover
    · next data hdata => exact ⟨data, lift_eq_ok hprover⟩
    · cases hprover
  obtain ⟨capacity, points, rfl, hon⟩ := Codec.of_readProver hread
  refine isG1Point_of_commit (fun entry hentry => ?_) hcommit
  obtain ⟨p, hp, rfl⟩ := List.mem_map.mp hentry
  rw [isG1Point_ofG1]
  exact hon p hp

lemma commit_of_newEntry {entry : Entry} (hnew : newEntry body table = .ok entry) :
    ∃ x, commit body table =
      (.ok (.dict [("success", .bool true), ("key", .text entry.key),
        ("length", .int entry.units.length), ("commitment", .text (residueDigits x))]),
        table.upsert (commitmentKey entry.key) (entryData entry.units x)) := by
  obtain ⟨x, hx⟩ := (isG1Point_iff _).mp (isG1Point_of_newEntry hnew)
  obtain ⟨-, ⟨inputs, -, hunits⟩, -⟩ := of_newEntry hnew
  refine ⟨x, ?_⟩
  rw [commit, hnew]
  dsimp only
  rw [data_eq_entryData (Codec.lt_of_readScalars hunits) hx.symm]
  dsimp only
  rw [← hx, pointToHex_ofResidue]

lemma isAtomic_setup (hkeys : ∀ record ∈ table.records, record.HasTextKey) :
    IsAtomic table (setup e settings drawn body table) := by
  cases hnew : newParameters e settings drawn body with
  | error cause =>
    right
    rw [setup, hnew]
  | ok new =>
    left
    obtain ⟨answered, table', hsetup⟩ := setup_of_newParameters hkeys hnew
    exact ⟨answered, congrArg Prod.fst hsetup⟩

lemma isAtomic_commit : IsAtomic table (commit body table) := by
  cases hnew : newEntry body table with
  | error refusal =>
    right
    rw [commit, hnew]
  | ok entry =>
    left
    obtain ⟨x, hcommit⟩ := commit_of_newEntry hnew
    exact ⟨_, congrArg Prod.fst hcommit⟩

lemma isAtomic_clear : IsAtomic table (clear table) := by
  rw [clear, drop]
  split
  · exact Or.inl ⟨_, rfl⟩
  · exact Or.inr rfl

lemma IsAtomic.onBody {operation : Value → Handling Value × Table}
    (hoperation : ∀ body, IsAtomic table (operation body)) (read : Outcome Value) :
    IsAtomic table (onBody read table operation) := by
  cases read with
  | error cause => exact Or.inr rfl
  | ok body => exact hoperation body

lemma isAtomic_perform (hkeys : ∀ record ∈ table.records, record.HasTextKey) {request : Request}
    {resource : Resource} {performed : Handling Value × Table}
    (hperform : perform e settings drawn request table resource = some performed) :
    IsAtomic table performed := by
  cases resource with
  | setup => exact Option.some.inj hperform ▸ .onBody (fun _ => isAtomic_setup hkeys) _
  | commit => exact Option.some.inj hperform ▸ .onBody (fun _ => isAtomic_commit) _
  | clear => exact Option.some.inj hperform ▸ isAtomic_clear
  | file => cases hperform
  | health | parameters | commitment | opening | verification =>
    exact Or.inr (Option.some.inj hperform ▸ rfl)

end Operations

section Answers

variable {e : PairingMap} {settings : Settings} {drawn : ℕ} {request : Request} {table : Table}

lemma answer_quiet
    (hread : ∀ resource verb, route request = .found resource verb →
      resource ∉ [Resource.setup, .commit, .clear]) :
    (answer e settings drawn request table).2 = table := by
  cases hroute : route request with
  | unknown | wrongMethod | moved | refused => rw [answer, hroute]
  | found resource verb =>
    have hresource := hread resource verb hroute
    rw [answer, hroute]
    cases verb with
    | options => rfl
    | perform withBody =>
      cases resource with
      | setup | commit | clear => exact absurd (by decide) hresource
      | health | parameters | commitment | opening | verification | file => rfl

lemma answer_failed (hkeys : ∀ record ∈ table.records, record.HasTextKey)
    (hstatus : (answer e settings drawn request table).1.status ≠ 200) :
    (answer e settings drawn request table).2 = table := by
  unfold answer at hstatus ⊢
  split
  · rfl
  · rfl
  · rfl
  · rfl
  · rfl
  · next resource withBody hroute =>
    rw [hroute] at hstatus
    dsimp only at hstatus
    split
    · rfl
    · next result table' hperform =>
      rw [hperform] at hstatus
      rcases isAtomic_perform hkeys hperform with ⟨body, hbody⟩ | hsame
      · obtain rfl : result = .ok body := hbody
        cases withBody <;> exact absurd rfl hstatus
      · exact hsame

lemma isRead_of_get (hmethod : Text.upperCase request.method = Text.ofString "GET")
    {resource : Resource} {verb : Verb} (hroute : route request = .found resource verb) :
    resource.isRead = true := by
  have hverb := (of_route hroute).2
  unfold verb? at hverb
  dsimp only at hverb
  rw [hmethod, if_neg (by decide)] at hverb
  by_contra hread
  rw [if_neg hread, if_neg (by decide)] at hverb
  cases hverb

end Answers

/-- A request that does not end well changes nothing, and a request that reads, opens or verifies
never does. -/
theorem failed_request_keeps_table (e : PairingMap) (settings : Settings) (drawn : ℕ)
    (request : Request) {table : Table} (hkeys : ∀ record ∈ table.records, record.HasTextKey) :
    ((answer e settings drawn request table).1.status ≠ 200 →
      (answer e settings drawn request table).2 = table) ∧
    (Text.upperCase request.method = Text.ofString "GET" →
      (answer e settings drawn request table).2 = table) ∧
    ∀ resource ∈ [Resource.opening, .verification],
      Resource.at? (segments (path request.target)) = some resource →
        (answer e settings drawn request table).2 = table := by
  refine ⟨answer_failed hkeys, fun hmethod => ?_, fun resource hresource hat => ?_⟩
  · apply answer_quiet
    intro resource verb hroute hwrites
    have hread := isRead_of_get hmethod hroute
    simp only [List.mem_cons, List.not_mem_nil, or_false] at hwrites
    rcases hwrites with rfl | rfl | rfl <;> cases hread
  · apply answer_quiet
    intro resource' verb hroute
    obtain rfl := Option.some.inj ((of_route hroute).1.symm.trans hat)
    simp only [List.mem_cons, List.not_mem_nil, or_false] at hresource
    rcases hresource with rfl | rfl <;> decide

def brokenTable : Table :=
  ⟨.file, [Record.ofData proverKey (.dict [("capacity", .int 1)]), Record.ofData proverKey .null]⟩

theorem failed_request_keeps_table_broken :
    (answer atePairing {} 0 commitRequest brokenTable).1.status = 500 ∧
      (answer atePairing {} 0 commitRequest brokenTable).2 = brokenTable := by
  have hkeys : ∀ record ∈ brokenTable.records, record.HasTextKey := by
    intro record hrecord
    simp only [brokenTable, List.mem_cons, List.not_mem_nil, or_false] at hrecord
    rcases hrecord with rfl | rfl <;> exact Record.hasTextKey_ofData _ _
  have hstatus : (answer atePairing {} 0 commitRequest brokenTable).1.status = 500 := by
    decide +kernel
  refine ⟨hstatus, (failed_request_keeps_table atePairing {} 0 commitRequest hkeys).1 ?_⟩
  rw [hstatus]
  decide

end VectorCommitment.Service
