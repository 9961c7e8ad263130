import VectorCommitment.Proofs.Codec.Point
import VectorCommitment.Proofs.Service.Records
import VectorCommitment.Proofs.Service.Run

namespace VectorCommitment.Service

open Http Point Value

def proverRow (α capacity : ℕ) : Record :=
  Record.ofData proverKey (Setup.proverData α capacity)

def verifierRowWith (t : Target) (α capacity : ℕ) : Record :=
  Record.ofData verifierKey (Setup.verifierDataWith t α capacity)

def entryData (units : List ℕ) (x : ZMod groupOrder) : Value :=
  .dict [(Text.ofString "inputs", .list (units.map Codec.scalarData)),
    (Text.ofString "commitment", Codec.g1Data (G1.generator.multiple x))]

lemma item_inputs (units : List ℕ) (x : ZMod groupOrder) :
    (entryData units x).item (.text "inputs") = .ok (.list (units.map Codec.scalarData)) := rfl

lemma item_commitment (units : List ℕ) (x : ZMod groupOrder) :
    (entryData units x).item (.text "commitment") =
      .ok (Codec.g1Data (G1.generator.multiple x)) := rfl

lemma joinSurrogates_entryData (units : List ℕ) (x : ZMod groupOrder) :
    (entryData units x).joinSurrogates = entryData units x := by
  have hunits := joinSurrogates_map Codec.scalarData units Codec.joinSurrogates_scalarData
  change Value.dict [(Text.ofString "inputs",
      (Value.list (units.map Codec.scalarData)).joinSurrogates),
    (Text.ofString "commitment", (Codec.g1Data (G1.generator.multiple x)).joinSurrogates)] = _
  rw [hunits, Codec.joinSurrogates_g1Data]
  rfl

def commitmentData (α : ℕ) (units : List ℕ) : Value := entryData units (commitmentResidue α units)

lemma joinSurrogates_commitmentData (α : ℕ) (units : List ℕ) :
    (commitmentData α units).joinSurrogates = commitmentData α units :=
  joinSurrogates_entryData units _

def IsCommitment (α capacity : ℕ) (record : Record) : Prop :=
  ∃ (key : Text) (units : List ℕ), Text.startsWith commitmentStart key = true ∧
    units.length ≤ capacity ∧ (∀ unit ∈ units, unit < groupOrder) ∧
    record = Record.ofData key (commitmentData α units)

def keptParameters (t : Target) (α capacity : ℕ) : NewParameters :=
  ⟨capacity, Setup.proverData α capacity, Setup.verifierDataWith t α capacity⟩

structure Makes (e : PairingMap) (settings : Settings) (drawn : ℕ) (body : Value) (t : Target)
    (α capacity : ℕ) : Prop where
  capacity_pos : 1 ≤ capacity
  allowed : settings.isAbove capacity = .ok false
  target : Setup.verifierTarget e α capacity = .ok t
  generated : ∃ seed, generate e drawn (.int capacity) seed =
    .ok (Setup.proverRecord α capacity, Setup.verifierWith t α capacity)
  kept : newParameters e settings drawn body = .ok (keptParameters t α capacity)

structure Initialized (e : PairingMap) (events : List Event) (table : Table) (α capacity : ℕ)
    (t : Target) (entries : List Record) : Prop where
  made : ∃ settings drawn request body, .request settings drawn request ∈ events ∧
    bodyFor settings .setup request = .ok body ∧ Makes e settings drawn body t α capacity
  records : table.records = proverRow α capacity :: verifierRowWith t α capacity :: entries
  commitments : ∀ record ∈ entries, IsCommitment α capacity record

lemma Initialized.capacity_pos {e : PairingMap} {events : List Event} {table : Table}
    {α capacity : ℕ} {t : Target} {entries : List Record}
    (hinitialized : Initialized e events table α capacity t entries) : 1 ≤ capacity := by
  obtain ⟨settings, drawn, request, body, -, -, hmakes⟩ := hinitialized.made
  exact hmakes.capacity_pos

/-- The table is empty or belongs to one setup. -/
inductive Arranged (e : PairingMap) (events : List Event) (table : Table) : Prop
  | empty (hrecords : table.records = [])
  | initialized {α capacity : ℕ} {t : Target} {entries : List Record}
      (hinitialized : Initialized e events table α capacity t entries)

def fieldOf? (name : Text) : Value → Option Value
  | .dict fields => Value.lookup? name fields
  | _ => none

def keyOf? (body : Value) : Option Text := (fieldOf? "key" body).bind (·.write.toOption)

lemma lift_ok_bind {β γ : Type} (b : β) (f : β → Handling γ) :
    (liftM (.ok b : Outcome β) : Handling β) >>= f = f b := rfl

lemma lift_eq_ok {β : Type} {x : Outcome β} {b : β} (h : (liftM x : Handling β) = .ok b) :
    x = .ok b := by
  cases x with
  | error cause => cases h
  | ok b' => exact congrArg Except.ok (Except.ok.inj h)

lemma lift_bind_eq_ok {β γ : Type} {x : Outcome β} {f : β → Handling γ} {c : γ}
    (h : (liftM x : Handling β) >>= f = .ok c) : ∃ b, x = .ok b ∧ f b = .ok c := by
  cases x with
  | error cause => cases h
  | ok b => exact ⟨b, rfl, h⟩

lemma fieldOf?_eq {body v : Value} {fields : List (Text × Value)} {name : Text}
    (hfields : entriesOf body = .ok fields) (hfield : field fields name = .ok v) :
    fieldOf? name body = some v := by
  cases body with
  | dict entries =>
    obtain rfl := Except.ok.inj hfields
    unfold field at hfield
    split at hfield
    · next hfound => exact hfound.trans (congrArg some (Except.ok.inj hfield))
    · exact absurd hfield (Outcome.reject_ne_ok _ _)
  | _ => exact absurd hfields (Outcome.reject_ne_ok _ _)

lemma keyOf?_eq {body v : Value} {fields : List (Text × Value)} {key : Text}
    (hfields : entriesOf body = .ok fields) (hfield : field fields "key" = .ok v)
    (hkey : v.write = .ok key) : keyOf? body = some key := by
  rw [keyOf?, fieldOf?_eq hfields hfield, Option.bind_some, hkey]
  rfl

lemma ascii_commitmentStart : ∀ c ∈ commitmentStart, c < 0xD800 := by decide

lemma startsWith_commitmentKey (key : Text) :
    Text.startsWith commitmentStart (commitmentKey key) = true :=
  List.isPrefixOf_iff_prefix.mpr ⟨key, rfl⟩

lemma keepKey_commitmentKey (storage : Storage) (key : Text) :
    storage.keepKey (commitmentKey key) = commitmentKey (storage.keepKey key) := by
  cases storage with
  | memory => rfl
  | file => exact Text.joinSurrogates_append ascii_commitmentStart key

lemma ne_of_startsWith {key other : Text} (hkey : Text.startsWith commitmentStart key = true)
    (hother : Text.startsWith commitmentStart other = false) : key ≠ other := by
  rintro rfl
  rw [hkey] at hother
  exact Bool.noConfusion hother

section Rows

variable (storage : Storage) (t : Target) (α capacity : ℕ)

lemma keep_proverData :
    storage.keep (Record.ofData proverKey (Setup.proverData α capacity)) = proverRow α capacity := by
  refine (Storage.keep_ofData storage proverKey (Codec.joinSurrogates_proverData _ _)).trans ?_
  rw [Storage.keepKey_eq storage (by decide)]
  rfl

lemma keep_verifierDataWith :
    storage.keep (Record.ofData verifierKey (Setup.verifierDataWith t α capacity)) =
      verifierRowWith t α capacity := by
  refine (Storage.keep_ofData storage verifierKey (Codec.joinSurrogates_verifierData _ _ _)).trans ?_
  rw [Storage.keepKey_eq storage (by decide)]
  rfl

lemma hasKey_proverRow :
    Record.hasKey proverKey (proverRow α capacity) = true ∧
      Record.hasKey verifierKey (proverRow α capacity) = false :=
  ⟨rfl, rfl⟩

lemma hasKey_verifierRowWith :
    Record.hasKey verifierKey (verifierRowWith t α capacity) = true ∧
      Record.hasKey proverKey (verifierRowWith t α capacity) = false :=
  ⟨rfl, rfl⟩

lemma hasKey_parameters {key : Text} (hkey : Text.startsWith commitmentStart key = true)
    (data : Value) : Record.hasKey key (Record.ofData proverKey data) = false ∧
      Record.hasKey key (Record.ofData verifierKey data) = false :=
  ⟨decide_eq_false (ne_of_startsWith hkey (by decide)).symm,
    decide_eq_false (ne_of_startsWith hkey (by decide)).symm⟩

end Rows

section Commitments

variable {α capacity : ℕ} {record : Record} (hrecord : IsCommitment α capacity record)
include hrecord

lemma IsCommitment.isPlain : record.IsPlain := by
  obtain ⟨key, units, -, -, -, rfl⟩ := hrecord
  exact ⟨_, _, rfl⟩

lemma IsCommitment.hasKey {key : Text} (hkey : Text.startsWith commitmentStart key = false) :
    Record.hasKey key record = false := by
  obtain ⟨key', units, hstart, -, -, rfl⟩ := hrecord
  exact decide_eq_false (ne_of_startsWith hstart hkey)

lemma IsCommitment.startsWith? : Record.startsWith? commitmentStart record = some true := by
  obtain ⟨key, units, hstart, -, -, rfl⟩ := hrecord
  rw [Record.startsWith?_ofData, hstart]

end Commitments

section Table

variable {e : PairingMap} {events : List Event} {table : Table} {α capacity : ℕ} {t : Target}
  {entries : List Record}

lemma Arranged.isPlain (harranged : Arranged e events table) :
    ∀ record ∈ table.records, record.IsPlain := by
  cases harranged with
  | empty hrecords =>
    rw [hrecords]
    exact nofun
  | initialized hinitialized =>
    intro record hrecord
    rw [hinitialized.records, List.mem_cons, List.mem_cons] at hrecord
    rcases hrecord with rfl | rfl | hrecord
    · exact ⟨_, _, rfl⟩
    · exact ⟨_, _, rfl⟩
    · exact (hinitialized.commitments record hrecord).isPlain

lemma drop_eq (hplain : ∀ record ∈ table.records, record.IsPlain) (start : Text) (body : Value) :
    drop start table body = (.ok body, ⟨table.storage, table.records.filter fun record =>
      Record.startsWith? start record != some true⟩) := by
  have hkeys : ∀ record ∈ table.records, (Record.startsWith? start record).isSome = true := by
    intro record hrecord
    obtain ⟨key, value, rfl⟩ := hplain record hrecord
    rfl
  rw [drop, Table.removeStarting?_eq hkeys]

lemma filter_startsWith {start : Text} {records : List Record}
    (hstart : ∀ record ∈ records, Record.startsWith? start record = some true) :
    records.filter (fun record => Record.startsWith? start record != some true) = [] := by
  rw [List.filter_eq_nil_iff]
  intro record hrecord
  rw [hstart record hrecord]
  exact Bool.false_ne_true

lemma storage_upsert (key : Text) (value : Value) (table : Table) :
    (table.upsert key value).storage = table.storage := by
  unfold Table.upsert
  dsimp only
  split <;> rfl

lemma upsert_proverKey (harranged : Arranged e events table) (α capacity : ℕ) :
    (table.upsert proverKey (Setup.proverData α capacity)).records = [proverRow α capacity] ∨
      ∃ (t' : Target) (α' capacity' : ℕ) (entries : List Record),
        (∀ record ∈ entries, IsCommitment α' capacity' record) ∧
        (table.upsert proverKey (Setup.proverData α capacity)).records =
          proverRow α capacity :: verifierRowWith t' α' capacity' :: entries := by
  cases harranged with
  | empty hrecords =>
    left
    rw [Table.upsert_absent (by rw [hrecords]; exact nofun), keep_proverData, hrecords]
    rfl
  | @initialized α' capacity' t' entries hinitialized =>
    right
    refine ⟨t', α', capacity', entries, hinitialized.commitments, ?_⟩
    rw [Table.upsert_head hinitialized.records (hasKey_proverRow α' capacity').1, proverRow,
      Record.put_ofData, keep_proverData]
    intro other hother
    rcases List.mem_cons.mp hother with rfl | hother
    · exact (hasKey_verifierRowWith t' α' capacity').2
    · exact (hinitialized.commitments other hother).hasKey (by decide)

lemma upsert_parameters (harranged : Arranged e events table) (t : Target) (α capacity : ℕ) :
    ∃ entries : List Record,
      (∀ record ∈ entries, Record.startsWith? commitmentStart record = some true) ∧
      ((table.upsert proverKey (Setup.proverData α capacity)).upsert verifierKey
        (Setup.verifierDataWith t α capacity)).records =
          proverRow α capacity :: verifierRowWith t α capacity :: entries := by
  rcases upsert_proverKey harranged α capacity with
    hfirst | ⟨t', α', capacity', entries, hentries, hfirst⟩
  · refine ⟨[], nofun, ?_⟩
    have habsent : ∀ record ∈ [proverRow α capacity], Record.hasKey verifierKey record = false := by
      intro record hrecord
      rw [List.mem_singleton.mp hrecord]
      exact (hasKey_proverRow α capacity).2
    rw [Table.upsert_absent (by rwa [hfirst]), keep_verifierDataWith, hfirst]
    rfl
  · refine ⟨entries, fun record hrecord => (hentries record hrecord).startsWith?, ?_⟩
    have habsent : ∀ record ∈ entries, Record.hasKey verifierKey record = false :=
      fun record hrecord => (hentries record hrecord).hasKey (by decide)
    rw [Table.upsert_cons hfirst (hasKey_proverRow α capacity).2,
      Table.upsert_head rfl (hasKey_verifierRowWith t' α' capacity').1 habsent, verifierRowWith,
      Record.put_ofData, keep_verifierDataWith]

lemma setup_eq (harranged : Arranged e events table) {settings : Settings} {drawn : ℕ} {body : Value}
    (hnew : newParameters e settings drawn body = .ok (keptParameters t α capacity)) :
    setup e settings drawn body table =
      (.ok (.dict [("success", .bool true), ("capacity", .int capacity)]),
        ⟨table.storage, [proverRow α capacity, verifierRowWith t α capacity]⟩) := by
  obtain ⟨entries, hentries, hrecords⟩ := upsert_parameters harranged t α capacity
  have hfirst := Table.isPlain_upsert proverKey harranged.isPlain
    (Codec.joinSurrogates_proverData capacity (Setup.proverPoints α capacity))
  have hplain := Table.isPlain_upsert verifierKey hfirst
    (Codec.joinSurrogates_verifierData capacity (Setup.verifierPoints α capacity) t)
  have hprover : Record.startsWith? commitmentStart (proverRow α capacity) = some false := rfl
  have hverifier : Record.startsWith? commitmentStart (verifierRowWith t α capacity) = some false :=
    rfl
  rw [setup, hnew]
  refine (drop_eq hplain commitmentStart _).trans ?_
  change (_, (⟨_, List.filter _ ((table.upsert proverKey (Setup.proverData α capacity)).upsert
    verifierKey (Setup.verifierDataWith t α capacity)).records⟩ : Table)) = _
  rw [hrecords, List.filter_cons, hprover, List.filter_cons, hverifier, filter_startsWith hentries,
    storage_upsert, storage_upsert]
  rfl

lemma clear_eq (harranged : Arranged e events table) :
    clear table = (.ok (.dict [("success", .bool true)]), ⟨table.storage, []⟩) := by
  have hstart : ∀ record ∈ table.records, Record.startsWith? serviceStart record = some true := by
    cases harranged with
    | empty hrecords =>
      rw [hrecords]
      exact nofun
    | initialized hinitialized =>
      intro record hrecord
      rw [hinitialized.records, List.mem_cons, List.mem_cons] at hrecord
      rcases hrecord with rfl | rfl | hrecord
      · rfl
      · rfl
      · obtain ⟨key, units, hkey, -, -, rfl⟩ := hinitialized.commitments record hrecord
        obtain ⟨rest, rfl⟩ := List.isPrefixOf_iff_prefix.mp hkey
        rfl
  rw [clear, drop_eq harranged.isPlain, filter_startsWith hstart]

end Table

end VectorCommitment.Service
