import VectorCommitment.Proofs.Codec.Point
import VectorCommitment.Proofs.Service.Transition
import VectorCommitment.Proofs.Value.Decidable

namespace VectorCommitment.Service

open Http Point Value

def verifierRow (base : Target) (α capacity : ℕ) : Record :=
  Record.ofData verifierKey (Setup.verifierData base α capacity)

inductive Consistent (base : Target) (table : Table) : Prop
  | empty (hrecords : table.records = [])
  | initialized {α capacity : ℕ} {entries : List Record} (hcapacity : 1 ≤ capacity)
      (hrecords : table.records =
        proverRow α capacity :: verifierRow base α capacity :: entries)
      (hentries : ∀ record ∈ entries, IsCommitment α capacity record)

lemma consistent_run {e : PairingMap} {base : Target} (h : e.IsBilinear base) (storage : Storage)
    (events : List Event) : Consistent base (run e storage events) := by
  cases arranged_run e storage events with
  | empty hrecords => exact .empty hrecords
  | @initialized α capacity t entries hinitialized =>
    obtain ⟨settings, drawn, request, body, -, -, hmakes⟩ := hinitialized.made
    have htarget := Setup.verifierTarget_eq h α hmakes.capacity_pos
    obtain rfl := Except.ok.inj (hmakes.target.symm.trans htarget)
    exact .initialized hinitialized.capacity_pos hinitialized.records hinitialized.commitments

def openingBody (α capacity : ℕ) (key : Text) (position : ℕ) (units : List ℕ) : Value :=
  .dict [("success", .bool true), ("key", .text key), ("position", .int position),
    ("value", Codec.scalarData (units.getD position 0)),
    ("commitment", .text (residueDigits (commitmentResidue α units))),
    ("witness", .text (residueDigits (witnessResidue α capacity position units)))]

lemma lookup?_of_loadCommitment {key : Text} {table : Table} {data : Value}
    (hload : loadCommitment key table = .ok data) :
    table.lookup? (commitmentKey key) = some data := by
  unfold loadCommitment at hload
  split at hload
  · next found hfound =>
    obtain rfl := Except.ok.inj hload
    unfold present? at hfound
    split at hfound
    · cases hfound
    · exact hfound
  · cases hload

inductive Opened (body : Value) (table : Table) : Value → Prop
  | intro {key : Text} {position data prover inputs witness unit value kept : Value}
      {units : List ℕ} {point : G1} {digits digits' : Text} (hkey : keyOf? body = some key)
      (hposition : fieldOf? "position" body = some position)
      (hlookup : table.lookup? (commitmentKey key) = some data)
      (hprover : loadProver table = .ok prover) (hinputs : data.item (.text "inputs") = .ok inputs)
      (hread : Codec.readScalars inputs = .ok units)
      (hwitness : createWitness prover (.list (units.map .scalar)) position = .ok witness)
      (hunit : (Value.list (units.map .scalar)).item position = .ok unit)
      (hvalue : Codec.writeScalar unit = .ok value)
      (hkept : data.item (.text "commitment") = .ok kept) (hpoint : Codec.readG1 kept = .ok point)
      (hdigits : pointToHex (.ofG1 point) = .ok digits)
      (hdigits' : pointToHex witness = .ok digits') :
    Opened body table (.dict [("success", .bool true), ("key", .text key), ("position", position),
      ("value", value), ("commitment", .text digits), ("witness", .text digits')])

lemma opened_of_opening {body answered : Value} {table : Table}
    (hopened : opening body table = .ok answered) : Opened body table answered := by
  obtain ⟨fields, hfields, hopened⟩ := lift_bind_eq_ok hopened
  obtain ⟨keyField, hkeyField, hopened⟩ := lift_bind_eq_ok hopened
  obtain ⟨key, hkey, hopened⟩ := lift_bind_eq_ok hopened
  obtain ⟨position, hposition, hopened⟩ := lift_bind_eq_ok hopened
  obtain ⟨data, hdata, hopened⟩ := Outcome.bind_eq_ok hopened
  obtain ⟨prover, hprover, hopened⟩ := Outcome.bind_eq_ok hopened
  obtain ⟨inputs, hinputs, hopened⟩ := lift_bind_eq_ok hopened
  obtain ⟨units, hread, hopened⟩ := lift_bind_eq_ok hopened
  obtain ⟨witness, hwitness, hopened⟩ := lift_bind_eq_ok hopened
  obtain ⟨unit, hunit, hopened⟩ := lift_bind_eq_ok hopened
  obtain ⟨value, hvalue, hopened⟩ := lift_bind_eq_ok hopened
  obtain ⟨kept, hkept, hopened⟩ := lift_bind_eq_ok hopened
  obtain ⟨point, hpoint, hopened⟩ := lift_bind_eq_ok hopened
  obtain ⟨digits, hdigits, hopened⟩ := lift_bind_eq_ok hopened
  obtain ⟨digits', hdigits', hopened⟩ := lift_bind_eq_ok hopened
  obtain rfl := Except.ok.inj hopened
  exact .intro (keyOf?_eq hfields hkeyField hkey) (fieldOf?_eq hfields hposition)
    (lookup?_of_loadCommitment hdata) hprover hinputs hread hwitness hunit hvalue hkept hpoint
    hdigits hdigits'

lemma field_eq {fields : List (Text × Value)} {name : Text} {v : Value}
    (hfield : Value.lookup? name fields = some v) : field fields name = .ok v := by
  rw [field, hfield]

lemma of_respond {result : Handling Value} (hstatus : (respond result).status = 200) :
    ∃ body, result = .ok body := by
  cases result with
  | ok body => exact ⟨body, rfl⟩
  | error refusal =>
    rcases refusal with what | cause | cause <;> cases hstatus

section Initialized

variable {table : Table} {α capacity : ℕ} {data : Value} {entries : List Record}
  (hcapacity : 1 ≤ capacity)
  (hrecords : table.records = proverRow α capacity :: Record.ofData verifierKey data :: entries)
  (hentries : ∀ record ∈ entries, IsCommitment α capacity record)

include hrecords hentries in
lemma of_lookup?_commitment {key : Text} {found : Value}
    (hlookup : table.lookup? (commitmentKey key) = some found) :
    ∃ units : List ℕ, units.length ≤ capacity ∧ (∀ unit ∈ units, unit < groupOrder) ∧
      found = commitmentData α units := by
  have hstart := startsWith_commitmentKey key
  obtain ⟨record, hrecord, hkey, rfl⟩ := Table.exists_of_lookup? hlookup
  rw [hrecords, List.mem_cons, List.mem_cons] at hrecord
  rcases hrecord with rfl | rfl | hrecord
  · exact absurd hkey (Bool.eq_false_iff.mp (hasKey_parameters hstart _).1)
  · exact absurd hkey (Bool.eq_false_iff.mp (hasKey_parameters hstart _).2)
  · obtain ⟨key', units, -, hfits, hunits, rfl⟩ := hentries record hrecord
    exact ⟨units, hfits, hunits, rfl⟩

lemma item_units {units : List ℕ} {k : ℕ} (hk : k < units.length) :
    (Value.list (units.map .scalar)).item (.int k) = .ok (.scalar (units.getD k 0)) := by
  have hposition : position? (k : ℤ) (units.map scalar).length = some k := by
    have hnonneg : ¬((k : ℤ) < 0) := by omega
    have hinside : 0 ≤ (k : ℤ) ∧ (k : ℤ) < units.length := by omega
    rw [List.length_map, position?, if_neg hnonneg, if_pos hinside, Int.toNat_natCast]
  change itemAt (units.map scalar) k = _
  rw [itemAt, hposition, Option.bind_some, List.getElem?_map, List.getElem?_eq_getElem hk,
    List.getD_eq_getElem _ _ hk]
  rfl

lemma getD_lt {units : List ℕ} (hunits : ∀ unit ∈ units, unit < groupOrder) {k : ℕ}
    (hk : k < units.length) : units.getD k 0 < groupOrder := by
  rw [List.getD_eq_getElem _ _ hk]
  exact hunits _ (List.getElem_mem hk)

include hcapacity hrecords in
lemma of_opening (hentries : ∀ record ∈ entries, IsCommitment α capacity record)
    {body answered : Value} (hopened : opening body table = .ok answered) :
    ∃ (key : Text) (k : ℕ) (units : List ℕ), units.length ≤ capacity ∧
      (∀ unit ∈ units, unit < groupOrder) ∧ units.getD k 0 ≠ 0 ∧
      answered = openingBody α capacity key k units := by
  obtain ⟨_, _, hlookup, hprover, hinputs, hread, hwitness, hunit, hvalue, hkept, hpoint, hdigits,
    hdigits'⟩ := opened_of_opening hopened
  obtain ⟨units, hfits, hunits, rfl⟩ := of_lookup?_commitment hrecords hentries hlookup
  obtain rfl := Except.ok.inj (hprover.symm.trans (loadProver_eq hcapacity hrecords))
  obtain rfl := Except.ok.inj ((item_inputs units _).symm.trans hinputs)
  obtain rfl := Except.ok.inj ((Codec.readScalars_eq hunits).symm.trans hread)
  obtain ⟨k, rfl, hnonzero, rfl⟩ := of_createWitness hwitness
  have hposition := lt_of_getD_ne hnonzero
  obtain rfl := Except.ok.inj (hunit.symm.trans (item_units hposition))
  rw [Codec.writeScalar_scalar (getD_lt hunits hposition)] at hvalue
  obtain rfl := Except.ok.inj hvalue
  obtain rfl := Except.ok.inj ((item_commitment units _).symm.trans hkept)
  obtain rfl := Except.ok.inj (hpoint.symm.trans (Codec.readG1_multiple _))
  obtain rfl := Except.ok.inj (hdigits.symm.trans (pointToHex_multiple _))
  obtain rfl := Except.ok.inj (hdigits'.symm.trans (pointToHex_ofResidue _))
  exact ⟨_, k, units, hfits, hunits, hnonzero, rfl⟩

lemma verification_eq {base : Target} (hcapacity : 1 ≤ capacity)
    (hrecords : table.records = proverRow α capacity :: verifierRow base α capacity :: entries)
    {e : PairingMap} (h : e.IsBilinear base) {units : List ℕ} {k : ℕ}
    (hfits : units.length ≤ capacity) (hunits : ∀ unit ∈ units, unit < groupOrder)
    (hnonzero : units.getD k 0 ≠ 0) {fields : List (Text × Value)}
    (hcommitment : Value.lookup? "commitment" fields =
      some (.text (residueDigits (commitmentResidue α units))))
    (hwitness : Value.lookup? "witness" fields =
      some (.text (residueDigits (witnessResidue α capacity k units))))
    (hvalue : Value.lookup? "value" fields = some (Codec.scalarData (units.getD k 0)))
    (hposition : Value.lookup? "position" fields = some (.int k)) :
    verification e (.dict fields) table =
      .ok (.dict [("success", .bool true), ("result", .bool true)]) := by
  have hk := lt_of_getD_ne hnonzero
  have hunit := natCast_ne_zero hnonzero (getD_lt hunits hk)
  have haccepted : verify e (ofResidue (commitmentResidue α units))
      (Setup.verifierRecord base α capacity) (.scalar (units.getD k 0)) (.int k)
      (ofResidue (witnessResidue α capacity k units)) = .ok true :=
    verify_opened h hfits hk rfl hunit rfl
  have hverifier : loadVerifier table = .ok (Setup.verifierRecord base α capacity) :=
    loadVerifier_eq hcapacity hrecords
  have hread := Codec.readScalar_scalarData (getD_lt hunits hk)
  unfold verification
  rw [entriesOf, lift_ok_bind, field_eq hcommitment, lift_ok_bind, pointOfHex_residueDigits,
    lift_ok_bind, field_eq hwitness, lift_ok_bind, pointOfHex_residueDigits, lift_ok_bind,
    field_eq hvalue, lift_ok_bind, hread, lift_ok_bind, field_eq hposition, lift_ok_bind, hverifier]
  change (liftM (verify e _ _ _ _ _) : Handling Bool) >>= _ = _
  rw [haccepted]
  rfl

end Initialized

lemma opening_ne_ok {table : Table} (hrecords : table.records = []) (body answered : Value) :
    opening body table ≠ .ok answered := by
  intro hopened
  obtain ⟨fields, -, hopened⟩ := lift_bind_eq_ok hopened
  obtain ⟨keyField, -, hopened⟩ := lift_bind_eq_ok hopened
  obtain ⟨key, -, hopened⟩ := lift_bind_eq_ok hopened
  obtain ⟨position, -, hopened⟩ := lift_bind_eq_ok hopened
  obtain ⟨record, hrecord, -⟩ := Outcome.bind_eq_ok hopened
  rw [loadCommitment, present?, Table.lookup?, hrecords] at hrecord
  cases hrecord

theorem answered_opening_accepted {e : PairingMap} {base : Target} (h : e.IsBilinear base)
    (storage : Storage) (events : List Event) {settings : Settings} {drawn : ℕ} {request : Request}
    (hroute : route request = .found .opening (.perform true))
    (hstatus : (answer e settings drawn request (run e storage events)).1.status = 200) :
    ∃ (key : Text) (position value commitment witness : Value),
      (answer e settings drawn request (run e storage events)).1.body =
        .dict [("success", .bool true), ("key", .text key), ("position", position),
          ("value", value), ("commitment", commitment), ("witness", witness)] ∧
      ∀ (settings' : Settings) (drawn' : ℕ) (request' : Request) (fields : List (Text × Value)),
        route request' = .found .verification (.perform true) →
        bodyFor settings' .verification request' = .ok (.dict fields) →
        lookup? "commitment" fields = some commitment → lookup? "witness" fields = some witness →
        lookup? "value" fields = some value → lookup? "position" fields = some position →
        (answer e settings' drawn' request'
            (answer e settings drawn request (run e storage events)).2).1 =
          ⟨200, .dict [("success", .bool true), ("result", .bool true)]⟩ := by
  rw [answer_found hroute rfl] at hstatus ⊢
  obtain ⟨answered, hanswered⟩ := of_respond hstatus
  obtain ⟨body, -, hopened⟩ := lift_bind_eq_ok hanswered
  cases consistent_run h storage events with
  | empty hrecords => exact absurd hopened (opening_ne_ok hrecords body answered)
  | initialized hcapacity hrecords hentries =>
    obtain ⟨key, k, units, hfits, hunits, hnonzero, rfl⟩ :=
      of_opening hcapacity hrecords hentries hopened
    rw [hanswered]
    refine ⟨key, _, _, _, _, rfl, ?_⟩
    intro settings' drawn' request' fields hroute' hbody hcommitment hwitness hvalue hposition
    rw [answer_found hroute' rfl, hbody, lift_ok_bind, verification_eq hcapacity hrecords h hfits
      hunits hnonzero hcommitment hwitness hvalue hposition]
    rfl

def commitRequest : Request := post "/vc/commit" "\x7b\"key\": \"a\", \"inputs\": [3, 5]\x7d"

def openingRequest : Request := post "/vc/open" "\x7b\"key\": \"a\", \"position\": 1\x7d"

def verificationRequest : Request :=
  post "/vc/verify" (Text.ofString "\x7b\"commitment\": \"" ++ Text.ofBytes (26 • G1.generator).encode ++
    Text.ofString "\", \"witness\": \"" ++ Text.ofBytes (12 • G1.generator).encode ++
    Text.ofString "\", \"value\": \"5\", \"position\": 1\x7d")

noncomputable def committedTable : Table :=
  run logarithmPairing .memory
    [.request { capacity := .int 2 } 2 (post "/vc/setup" ""), .request {} 0 commitRequest]

lemma committedTable_eq : committedTable =
    (commit (.dict [("key", .text "a"), ("inputs", .list [.int 3, .int 5])])
      (drop commitmentStart (((Table.ofRecords .memory []).upsert proverKey
        (Setup.proverData 2 2)).upsert verifierKey (Setup.verifierData generatorTarget 2 2))
        (.dict [("success", .bool true), ("capacity", .int 2)])).2).2 := by
  have hsetup : route (post "/vc/setup" "") = .found .setup (.perform true) := by decide +kernel
  have hcommit : route commitRequest = .found .commit (.perform true) := by decide +kernel
  have hread : bodyFor { capacity := .int 2 } .setup (post "/vc/setup" "") = .ok .null := by
    decide +kernel
  have hread' : bodyFor {} .commit commitRequest =
      .ok (.dict [("key", .text "a"), ("inputs", .list [.int 3, .int 5])]) := by
    decide +kernel
  have hnew : newParameters logarithmPairing { capacity := .int 2 } 2 .null =
      .ok ⟨2, Setup.proverData 2 2, Setup.verifierData generatorTarget 2 2⟩ :=
    newParameters_null logarithmPairing_isBilinear (by decide) rfl rfl rfl
  rw [committedTable, run, List.foldl_cons, List.foldl_cons, List.foldl_nil, step, step,
    answer_found hsetup rfl, answer_found hcommit rfl, hread, hread', onBody, onBody, setup, hnew]

theorem answered_opening_accepted_second_position :
    (answer logarithmPairing {} 0 openingRequest committedTable).1.status = 200 ∧
      (answer logarithmPairing {} 0 verificationRequest
        (answer logarithmPairing {} 0 openingRequest committedTable).2).1 =
        ⟨200, .dict [("success", .bool true), ("result", .bool true)]⟩ := by
  have hroute : route openingRequest = .found .opening (.perform true) := by decide +kernel
  have hroute' : route verificationRequest = .found .verification (.perform true) := by
    decide +kernel
  have hfields : bodyFor {} .verification verificationRequest =
      .ok (.dict [("commitment", .text (Text.ofBytes (26 • G1.generator).encode)),
        ("witness", .text (Text.ofBytes (12 • G1.generator).encode)), ("value", .text "5"),
        ("position", .int 1)]) := by decide +kernel
  have hstatus : (answer logarithmPairing {} 0 openingRequest committedTable).1.status = 200 := by
    rw [answer_found hroute rfl, committedTable_eq]
    decide +kernel
  have hopened : (answer logarithmPairing {} 0 openingRequest committedTable).1.body =
      .dict [("success", .bool true), ("key", .text "a"), ("position", .int 1),
        ("value", .text "5"), ("commitment", .text (Text.ofBytes (26 • G1.generator).encode)),
        ("witness", .text (Text.ofBytes (12 • G1.generator).encode))] := by
    rw [answer_found hroute rfl, committedTable_eq]
    decide +kernel
  obtain ⟨key, position, value, commitment, witness, hbody, haccepted⟩ :=
    answered_opening_accepted logarithmPairing_isBilinear .memory _ hroute hstatus
  have hsame := hbody.symm.trans hopened
  simp only [Value.dict.injEq, List.cons.injEq, Prod.mk.injEq, true_and, and_true] at hsame
  obtain ⟨-, rfl, rfl, rfl, rfl⟩ := hsame
  exact ⟨hstatus, haccepted {} 0 verificationRequest _ hroute' hfields (by decide +kernel)
    (by decide +kernel) (by decide +kernel) (by decide +kernel)⟩

end VectorCommitment.Service
