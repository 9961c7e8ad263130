import Mathlib.GroupTheory.OrderOfElement
import VectorCommitment.Proofs.Service.Ledger

/-! What the answers with the parameters show of the power that the current parameters keep back. -/

namespace VectorCommitment

open Point Value

namespace Setup

lemma proverPoints_eq (α capacity : ℕ) : proverPoints α capacity =
    (List.range (2 * capacity)).map fun k =>
      G1.generator.multiple (proverResidue α capacity k) := by
  apply List.map_injective_iff.mpr ofG1_injective
  rw [map_proverPoints, proverValues, List.map_map]
  rfl

lemma mem_proverPoints_iff {α M N : ℕ} (hM : 2 * M < orderOf (α : ZMod groupOrder))
    (hN : N + 1 < orderOf (α : ZMod groupOrder)) :
    α ^ (N + 1) • G1.generator ∈ proverPoints α M ↔ M ≠ N ∧ N < 2 * M := by
  have hne : (α : ZMod groupOrder) ≠ 0 := by
    intro hzero
    rw [hzero, orderOf_zero] at hN
    omega
  rw [proverPoints_eq, List.mem_map, ← multiple_natCast, Nat.cast_pow]
  constructor
  · rintro ⟨k, hk, hsame⟩
    have hlt := List.mem_range.mp hk
    have hresidue := multiple_injective hsame
    rw [proverResidue] at hresidue
    split at hresidue
    · exact absurd hresidue.symm (pow_ne_zero _ hne)
    · next hslot =>
      have hexponent : k + 1 = N + 1 :=
        pow_injOn_Iio_orderOf (Set.mem_Iio.mpr (by omega)) (Set.mem_Iio.mpr hN) hresidue
      omega
  · rintro ⟨hother, hlt⟩
    refine ⟨N, List.mem_range.mpr hlt, ?_⟩
    rw [proverResidue, if_neg (Ne.symm hother)]

end Setup

namespace Codec

lemma mem_map_g1Data_iff {p : G1} {points : List G1} (hp : p.isOnCurve = true)
    (hpoints : ∀ q ∈ points, q.isOnCurve = true) :
    g1Data p ∈ points.map g1Data ↔ p ∈ points := by
  refine ⟨fun hmem => ?_, List.mem_map_of_mem⟩
  obtain ⟨q, hq, hsame⟩ := List.mem_map.mp hmem
  have hread := readG1_g1Data (hpoints q hq)
  rw [hsame, readG1_g1Data hp] at hread
  rwa [Except.ok.inj hread]

end Codec

namespace Service

open Http

def Event.IsSeedless (settings : Settings) : Event → Prop
  | .request settings' _ sent => settings' = settings ∧
      (route sent = .found .setup (.perform true) →
        ∀ body, bodyFor settings .setup sent = .ok body → fieldOf? "seed" body = none)
  | .restart => True

inductive Seeded (settings : Settings) (α : ℕ) (table : Table) : Prop
  | empty (hrecords : table.records = [])
  | initialized {capacity : ℕ} {t : Target} {entries : List Record} (hcapacity : 1 ≤ capacity)
      (hallowed : settings.isAbove capacity = .ok false)
      (hrecords : table.records = proverRow α capacity :: verifierRowWith t α capacity :: entries)

section Run

variable {e : PairingMap} {events : List Event} {settings : Settings} {α : ℕ}
  (hα : ∀ drawn, Setup.trapdoor drawn settings.srsSeed = .ok α)
include hα

lemma Transition.seeded {drawn : ℕ} {request : Request} {response : Response} {table table' : Table}
    (htransition : Transition e events settings drawn request table response table')
    (hseed : route request = .found .setup (.perform true) →
      ∀ body, bodyFor settings .setup request = .ok body → fieldOf? "seed" body = none)
    (hseeded : Seeded settings α table) : Seeded settings α table' := by
  cases htransition with
  | quiet => exact hseeded
  | @setup t α' capacity body hroute hread hmakes =>
    obtain ⟨t', α'', capacity', hkept, -, -, -, htrapdoor, -⟩ :=
      exists_of_newParameters hmakes.kept
    rw [hseed hroute body hread, Option.getD_none, hα] at htrapdoor
    obtain rfl := Except.ok.inj htrapdoor
    have hcapacity : (capacity : ℤ) = capacity' := congrArg NewParameters.capacity hkept
    obtain rfl : capacity = capacity' := by omega
    have hprover : Setup.proverData α' capacity = Setup.proverData α capacity :=
      congrArg NewParameters.prover hkept
    have hverifier : Setup.verifierDataWith t α' capacity = Setup.verifierDataWith t' α capacity :=
      congrArg NewParameters.verifier hkept
    have hkept' : [proverRow α' capacity, verifierRowWith t α' capacity] =
        proverRow α capacity :: verifierRowWith t' α capacity :: [] := by
      rw [proverRow, verifierRowWith, hprover, hverifier]
      rfl
    exact .initialized hmakes.capacity_pos hmakes.allowed hkept'
  | @commit t α' capacity entries body key inputs units _ hinitialized =>
    cases hseeded with
    | empty hrecords =>
      rw [hinitialized.records] at hrecords
      cases hrecords
    | initialized hcapacity hallowed hrecords =>
      obtain ⟨entries', hrecords'⟩ := upsert_commitment hrecords key (commitmentData α' units)
      exact .initialized hcapacity hallowed hrecords'
  | clear => exact .empty rfl

lemma seeded_step {table : Table} (harranged : Arranged e events table) {event : Event}
    (hevent : event.IsSeedless settings) (hseeded : Seeded settings α table) :
    Seeded settings α (step e table event) := by
  cases event with
  | request settings' drawn request =>
    obtain ⟨rfl, hseed⟩ := hevent
    exact (transition harranged settings' drawn request).seeded hα hseed hseeded
  | restart =>
    rw [step]
    rcases reopen_eq table with hsame | hempty
    · rwa [hsame]
    · rw [hempty]
      exact .empty rfl

lemma seeded_run (e : PairingMap) (storage : Storage)
    (hevents : ∀ event ∈ events, event.IsSeedless settings) :
    Seeded settings α (run e storage events) := by
  have hboth : Arranged e events (run e storage events) ∧
      Seeded settings α (run e storage events) := by
    refine run_induction (P := fun table => Arranged e events table ∧ Seeded settings α table)
      ⟨.empty rfl, .empty rfl⟩ fun table htable event hevent => ?_
    exact ⟨arranged_step htable.1 hevent, seeded_step hα htable.1 (hevents event hevent) htable.2⟩
  exact hboth.2

end Run

section Shown

variable {e : PairingMap} {settings : Settings} {α : ℕ} {table : Table}
  (hseeded : Seeded settings α table)
include hseeded

lemma Seeded.of_loadProver {N : ℕ} {g : List Value} (hloaded : loadProver table = .ok (.prover N g)) :
    1 ≤ N ∧ settings.isAbove N = .ok false ∧ g = Setup.proverValues α N := by
  cases hseeded with
  | empty hrecords =>
    rw [loadProver_empty hrecords] at hloaded
    cases hloaded
  | initialized hcapacity hallowed hrecords =>
    rw [loadProver_eq hcapacity hrecords, Setup.proverRecord, Except.ok.injEq,
      Value.prover.injEq] at hloaded
    obtain ⟨rfl, rfl⟩ := hloaded
    exact ⟨hcapacity, hallowed, rfl⟩

lemma Seeded.of_parameters {body : Value} (hshown : parameters table = .ok body) :
    ∃ M : ℕ, settings.isAbove M = .ok false ∧
      fieldOf? "prover" body = some (Setup.proverData α M) := by
  cases hseeded with
  | empty hrecords =>
    rw [parameters_empty hrecords] at hshown
    cases hshown
  | initialized hcapacity hallowed hrecords =>
    rw [parameters_eq hcapacity hrecords] at hshown
    rw [← Except.ok.inj hshown]
    exact ⟨_, hallowed, rfl⟩

end Shown

lemma mem_shown_iff {α M N : ℕ} (hM : 2 * M < orderOf (α : ZMod groupOrder))
    (hN : N + 1 < orderOf (α : ZMod groupOrder)) {point : Value}
    (hpoint : Codec.writeG1 (.ofG1 (α ^ (N + 1) • G1.generator)) = .ok point) :
    point ∈ (Setup.proverPoints α M).map Codec.g1Data ↔ M ≠ N ∧ N < 2 * M := by
  have hon : G1.isOnCurve (α ^ (N + 1) • G1.generator) = true := by
    rw [← multiple_natCast]
    exact isOn_multiple _
  rw [Codec.writeG1_ofG1] at hpoint
  rw [← Except.ok.inj hpoint,
    Codec.mem_map_g1Data_iff hon fun q hq => Setup.isOnCurve_of_mem_proverPoints hq,
    Setup.mem_proverPoints_iff hM hN]

/-- In a run without seeds of its own, an answer with the parameters shows the power that the
current parameters keep back if and only if it is for another capacity and reaches that far. -/
theorem kept_back_shown_iff (e : PairingMap) (storage : Storage) {settings : Settings}
    {events : List Event} {α : ℕ} (hα : ∀ drawn, Setup.trapdoor drawn settings.srsSeed = .ok α)
    (horder : ∀ n : ℕ, settings.isAbove n = .ok false → 2 * n < orderOf (α : ZMod groupOrder))
    (hevents : ∀ event ∈ events, event.IsSeedless settings) {N : ℕ} {g : List Value}
    (hloaded : loadProver (run e storage events) = .ok (.prover N g)) :
    g[N]? = some .null ∧
      ∀ (before after : List Event) (drawn : ℕ) (request : Request),
        events = before ++ .request settings drawn request :: after →
        route request = .found .parameters (.perform true) →
        (answer e settings drawn request (run e storage before)).1.status = 200 →
        ∃ (M : ℕ) (prover : Value) (entries : List Value),
          fieldOf? "prover" (answer e settings drawn request (run e storage before)).1.body =
            some prover ∧
          fieldOf? "capacity" prover = some (.int M) ∧ fieldOf? "g" prover = some (.list entries) ∧
          ∀ point, Codec.writeG1 (.ofG1 (α ^ (N + 1) • G1.generator)) = .ok point →
            (point ∈ entries ↔ M ≠ N ∧ N < 2 * M) := by
  obtain ⟨hpos, hallowed, rfl⟩ := (seeded_run hα e storage hevents).of_loadProver hloaded
  have hN := horder N hallowed
  refine ⟨?_, ?_⟩
  · rw [Setup.proverValues, List.getElem?_map, List.getElem?_range (by omega), Option.map_some,
      Setup.proverResidue, if_pos rfl, ofResidue_zero]
  · rintro before after drawn request rfl hroute hstatus
    have hseeded : Seeded settings α (run e storage before) :=
      seeded_run hα e storage fun event hevent => hevents event (List.mem_append_left _ hevent)
    rw [answer_found hroute rfl] at hstatus ⊢
    obtain ⟨body, hshown⟩ := of_respond hstatus
    obtain ⟨M, hallowed', hprover⟩ := hseeded.of_parameters hshown
    rw [hshown]
    exact ⟨M, _, _, hprover, rfl, rfl, fun point hpoint =>
      mem_shown_iff (horder M hallowed') (by omega) hpoint⟩

section Seed

def seededSettings : Settings := { srsSeed := .text "s", maxCapacity := .int 2 }

def seededTrapdoor : ℕ := hashToScalar [0x73]

lemma trapdoor_seededSettings (drawn : ℕ) :
    Setup.trapdoor drawn seededSettings.srsSeed = .ok seededTrapdoor := by
  have hne : seededTrapdoor ≠ 0 := by decide +kernel
  have hseed : Value.text "s" ≠ .null := by simp
  have hwritten : (Value.text "s").write = .ok (Text.ofString "s") := rfl
  have hbytes : Text.encodeUtf8? (Text.ofString "s") = some [0x73] := rfl
  exact Setup.trapdoor_eq hseed hwritten hbytes hne drawn

lemma lt_orderOf_seededTrapdoor : 4 < orderOf (seededTrapdoor : ZMod groupOrder) := by
  have hne : (seededTrapdoor : ZMod groupOrder) ≠ 0 := by decide +kernel
  have hpowers : ∀ k < 5, 0 < k → (seededTrapdoor : ZMod groupOrder) ^ k ≠ 1 := by decide +kernel
  have hpos : 0 < orderOf (seededTrapdoor : ZMod groupOrder) := by
    rw [orderOf_pos_iff, isOfFinOrder_iff_pow_eq_one]
    exact ⟨groupOrder - 1, by decide, ZMod.pow_card_sub_one_eq_one hne⟩
  by_contra hle
  exact hpowers _ (by omega) hpos (pow_orderOf_eq_one _)

lemma order_seededSettings (n : ℕ) (hallowed : seededSettings.isAbove n = .ok false) :
    2 * n < orderOf (seededTrapdoor : ZMod groupOrder) := by
  have hle := le_of_isAbove hallowed rfl
  have hlt := lt_orderOf_seededTrapdoor
  omega

def setupFor (capacity : Text) : Request :=
  post "/vc/setup" (Text.ofString "\x7b\"capacity\": " ++ capacity ++ Text.ofString "\x7d")

def capacityBody (capacity : ℕ) : Value := .dict [("capacity", .int capacity)]

lemma records_setupFor {digits : Text} {capacity : ℕ} (before : List Event)
    (hread : bodyFor seededSettings .setup (setupFor digits) = .ok (capacityBody capacity))
    (hcapacity : 1 ≤ capacity) (hle : capacity ≤ 2) :
    ∃ t, (run logarithmPairing .memory
      (before ++ [.request seededSettings 0 (setupFor digits)])).records =
        [proverRow seededTrapdoor capacity, verifierRowWith t seededTrapdoor capacity] := by
  have hallowed : seededSettings.isAbove capacity = .ok false :=
    congrArg Except.ok (decide_eq_false (by omega))
  have hnew : newParameters logarithmPairing seededSettings 0 (capacityBody capacity) =
      .ok (keptParameters _ seededTrapdoor capacity) :=
    newParameters_eq logarithmPairing_isBilinear hcapacity hallowed (Or.inr ⟨_, rfl⟩) rfl
      (trapdoor_seededSettings 0)
  have hroute : route (setupFor digits) = .found .setup (.perform true) := route_setup _
  rw [run, List.foldl_append, ← run, List.foldl_cons, List.foldl_nil, step,
    answer_found hroute rfl, hread, onBody, setup_eq (arranged_run _ _ _) hnew]
  exact ⟨_, rfl⟩

def shownBetween (first second : Text) : List Event :=
  [.request seededSettings 0 (setupFor first)] ++
    .request seededSettings 0 (get "/vc/params") ::
      [.request seededSettings 0 (setupFor second)]

lemma isSeedless_shownBetween {first second : Text} {M N : ℕ}
    (hfirst : bodyFor seededSettings .setup (setupFor first) = .ok (capacityBody M))
    (hsecond : bodyFor seededSettings .setup (setupFor second) = .ok (capacityBody N)) :
    ∀ event ∈ shownBetween first second, event.IsSeedless seededSettings := by
  have hroute : route (get "/vc/params") = .found .parameters (.perform true) := by decide +kernel
  have hseed : ∀ capacity, fieldOf? "seed" (capacityBody capacity) = none := fun _ => rfl
  simp [shownBetween, Event.IsSeedless, hfirst, hsecond, hseed, hroute]

lemma loadProver_shownBetween {first second : Text} {capacity : ℕ}
    (hread : bodyFor seededSettings .setup (setupFor second) = .ok (capacityBody capacity))
    (hcapacity : 1 ≤ capacity) (hle : capacity ≤ 2) :
    loadProver (run logarithmPairing .memory (shownBetween first second)) =
      .ok (Setup.proverRecord seededTrapdoor capacity) := by
  obtain ⟨t, hrecords⟩ := records_setupFor
    [.request seededSettings 0 (setupFor first), .request seededSettings 0 (get "/vc/params")]
    hread hcapacity hle
  exact loadProver_eq hcapacity hrecords

lemma parameters_setupFor {digits : Text} {capacity : ℕ}
    (hread : bodyFor seededSettings .setup (setupFor digits) = .ok (capacityBody capacity))
    (hcapacity : 1 ≤ capacity) (hle : capacity ≤ 2) :
    ∃ verifier, (answer logarithmPairing seededSettings 0 (get "/vc/params")
      (run logarithmPairing .memory [.request seededSettings 0 (setupFor digits)])).1 =
        ⟨200, .dict [("prover", Setup.proverData seededTrapdoor capacity), ("verifier", verifier)]⟩ := by
  have hroute : route (get "/vc/params") = .found .parameters (.perform true) := by decide +kernel
  obtain ⟨t, hrecords⟩ := records_setupFor [] hread hcapacity hle
  rw [List.nil_append] at hrecords
  have hshown := parameters_eq hcapacity hrecords
  rw [answer_found hroute rfl]
  dsimp only
  rw [hshown]
  exact ⟨_, rfl⟩

lemma bodyFor_setupFor_one :
    bodyFor seededSettings .setup (setupFor "1") = .ok (capacityBody 1) := by
  decide +kernel

lemma bodyFor_setupFor_two :
    bodyFor seededSettings .setup (setupFor "2") = .ok (capacityBody 2) := by
  decide +kernel

end Seed

theorem kept_back_shown_iff_greater_capacity :
    ∃ prover entries, fieldOf? "prover" (answer logarithmPairing seededSettings 0 (get "/vc/params")
        (run logarithmPairing .memory [.request seededSettings 0 (setupFor "1")])).1.body =
          some prover ∧
      fieldOf? "g" prover = some (.list entries) ∧
      ∀ point, Codec.writeG1 (.ofG1 (seededTrapdoor ^ (2 + 1) • G1.generator)) = .ok point →
        point ∉ entries := by
  have hloaded : loadProver (run logarithmPairing .memory (shownBetween "1" "2")) =
      .ok (.prover 2 _) :=
    loadProver_shownBetween bodyFor_setupFor_two (by decide) le_rfl
  have hroute : route (get "/vc/params") = .found .parameters (.perform true) := by decide +kernel
  obtain ⟨verifier, hanswer⟩ := parameters_setupFor bodyFor_setupFor_one le_rfl (by decide)
  have hseedless : ∀ event ∈ shownBetween "1" "2", event.IsSeedless seededSettings :=
    isSeedless_shownBetween bodyFor_setupFor_one bodyFor_setupFor_two
  obtain ⟨-, hshown⟩ := kept_back_shown_iff logarithmPairing .memory trapdoor_seededSettings
    order_seededSettings hseedless hloaded
  obtain ⟨M, prover, entries, hprover, hcapacity, hentries, hpoints⟩ :=
    hshown _ _ 0 (get "/vc/params") rfl hroute (by rw [hanswer])
  refine ⟨prover, entries, hprover, hentries, fun point hpoint hmem => ?_⟩
  obtain ⟨-, hlt⟩ := (hpoints point hpoint).mp hmem
  rw [hanswer] at hprover
  obtain rfl := Option.some.inj hprover
  have hone : (1 : ℤ) = M := Value.int.inj (Option.some.inj hcapacity)
  omega

theorem kept_back_shown_iff_published :
    (∀ drawn, Setup.trapdoor drawn seededSettings.srsSeed = .ok seededTrapdoor) ∧
    seededSettings.maxCapacity = .int 2 ∧ 2 * 2 < orderOf (seededTrapdoor : ZMod groupOrder) ∧
    (∀ event ∈ shownBetween "2" "1", event.IsSeedless seededSettings) ∧
    ∃ g prover entries point,
      loadProver (run logarithmPairing .memory (shownBetween "2" "1")) = .ok (.prover 1 g) ∧
      Codec.writeG1 (.ofG1 (seededTrapdoor ^ (1 + 1) • G1.generator)) = .ok point ∧
      fieldOf? "prover" (answer logarithmPairing seededSettings 0 (get "/vc/params")
        (run logarithmPairing .memory [.request seededSettings 0 (setupFor "2")])).1.body =
          some prover ∧
      fieldOf? "g" prover = some (.list entries) ∧ point ∈ entries := by
  have hseedless : ∀ event ∈ shownBetween "2" "1", event.IsSeedless seededSettings :=
    isSeedless_shownBetween bodyFor_setupFor_two bodyFor_setupFor_one
  have hloaded : loadProver (run logarithmPairing .memory (shownBetween "2" "1")) =
      .ok (.prover 1 _) :=
    loadProver_shownBetween bodyFor_setupFor_one le_rfl (by decide)
  obtain ⟨verifier, hanswer⟩ := parameters_setupFor bodyFor_setupFor_two (by decide) le_rfl
  have horder := lt_orderOf_seededTrapdoor
  refine ⟨trapdoor_seededSettings, rfl, horder, hseedless, _, Setup.proverData seededTrapdoor 2,
    (Setup.proverPoints seededTrapdoor 2).map Codec.g1Data, _, hloaded, Codec.writeG1_ofG1 _, ?_,
    rfl, ?_⟩
  · rw [hanswer]
    rfl
  · exact (mem_shown_iff horder (by omega) (Codec.writeG1_ofG1 _)).mpr (by decide)

end Service

end VectorCommitment
