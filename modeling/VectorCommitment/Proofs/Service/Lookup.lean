import VectorCommitment.Proofs.Http.Route
import VectorCommitment.Proofs.Service.Atomicity
import VectorCommitment.Proofs.Service.Ledger

namespace VectorCommitment

open Http Value

lemma Text.isHighSurrogate_of_isScalar {c : Nat} (hc : isScalar c = true) :
    isHighSurrogate c = false := by
  have hbound := (isScalar_iff c).mp hc
  have hiff : isHighSurrogate c = false ↔ ¬0xD800 ≤ c ∨ ¬c < 0xDC00 := by
    simp only [isHighSurrogate, Bool.and_eq_false_iff, decide_eq_false_iff_not]
  rw [hiff]
  omega

lemma Storage.keepKey_of_isScalar (storage : Storage) {key : Text}
    (hkey : ∀ c ∈ key, Text.isScalar c = true) : storage.keepKey key = key := by
  cases storage with
  | memory => rfl
  | file =>
    exact Text.joinSurrogates_eq_of_not_high fun c hc => Text.isHighSurrogate_of_isScalar (hkey c hc)

namespace Service

variable {e : PairingMap} {settings : Settings} {drawn : ℕ} {table : Table} {key : Text}

lemma exists_of_commit {body answered : Value}
    (hnames : ∀ record ∈ table.records, (record.map Prod.fst).Nodup)
    (hkey : fieldOf? "key" body = some (.text key)) (hscalar : ∀ c ∈ key, Text.isScalar c = true)
    (hcommit : (commit body table).1 = .ok answered) :
    ∃ (units : List ℕ) (x : ZMod groupOrder),
      answered = .dict [("success", .bool true), ("key", .text key), ("length", .int units.length),
        ("commitment", .text (residueDigits x))] ∧
      (commit body table).2.lookup? (commitmentKey key) = some (entryData units x) := by
  cases hnew : newEntry body table with
  | error refusal =>
    rw [commit, hnew] at hcommit
    cases hcommit
  | ok entry =>
    obtain ⟨x, hcommitted⟩ := commit_of_newEntry hnew
    rw [hcommitted] at hcommit ⊢
    obtain rfl : entry.key = key := by
      obtain ⟨hentry, -⟩ := of_newEntry hnew
      rw [keyOf?, hkey] at hentry
      exact (Option.some.inj hentry).symm
    refine ⟨entry.units, x, (Except.ok.inj hcommit).symm, ?_⟩
    apply Table.lookup?_upsert_same hnames _ (joinSurrogates_entryData entry.units x)
    rw [keepKey_commitmentKey, Storage.keepKey_of_isScalar _ hscalar]

lemma answer_of_isSegment {units : List ℕ} {x : ZMod groupOrder} (hkey : IsSegment key)
    (hscalar : ∀ c ∈ key, Text.isScalar c = true)
    (hlookup : table.lookup? (commitmentKey key) = some (entryData units x)) :
    ∃ shown : Text, (answer e settings drawn (get (commitmentTarget key)) table).1 =
      ⟨200, .dict [("key", .text key), ("length", .int units.length),
        ("commitment", .text (residueDigits x)), ("display", .text shown)]⟩ := by
  obtain ⟨shown, hshown⟩ := commitment_entry hlookup
  have hroute : route (get (commitmentTarget key)) = .found (.commitment key) (.perform true) :=
    route_of_isSegment hscalar hkey
  rw [answer_found hroute rfl]
  exact ⟨shown, congrArg respond hshown⟩

lemma answer_of_not_isSegment (hkey : ¬IsSegment key)
    (hscalar : ∀ c ∈ key, Text.isScalar c = true) :
    (answer e settings drawn (get (commitmentTarget key)) table).1.status ∈ [404, 308] := by
  have hroute : route (get (commitmentTarget key)) = .moved ∨
      route (get (commitmentTarget key)) = .unknown := route_of_not_isSegment hscalar hkey
  rcases hroute with hmoved | hunknown
  · rw [answer, hmoved]
    exact List.mem_cons_of_mem _ List.mem_cons_self
  · rw [answer, hunknown]
    exact List.mem_cons_self

/-- What is committed under a key is read by the escaped key, exactly if the key is not empty and
has no slash. -/
theorem committed_key_read_iff {request : Request} {body : Value}
    (hnames : ∀ record ∈ table.records, (record.map Prod.fst).Nodup)
    (hroute : route request = .found .commit (.perform true))
    (hread : bodyFor settings .commit request = .ok body)
    (hkey : fieldOf? "key" body = some (.text key)) (hscalar : ∀ c ∈ key, Text.isScalar c = true)
    (hstatus : (answer e settings drawn request table).1.status = 200) :
    Draft.send ⟨"GET", commitmentTarget key, none, []⟩ = .ok (get (commitmentTarget key)) ∧
    ∃ (length : ℕ) (digits : Text),
      (answer e settings drawn request table).1.body =
        .dict [("success", .bool true), ("key", .text key), ("length", .int length),
          ("commitment", .text digits)] ∧
      ∀ (settings' : Settings) (drawn' : ℕ),
        (IsSegment key → ∃ shown : Text,
          (answer e settings' drawn' (get (commitmentTarget key))
              (answer e settings drawn request table).2).1 =
            ⟨200, .dict [("key", .text key), ("length", .int length), ("commitment", .text digits),
              ("display", .text shown)]⟩) ∧
        (¬IsSegment key →
          (answer e settings' drawn' (get (commitmentTarget key))
              (answer e settings drawn request table).2).1.status ∈ [404, 308]) := by
  rw [answer_found hroute rfl, hread, onBody] at hstatus ⊢
  obtain ⟨answered, hcommit⟩ := of_respond hstatus
  obtain ⟨units, x, rfl, hlookup⟩ := exists_of_commit hnames hkey hscalar hcommit
  refine ⟨(isBarePath_commitmentTarget key).send_eq "GET", units.length, residueDigits x, ?_, ?_⟩
  · rw [hcommit]
    rfl
  · intro settings' drawn'
    exact ⟨fun hsegment => answer_of_isSegment hsegment hscalar hlookup,
      fun hsegment => answer_of_not_isSegment hsegment hscalar⟩

def commitOne (key : Text) : Request :=
  post "/vc/commit" (Text.ofString "\x7b\"key\": \"" ++ key ++ Text.ofString "\", \"inputs\": [3]\x7d")

noncomputable def committedUnder (key : Text) : Table :=
  (answer logarithmPairing {} 0 (commitOne key) setupTable).2

theorem committed_key_read_iff_escaped :
    commitmentTarget "5% für?" = Text.ofString "/vc/commitments/5%25%20f%C3%BCr%3F" ∧
    (answer logarithmPairing {} 0 (get (commitmentTarget "5% für?"))
      (committedUnder "5% für?")).1.status = 200 := by
  have hnames : ∀ record ∈ setupTable.records, (record.map Prod.fst).Nodup := by
    intro record hrecord
    simp only [setupTable, List.mem_cons, List.not_mem_nil, or_false] at hrecord
    rcases hrecord with rfl | rfl <;> exact (by decide : [Record.keyName, Record.dataName].Nodup)
  have hroute : route (commitOne "5% für?") = .found .commit (.perform true) := by decide +kernel
  have hbody : bodyFor {} .commit (commitOne "5% für?") =
      .ok (.dict [("key", .text "5% für?"), ("inputs", .list [.int 3])]) := by
    decide +kernel
  have hstatus : (answer logarithmPairing {} 0 (commitOne "5% für?") setupTable).1.status = 200 := by
    decide +kernel
  obtain ⟨-, length, digits, -, hread⟩ :=
    committed_key_read_iff hnames hroute hbody rfl (by decide) hstatus
  obtain ⟨shown, hshown⟩ := (hread {} 0).1 (by decide)
  refine ⟨by decide +kernel, ?_⟩
  rw [committedUnder, hshown]

def openUnder (key : Text) : Request :=
  post "/vc/open" (Text.ofString "\x7b\"key\": \"" ++ key ++ Text.ofString "\", \"position\": 0\x7d")

theorem committed_key_read_iff_slash :
    ((answer logarithmPairing {} 0 (commitOne "a/b") setupTable).1.status = 200 ∧
      (answer logarithmPairing {} 0 (openUnder "a/b") (committedUnder "a/b")).1.status = 200 ∧
      commitmentTarget "a/b" = Text.ofString "/vc/commitments/a%2Fb" ∧
      (answer logarithmPairing {} 0 (get (commitmentTarget "a/b"))
        (committedUnder "a/b")).1.status = 404) ∧
    (answer logarithmPairing {} 0 (commitOne []) setupTable).1.status = 200 ∧
      (answer logarithmPairing {} 0 (openUnder []) (committedUnder [])).1.status = 200 ∧
      commitmentTarget [] = Text.ofString "/vc/commitments/" ∧
      (answer logarithmPairing {} 0 (get (commitmentTarget [])) (committedUnder [])).1.status =
        404 := by
  refine ⟨⟨?_, ?_, ?_, ?_⟩, ?_, ?_, ?_, ?_⟩ <;> decide +kernel

end Service

end VectorCommitment
