import Mathlib.Data.List.Find
import Mathlib.Data.List.Nodup
import Mathlib.Tactic.Lemma
import VectorCommitment.Proofs.Text.Surrogate
import VectorCommitment.Store.Table

namespace VectorCommitment

namespace Record

def ofData (key : Text) (data : Value) : Record := [(keyName, .text key), (dataName, data)]

variable (start key key' : Text) (value value' : Value)

lemma put_ofData : put key value (ofData key' value') = ofData key value := rfl

lemma startsWith?_ofData :
    startsWith? start (ofData key value) = some (Text.startsWith start key) := rfl

def IsPlain (record : Record) : Prop := ∃ key value, record = ofData key value

def update (key kept : Text) (value : Value) (record : Record) : Record :=
  if hasKey key record then ofData kept value else record

variable {key key'} (kept : Text)

variable {kept} {record : Record}

end Record

namespace Storage

def keepKey : Storage → Text → Text
  | memory, key => key
  | file, key => key.joinSurrogates

def keepValue : Storage → Value → Value
  | memory, v => v
  | file, v => v.joinSurrogates

lemma keepValue_eq (storage : Storage) {v : Value} (hv : v.joinSurrogates = v) :
    storage.keepValue v = v := by
  cases storage with
  | memory => rfl
  | file => exact hv

lemma keep_ofData (storage : Storage) (key : Text) {value : Value}
    (hvalue : value.joinSurrogates = value) :
    storage.keep (Record.ofData key value) = Record.ofData (storage.keepKey key) value := by
  cases storage with
  | memory => rfl
  | file =>
    change [(Record.keyName, Value.text key.joinSurrogates), (Record.dataName, value.joinSurrogates)]
      = _
    rw [hvalue]
    rfl

lemma keepKey_eq (storage : Storage) {key : Text} (hkey : ∀ c ∈ key, c < 0xD800) :
    storage.keepKey key = key := by
  cases storage with
  | memory => rfl
  | file => exact Text.joinSurrogates_eq hkey

lemma startsWith_keepKey (storage : Storage) {start key : Text} (hstart : ∀ c ∈ start, c < 0xD800)
    (hkey : Text.startsWith start key = true) :
    Text.startsWith start (storage.keepKey key) = true := by
  cases storage with
  | memory => exact hkey
  | file =>
    obtain ⟨rest, rfl⟩ := List.isPrefixOf_iff_prefix.mp hkey
    rw [keepKey, Text.joinSurrogates_append hstart]
    exact List.isPrefixOf_iff_prefix.mpr ⟨_, rfl⟩

end Storage

namespace Value

lemma joinAll_eq {items : List Value} (hitems : ∀ item ∈ items, item.joinSurrogates = item) :
    joinAll items = items := by
  induction items with
  | nil => rfl
  | cons item items ih =>
    rw [joinAll, hitems item List.mem_cons_self,
      ih fun item hitem => hitems item (List.mem_cons_of_mem _ hitem)]

lemma joinSurrogates_list {items : List Value}
    (hitems : ∀ item ∈ items, item.joinSurrogates = item) :
    (list items).joinSurrogates = list items := by
  rw [joinSurrogates, joinAll_eq hitems]

lemma joinSurrogates_map {α : Type} (f : α → Value) (items : List α)
    (hitems : ∀ item, (f item).joinSurrogates = f item) :
    (list (items.map f)).joinSurrogates = list (items.map f) := by
  apply joinSurrogates_list
  intro v hv
  obtain ⟨item, -, rfl⟩ := List.mem_map.mp hv
  exact hitems item

end Value

namespace Value

lemma mem_setEntry {key : Text} {v : Value} {entries : List (Text × Value)} {entry : Text × Value}
    (hentry : entry ∈ setEntry key v entries) : entry = (key, v) ∨ entry ∈ entries := by
  induction entries with
  | nil => exact Or.inl (List.mem_singleton.mp hentry)
  | cons first entries ih =>
    rw [setEntry] at hentry
    split at hentry
    · rcases List.mem_cons.mp hentry with rfl | hentry
      · exact Or.inl rfl
      · exact Or.inr (List.mem_cons_of_mem _ hentry)
    · rcases List.mem_cons.mp hentry with rfl | hentry
      · exact Or.inr List.mem_cons_self
      · exact (ih hentry).imp_right (List.mem_cons_of_mem _)

lemma mem_joinEntries {before entries : List (Text × Value)} {entry : Text × Value}
    (hentry : entry ∈ joinEntries before entries) :
    entry ∈ before ∨ ∃ old ∈ entries, entry = (old.1.joinSurrogates, old.2.joinSurrogates) := by
  induction entries generalizing before with
  | nil => exact Or.inl hentry
  | cons first entries ih =>
    rw [joinEntries] at hentry
    rcases ih hentry with hentry | ⟨old, hold, rfl⟩
    · rcases mem_setEntry hentry with rfl | hentry
      · exact Or.inr ⟨first, List.mem_cons_self, rfl⟩
      · exact Or.inl hentry
    · exact Or.inr ⟨old, List.mem_cons_of_mem _ hold, rfl⟩

lemma mem_of_lookup? {key : Text} {v : Value} {entries : List (Text × Value)}
    (hlookup : lookup? key entries = some v) : (key, v) ∈ entries := by
  obtain ⟨⟨key', v'⟩, hfind, rfl⟩ := Option.map_eq_some_iff.mp hlookup
  have hkey : decide (key' = key) = true :=
    List.find?_some (p := fun entry : Text × Value => entry.1 = key) hfind
  obtain rfl := of_decide_eq_true hkey
  exact List.mem_of_find?_eq_some hfind

lemma lookup?_cons (key : Text) (entry : Text × Value) (entries : List (Text × Value)) :
    lookup? key (entry :: entries) = if entry.1 = key then some entry.2 else lookup? key entries := by
  by_cases hkey : entry.1 = key <;> simp [lookup?, hkey]

lemma lookup?_setEntry_same (key : Text) (v : Value) (entries : List (Text × Value)) :
    lookup? key (setEntry key v entries) = some v := by
  induction entries with
  | nil => rw [setEntry, lookup?_cons, if_pos rfl]
  | cons entry entries ih =>
    rw [setEntry]
    split
    · rw [lookup?_cons, if_pos rfl]
    · next hne => rw [lookup?_cons, if_neg hne, ih]

lemma lookup?_setEntry_of_ne {key other : Text} (hne : key ≠ other) (v : Value)
    (entries : List (Text × Value)) :
    lookup? other (setEntry key v entries) = lookup? other entries := by
  induction entries with
  | nil => rw [setEntry, lookup?_cons, if_neg hne]
  | cons entry entries ih =>
    rw [setEntry]
    split
    · next hkey => rw [lookup?_cons, lookup?_cons, hkey, if_neg hne, if_neg hne]
    · rw [lookup?_cons, lookup?_cons, ih]

lemma names_setEntry_subset (key : Text) (v : Value) (entries : List (Text × Value)) :
    (setEntry key v entries).map Prod.fst ⊆ key :: entries.map Prod.fst := by
  intro name hname
  obtain ⟨entry, hentry, rfl⟩ := List.mem_map.mp hname
  rcases mem_setEntry hentry with rfl | hentry
  · exact List.mem_cons_self
  · exact List.mem_cons_of_mem _ (List.mem_map_of_mem hentry)

lemma nodup_setEntry (key : Text) (v : Value) {entries : List (Text × Value)}
    (hentries : (entries.map Prod.fst).Nodup) : ((setEntry key v entries).map Prod.fst).Nodup := by
  induction entries with
  | nil => exact List.nodup_singleton _
  | cons entry entries ih =>
    obtain ⟨hentry, hrest⟩ := List.nodup_cons.mp hentries
    rw [setEntry]
    split
    · next hkey => exact List.nodup_cons.mpr ⟨hkey ▸ hentry, hrest⟩
    · next hkey =>
      refine List.nodup_cons.mpr ⟨fun hmem => ?_, ih hrest⟩
      rcases List.mem_cons.mp (names_setEntry_subset key v entries hmem) with hsame | hmem
      · exact hkey hsame
      · exact hentry hmem

lemma lookup?_joinEntries {name : Text} (hname : ∀ c ∈ name, c < 0xD800)
    {entries : List (Text × Value)} (hentries : (entries.map Prod.fst).Nodup)
    (before : List (Text × Value)) :
    lookup? name (joinEntries before entries) =
      ((lookup? name entries).map joinSurrogates).or (lookup? name before) := by
  induction entries generalizing before with
  | nil => rfl
  | cons entry entries ih =>
    obtain ⟨key, v⟩ := entry
    obtain ⟨hkey, hrest⟩ := List.nodup_cons.mp hentries
    rw [joinEntries, ih hrest]
    by_cases hsame : key = name
    · subst hsame
      have hnone : lookup? key entries = none := by
        rw [Option.eq_none_iff_forall_ne_some]
        exact fun w hw => hkey (List.mem_map.mpr ⟨_, mem_of_lookup? hw, rfl⟩)
      rw [hnone, Text.joinSurrogates_eq hname, lookup?_setEntry_same, lookup?_cons, if_pos rfl]
      rfl
    · have hother : key.joinSurrogates ≠ name := by
        intro hjoined
        have hsame' := Text.eq_of_joinSurrogates (hjoined ▸ hname)
        exact hsame (hsame'.symm.trans hjoined)
      rw [lookup?_setEntry_of_ne hother, lookup?_cons, if_neg hsame]

end Value

namespace Storage

variable (storage : Storage) {record : Record} (hrecord : (record.map Prod.fst).Nodup) {key : Text}
  {value : Value}
include hrecord

lemma lookup?_keep_put {name : Text} (hname : ∀ c ∈ name, c < 0xD800) :
    Value.lookup? name (storage.keep (Record.put key value record)) =
      (Value.lookup? name (Record.put key value record)).map storage.keepValue := by
  cases storage with
  | memory => exact Option.map_id'.symm
  | file =>
    have hnames := Value.nodup_setEntry Record.dataName value
      (Value.nodup_setEntry Record.keyName (.text key) hrecord)
    exact (Value.lookup?_joinEntries hname hnames []).trans Option.or_none

lemma hasKey_keep_put (hkeep : storage.keepKey key = key) :
    Record.hasKey key (storage.keep (Record.put key value record)) = true := by
  have hkey : Value.lookup? Record.keyName (Record.put key value record) = some (.text key) := by
    rw [Record.put, Value.lookup?_setEntry_of_ne (by decide), Value.lookup?_setEntry_same]
  rw [Record.hasKey, storage.lookup?_keep_put hrecord (by decide), hkey]
  cases storage with
  | memory => exact decide_eq_true rfl
  | file => exact decide_eq_true hkeep

lemma data_keep_put (hvalue : value.joinSurrogates = value) :
    Record.data (storage.keep (Record.put key value record)) = value := by
  have hdata : Value.lookup? Record.dataName (Record.put key value record) = some value :=
    Value.lookup?_setEntry_same _ _ _
  rw [Record.data, storage.lookup?_keep_put hrecord (by decide), hdata, Option.map_some,
    storage.keepValue_eq hvalue]
  rfl

end Storage

namespace Record

def HasTextKey (record : Record) : Prop := ∀ v, (keyName, v) ∈ record → ∃ key, v = .text key

lemma hasTextKey_ofData (key : Text) (data : Value) : (ofData key data).HasTextKey := by
  intro v hv
  rcases List.mem_cons.mp hv with hkey | hv
  · exact ⟨key, congrArg Prod.snd hkey⟩
  · have hname := congrArg Prod.fst (List.mem_singleton.mp hv)
    exact absurd hname (show keyName ≠ dataName by decide)

variable {record : Record}

lemma HasTextKey.startsWith? (hrecord : record.HasTextKey) (start : Text) :
    (Record.startsWith? start record).isSome = true := by
  unfold Record.startsWith?
  split
  · rfl
  · next v hkey hlookup =>
    obtain ⟨key, rfl⟩ := hrecord v (Value.mem_of_lookup? hlookup)
    exact absurd rfl (hkey key)
  · rfl

lemma HasTextKey.put (hrecord : record.HasTextKey) (key : Text) (data : Value) :
    (Record.put key data record).HasTextKey := by
  intro v hv
  rcases Value.mem_setEntry hv with hdata | hv
  · exact absurd (congrArg Prod.fst hdata) (show keyName ≠ dataName by decide)
  · rcases Value.mem_setEntry hv with hkey | hv
    · exact ⟨key, congrArg Prod.snd hkey⟩
    · exact hrecord v hv

lemma HasTextKey.keep (hrecord : record.HasTextKey) (storage : Storage) :
    (storage.keep record).HasTextKey := by
  cases storage with
  | memory => exact hrecord
  | file =>
    intro v hv
    rcases Value.mem_joinEntries hv with hv | ⟨⟨key, w⟩, hold, hv⟩
    · cases hv
    · obtain ⟨hname, rfl⟩ := Prod.mk.inj hv
      have hsame : key.joinSurrogates = key := by
        apply Text.eq_of_joinSurrogates
        rw [← hname]
        decide
      obtain ⟨t, rfl⟩ := hrecord w (by rwa [hname, hsame])
      exact ⟨t.joinSurrogates, rfl⟩

end Record

namespace Table

variable {key : Text} {value : Value} {table : Table}

lemma exists_of_lookup? (hlookup : table.lookup? key = some value) :
    ∃ record ∈ table.records, Record.hasKey key record = true ∧ Record.data record = value := by
  obtain ⟨record, hfind, hdata⟩ := Option.map_eq_some_iff.mp hlookup
  exact ⟨record, List.mem_of_find?_eq_some hfind, List.find?_some hfind, hdata⟩

lemma upsert_absent (habsent : ∀ record ∈ table.records, Record.hasKey key record = false) :
    table.upsert key value =
      { table with records := table.records ++ [table.storage.keep (Record.ofData key value)] } := by
  have hany : table.records.any (Record.hasKey key) = false := by
    rw [List.any_eq_false]
    intro record hrecord
    rw [habsent record hrecord]
    exact Bool.false_ne_true
  rw [upsert, hany]
  rfl

lemma upsert_cons {record : Record} {rest : List Record} (hrecords : table.records = record :: rest)
    (hkey : Record.hasKey key record = false) :
    (table.upsert key value).records =
      record :: ({ table with records := rest }.upsert key value).records := by
  unfold upsert
  rw [hrecords, List.any_cons, hkey, Bool.false_or]
  dsimp only
  split
  · rw [List.map_cons, hkey]
    rfl
  · rfl

lemma upsert_head {record : Record} {rest : List Record} (hrecords : table.records = record :: rest)
    (hkey : Record.hasKey key record = true)
    (habsent : ∀ other ∈ rest, Record.hasKey key other = false) :
    (table.upsert key value).records =
      table.storage.keep (Record.put key value record) :: rest := by
  have hrest : (rest.map fun other => if Record.hasKey key other then
      table.storage.keep (Record.put key value other) else other) = rest := by
    refine (List.map_congr_left fun other hother => ?_).trans (List.map_id rest)
    rw [habsent other hother]
    rfl
  unfold upsert
  rw [hrecords, List.any_cons, hkey, Bool.true_or]
  dsimp only
  rw [if_pos rfl, List.map_cons, hkey, if_pos rfl, hrest]

lemma mem_upsert {record : Record} (hrecord : record ∈ (table.upsert key value).records) :
    record ∈ table.records ∧ Record.hasKey key record = false ∨
      ∃ old, (old ∈ table.records ∧ Record.hasKey key old = true ∨ old = []) ∧
        record = table.storage.keep (Record.put key value old) := by
  unfold upsert at hrecord
  dsimp only at hrecord
  split at hrecord
  · obtain ⟨old, hold, hrecord⟩ := List.mem_map.mp hrecord
    split at hrecord
    · next hkey => exact Or.inr ⟨old, Or.inl ⟨hold, hkey⟩, hrecord.symm⟩
    · next hkey => exact hrecord ▸ Or.inl ⟨hold, Bool.eq_false_iff.mpr hkey⟩
  · next hany =>
    rcases List.mem_append.mp hrecord with hold | hnew
    · exact Or.inl ⟨hold, Bool.eq_false_iff.mpr fun hkey =>
        hany (List.any_eq_true.mpr ⟨record, hold, hkey⟩)⟩
    · exact Or.inr ⟨[], Or.inr rfl, List.mem_singleton.mp hnew⟩

lemma lookup?_eq_some {record : Record} (hrecord : record ∈ table.records)
    (hkey : Record.hasKey key record = true)
    (hall : ∀ record ∈ table.records, Record.hasKey key record = true →
      Record.data record = value) : table.lookup? key = some value := by
  obtain ⟨found, hfound⟩ := Option.isSome_iff_exists.mp (List.find?_isSome.mpr ⟨record, hrecord, hkey⟩)
  rw [lookup?, hfound, Option.map_some,
    hall found (List.mem_of_find?_eq_some hfound) (List.find?_some hfound)]

lemma exists_hasKey_upsert (hnames : ∀ record ∈ table.records, (record.map Prod.fst).Nodup)
    (hkeep : table.storage.keepKey key = key) :
    ∃ record ∈ (table.upsert key value).records, Record.hasKey key record = true := by
  unfold upsert
  dsimp only
  split
  · next hany =>
    obtain ⟨record, hrecord, hkey⟩ := List.any_eq_true.mp hany
    refine ⟨_, List.mem_map_of_mem hrecord, ?_⟩
    rw [if_pos hkey]
    exact Storage.hasKey_keep_put _ (hnames record hrecord) hkeep
  · have hnone : (([] : Record).map Prod.fst).Nodup := List.nodup_nil
    exact ⟨_, List.mem_append_right _ List.mem_cons_self, Storage.hasKey_keep_put _ hnone hkeep⟩

lemma lookup?_upsert_same (hnames : ∀ record ∈ table.records, (record.map Prod.fst).Nodup)
    (hkeep : table.storage.keepKey key = key) (hvalue : value.joinSurrogates = value) :
    (table.upsert key value).lookup? key = some value := by
  obtain ⟨record, hrecord, hkey⟩ : ∃ record ∈ (table.upsert key value).records,
    Record.hasKey key record = true := exists_hasKey_upsert hnames hkeep
  refine lookup?_eq_some hrecord hkey fun other hother hotherkey => ?_
  rcases mem_upsert hother with ⟨-, habsent⟩ | ⟨old, hold, rfl⟩
  · exact absurd hotherkey (Bool.eq_false_iff.mp habsent)
  · refine Storage.data_keep_put _ ?_ hvalue
    rcases hold with ⟨hold, -⟩ | rfl
    · exact hnames old hold
    · exact List.nodup_nil

lemma hasTextKey_upsert (hkeys : ∀ record ∈ table.records, record.HasTextKey) (key : Text)
    (value : Value) : ∀ record ∈ (table.upsert key value).records, record.HasTextKey := by
  intro record hrecord
  rcases mem_upsert hrecord with ⟨hold, -⟩ | ⟨old, hold, rfl⟩
  · exact hkeys record hold
  · refine (Record.HasTextKey.put ?_ key value).keep table.storage
    rcases hold with ⟨hold, -⟩ | rfl
    · exact hkeys old hold
    · exact nofun

section Plain

variable (hplain : ∀ record ∈ table.records, record.IsPlain) (hvalue : value.joinSurrogates = value)
include hplain hvalue

lemma upsert_plain : (table.upsert key value).records =
    if table.records.any (Record.hasKey key) then
      table.records.map (Record.update key (table.storage.keepKey key) value)
    else table.records ++ [Record.ofData (table.storage.keepKey key) value] := by
  have hnew := Storage.keep_ofData table.storage key hvalue
  unfold upsert
  dsimp only
  split
  · apply List.map_congr_left
    intro record hrecord
    obtain ⟨key', value', rfl⟩ := hplain record hrecord
    rw [Record.put_ofData, hnew]
    rfl
  · rw [← hnew]
    rfl

variable (key) in
lemma isPlain_upsert : ∀ record ∈ (table.upsert key value).records, record.IsPlain := by
  intro record hrecord
  rw [upsert_plain hplain hvalue] at hrecord
  split at hrecord
  · obtain ⟨old, hold, rfl⟩ := List.mem_map.mp hrecord
    unfold Record.update
    split
    · exact ⟨_, _, rfl⟩
    · exact hplain old hold
  · rcases List.mem_append.mp hrecord with hold | hnew
    · exact hplain record hold
    · exact ⟨_, _, List.mem_singleton.mp hnew⟩

end Plain

lemma removeStarting?_eq {start : Text}
    (hkeys : ∀ record ∈ table.records, (Record.startsWith? start record).isSome = true) :
    table.removeStarting? start = some { table with
      records := table.records.filter fun record => Record.startsWith? start record != some true } :=
  if_pos (List.all_eq_true.mpr hkeys)

end Table

end VectorCommitment
