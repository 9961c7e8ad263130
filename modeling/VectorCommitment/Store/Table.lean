import VectorCommitment.Text.Basic
import VectorCommitment.Value.Basic

/-! The table that the service keeps. Keys need not differ; looking up takes the first record of a
key. -/

namespace VectorCommitment

abbrev Record := List (Text × Value)

namespace Record

def keyName : Text := "type"

def dataName : Text := "data"

def hasKey (key : Text) (record : Record) : Bool :=
  match Value.lookup? keyName record with
  | some (.text t) => t = key
  | _ => false

def data (record : Record) : Value := (Value.lookup? dataName record).getD .null

def put (key : Text) (data : Value) (record : Record) : Record :=
  Value.setEntry dataName data (Value.setEntry keyName (.text key) record)

/-- Whether the key of a record begins with a text; undecided of a key that is no text. A record
without a key does not begin with anything. -/
def startsWith? (start : Text) (record : Record) : Option Bool :=
  match Value.lookup? keyName record with
  | some (.text key) => some (Text.startsWith start key)
  | some _ => none
  | none => some false

end Record

namespace Value

mutual

def joinSurrogates : Value → Value
  | text t => text t.joinSurrogates
  | list items => list (joinAll items)
  | dict entries => dict (joinEntries [] entries)
  | v => v

def joinAll : List Value → List Value
  | [] => []
  | v :: vs => v.joinSurrogates :: joinAll vs

def joinEntries (before : List (Text × Value)) : List (Text × Value) → List (Text × Value)
  | [] => before
  | (key, v) :: entries =>
    joinEntries (setEntry key.joinSurrogates v.joinSurrogates before) entries

end

end Value

inductive Storage where
  | memory
  | file
deriving DecidableEq

/-- A record as it is found again. A file is written in units of 16 bits, so that surrogates side by
side come back as one character. -/
def Storage.keep (record : Record) : Storage → Record
  | memory => record
  | file => Value.joinEntries [] record

structure Table where
  storage : Storage
  records : List Record

namespace Table

def ofRecords (storage : Storage) (records : List Record) : Table :=
  ⟨storage, records.map storage.keep⟩

def lookup? (key : Text) (table : Table) : Option Value :=
  (table.records.find? (Record.hasKey key)).map Record.data

def upsert (key : Text) (data : Value) (table : Table) : Table :=
  let put (record : Record) : Record := table.storage.keep (Record.put key data record)
  if table.records.any (Record.hasKey key) then
    { table with
      records := table.records.map fun record =>
        if Record.hasKey key record then put record else record }
  else { table with records := table.records ++ [put []] }

def removeStarting? (start : Text) (table : Table) : Option Table :=
  if table.records.all fun record => (Record.startsWith? start record).isSome then
    some { table with
      records := table.records.filter fun record => Record.startsWith? start record != some true }
  else none

def reopen (table : Table) : Table :=
  match table.storage with
  | .memory => { table with records := [] }
  | .file => table

end Table

end VectorCommitment
