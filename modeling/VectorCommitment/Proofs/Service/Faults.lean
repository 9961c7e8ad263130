import VectorCommitment.Proofs.Json.Reader
import VectorCommitment.Proofs.Scheme.Faults
import VectorCommitment.Proofs.Service.Atomicity
import VectorCommitment.Proofs.Service.SetupBody

namespace VectorCommitment.Service

open Http Point Value

def Faultless {β : Type} (x : Handling β) : Prop := ∀ cause, x ≠ .error (.failed (.fault cause))

section Faultless

variable {β γ : Type}

lemma faultless_ok (b : β) : Faultless (.ok b) := nofun

lemma faultless_absent (what : Missing) : Faultless (absent what : Handling β) := nofun

lemma Faultless.bind {x : Handling β} {f : β → Handling γ} (hx : Faultless x)
    (hf : ∀ b, x = .ok b → Faultless (f b)) : Faultless (x >>= f) := by
  cases x with
  | error refusal =>
    intro cause hcause
    exact hx cause (congrArg Except.error (Except.error.inj hcause))
  | ok b => exact hf b rfl

lemma faultless_lift_bind {x : Outcome β} {f : β → Handling γ} (hx : Outcome.Faultless x)
    (hf : ∀ b, x = .ok b → Faultless (f b)) : Faultless ((liftM x : Handling β) >>= f) := by
  cases x with
  | error failure =>
    intro cause hcause
    cases failure with
    | rejected cause' => cases hcause
    | fault cause' => exact hx cause' rfl
  | ok b => exact hf b rfl

end Faultless

section Fields

variable {body v : Value} {fields : List (Text × Value)} {name : Text}

lemma faultless_entriesOf (body : Value) : Outcome.Faultless (entriesOf body) := by
  unfold entriesOf
  split
  · exact Outcome.faultless_ok _
  · exact Outcome.faultless_reject rfl

lemma faultless_field (fields : List (Text × Value)) (name : Text) :
    Outcome.Faultless (field fields name) := by
  unfold field
  split
  · exact Outcome.faultless_ok _
  · exact Outcome.faultless_reject rfl

lemma exists_fields (hfield : fieldOf? name body = some v) : ∃ fields, body = .dict fields := by
  cases body with
  | dict fields => exact ⟨fields, rfl⟩
  | _ => cases hfield

lemma isWritable_fieldOf? (hbody : body.isWritable = true) (hfield : fieldOf? name body = some v) :
    v.isWritable = true := by
  obtain ⟨fields, rfl⟩ := exists_fields hfield
  exact (entriesWritable_iff fields).mp hbody _ (mem_of_lookup? hfield)

end Fields

/-- The bodies that crash: of a setup that would be made from a text without an encoding, of a
commit to inputs of which the first that is no scalar has a numeral that is too long, and of a
verification of points on the curve with such a value. -/
inductive CrashingBody : Resource → Value → Prop
  | setup {body : Value} {n : ℤ} {t : Text} (hpos : 1 ≤ n) (hle : n ≤ 256)
      (hcapacity : (fieldOf? "capacity" body).getD (.int 16) = .int n)
      (hseed : fieldOf? "seed" body = some (.text t)) (hencode : Text.encodeUtf8? t = none) :
    CrashingBody .setup body
  | commit {body key : Value} {before after : List Value} {units : List ℕ} {t : Text} {digits : ℕ}
      (hkey : fieldOf? "key" body = some key)
      (hinputs : fieldOf? "inputs" body = some (.list (before ++ .text t :: after)))
      (hbefore : Codec.readScalars (.list before) = .ok units)
      (hlong : Text.readInt t = .error (.tooLong digits)) :
    CrashingBody .commit body
  | verification {body commitment witness : Value} {x y : Value} {t : Text} {digits : ℕ}
      (hcommitment : fieldOf? "commitment" body = some commitment)
      (hpoint : pointOfHex commitment = .ok x)
      (hwitness : fieldOf? "witness" body = some witness) (hpoint' : pointOfHex witness = .ok y)
      (hvalue : fieldOf? "value" body = some (.text t))
      (hlong : Text.readInt t = .error (.tooLong digits)) :
    CrashingBody .verification body

def bodyReaders : List Resource := [.setup, .commit, .opening, .verification]

/-- The requests that crash: their body is looked at, and it is nested too deep or crashes. -/
inductive Crashes (settings : Settings) (resource : Resource) (request : Request) : Prop
  | tooDeep (hresource : resource ∈ bodyReaders) (hjson : request.isJson = true)
      (hread : Json.readBytes (settings.nesting resource) request.body = .error .tooDeep)
  | body {body : Value} (hread : bodyFor settings resource request = .ok body)
      (hbody : CrashingBody resource body)

lemma crashes_brackets {settings : Settings} {resource : Resource} {request : Request}
    (hresource : resource ∈ bodyReaders) (hjson : request.isJson = true)
    (hbody : request.body = List.replicate (settings.nesting resource + 1) 0x5B) :
    Crashes settings resource request := by
  refine .tooDeep hresource hjson ?_
  rw [hbody, Json.readBytes_replicate]

section Setup

variable {e : PairingMap} {base : Target} (h : e.IsBilinear base) {nesting : Resource → ℕ}
  {drawn : ℕ} {body : Value}

include h

end Setup

section Commit

variable {base : Target} {body : Value} {table : Table}

lemma faultless_newEntry (hconsistent : Consistent base table) (hbody : body.isWritable = true)
    (hcrash : ¬CrashingBody .commit body) : Faultless (newEntry body table) := by
  refine faultless_lift_bind (faultless_entriesOf body) fun fields hfields => ?_
  refine faultless_lift_bind (faultless_field fields "key") fun keyField hkeyField => ?_
  have hkeyOf := fieldOf?_eq hfields hkeyField
  obtain ⟨key, hkey⟩ := exists_write (isWritable_fieldOf? hbody hkeyOf)
  rw [hkey, lift_ok_bind]
  refine faultless_lift_bind (faultless_field fields "inputs") fun inputs hinputs => ?_
  have hinputsOf := fieldOf?_eq hfields hinputs
  have hwritable := isWritable_fieldOf? hbody hinputsOf
  have hread : Outcome.Faultless (Codec.readScalars inputs) := by
    cases inputs with
    | list items =>
      refine Codec.faultless_readScalars ((allWritable_iff items).mp hwritable) ?_
      rintro before t after units digits rfl hbefore hlong
      exact hcrash (.commit hkeyOf hinputsOf hbefore hlong)
    | _ => exact Outcome.faultless_reject rfl
  refine faultless_lift_bind hread fun units _ => ?_
  cases hconsistent with
  | empty hrecords =>
    rw [loadProver_empty hrecords]
    exact faultless_absent _
  | @initialized α capacity _ hcapacity hrecords =>
    rw [loadProver_eq hcapacity hrecords, Outcome.ok_bind]
    exact faultless_lift_bind (faultless_commit α capacity units) fun _ _ => faultless_ok _

lemma faultless_commit (hconsistent : Consistent base table) (hbody : body.isWritable = true)
    (hcrash : ¬CrashingBody .commit body) : Faultless (commit body table).1 := by
  have hentry := faultless_newEntry hconsistent hbody hcrash
  cases hnew : newEntry body table with
  | error refusal =>
    rw [hnew] at hentry
    rw [commit, hnew]
    intro cause hcause
    exact hentry cause (congrArg _ (Except.error.inj hcause))
  | ok entry =>
    obtain ⟨x, hcommit⟩ := commit_of_newEntry hnew
    rw [hcommit]
    exact faultless_ok _

end Commit

section Read

variable {base : Target} {body : Value} {table : Table}

end Read

section Verification

variable {e : PairingMap} {base : Target} {body : Value} {table : Table}

end Verification

section Answers

variable {e : PairingMap} {base : Target} {nesting : Resource → ℕ} {drawn : ℕ} {request : Request}
  {table : Table} {resource : Resource} {performed : Handling Value × Table}

end Answers

end VectorCommitment.Service
