import PokerClient.Action
import PokerClient.Policy

/-!
# The credential store

One place in the secret store of the system holds the credential of the client.
Reading, writing and erasing the place are the only accesses to it. A read that
finds nothing usable empties the place, so that nobody sees a stale credential.
-/

namespace PokerClient

open Time Validation

/-- Where the secret slot is kept. -/
inductive StoreKind where
  | memory
  | keyring
  deriving DecidableEq, Repr

/-- How the keyring refuses a call. -/
structure KeyringFault where
  /-- Whether the keyring says that there was nothing to delete. -/
  nothingToDelete : Bool
  message : String
  deriving DecidableEq, Repr

/-- The calls that the keyring refuses. An operation makes each of them once at most. -/
structure Faults where
  read : Option KeyringFault := none
  write : Option KeyringFault := none
  erase : Option KeyringFault := none
  /-- The read that confirms a deletion. It goes like any other unless given apart. -/
  confirm : Option KeyringFault := read
  deriving DecidableEq, Repr

/-- The calls that the keyring refuses once it was asked to delete something. -/
def Faults.afterErase (faults : Faults) : Faults := { faults with read := faults.confirm }

/-- Under what circumstances an operation runs. -/
structure Conditions where
  now : Moment
  faults : Faults := {}

structure Store where
  kind : StoreKind := .memory
  service : String := defaultService
  account : String := defaultAccount
  policy : Policy := .standard
  deriving DecidableEq

namespace Store

def label (s : Store) : String := slotLabel s.service s.account

def refuse {α : Type} (s : Store) (request : StoreRequest) (reason : String) : Action α :=
  .fail (.secretStore request s.label reason)

/-- The text in the slot. -/
def read (s : Store) (faults : Faults) : Action (Option String) :=
  match s.kind with
  | .memory => .look
  | .keyring => do
    Action.noteCall .read
    match faults.read with
    | some fault => s.refuse .read fault.message
    | none => .look

/-- Replaces the text in the slot. -/
def write (s : Store) (faults : Faults) (blob : String) : Action Unit :=
  match s.kind with
  | .memory => .store (some blob)
  | .keyring => do
    Action.noteCall .write
    match faults.write with
    | some fault => s.refuse .write fault.message
    | none => .store (some blob)

/-- What follows when the keyring says that there was nothing to delete: it is
believed if the slot is empty. -/
def confirmErased (s : Store) (faults : Faults) (reason : String) : Action Unit := do
  match ← s.read faults.afterErase with
  | none => return ()
  | some _ => s.refuse .erase reason

/-- Empties the slot. An empty slot stays empty. -/
def erase (s : Store) (faults : Faults) : Action Unit :=
  match s.kind with
  | .memory => .store none
  | .keyring => do
    Action.noteCall .erase
    match faults.erase with
    | some fault =>
      if fault.nothingToDelete then s.confirmErased faults fault.message
      else s.refuse .erase fault.message
    | none =>
      match ← Action.look with
      | some _ => .store none
      | none => s.confirmErased faults "Password not found"

/-- What a text from the slot is worth. -/
inductive Verdict where
  | usable (c : Credential)
  | expired (c : Credential)
  | unreadable (issues : Nat)

/-- What a text from the slot is worth at a moment. -/
def judge (now : Moment) (blob : String) : Except Escape Verdict := do
  match ← Credential.ofBlob blob with
  | .invalid issues => return .unreadable issues.length
  | .valid c => return if ← c.isUsable now then .usable c else .expired c

/-- What follows when a text was read from the slot. -/
def settle (s : Store) (k : Conditions) (blob : String) : Action (Option Credential) := do
  match ← Action.ofEscape (judge k.now blob) with
  | .usable c => return some c
  | .unreadable issues =>
    Action.log .warning .store
      s!"Discarding unreadable credential in {s.label}: {issues} errors"
    s.erase k.faults
    return none
  | .expired c =>
    Action.log .debug .store
      s!"Credential in {s.label} expired at {(Moment.ofUtc c.expiresAt).text}, evicting"
    s.erase k.faults
    return none

/-- The credential in the slot, if it is usable. -/
def get (s : Store) (k : Conditions) : Action (Option Credential) := do
  match ← s.read k.faults with
  | none => return none
  | some blob => s.settle k blob

/-- Keeps a credential, which has to be one that can be written. -/
def set (s : Store) (k : Conditions) (c : Credential GivenText) : Action Unit := do
  let c ← Action.ofEscape c.writable
  s.write k.faults c.blob

/-- Forgets the credential. -/
def delete (s : Store) (k : Conditions) : Action Unit := s.erase k.faults

end Store

/-- A client: its store and its settings, and the codecs that there are where it runs. -/
structure Client where
  store : Store
  settings : Settings
  codecs : Text.Charset.Codecs := .ascii

end PokerClient
