import Todex.Lib.SharedFile
import Todex.Primitives

/-!
# The registry of paired devices

`devices.json` holds the paired devices. The daemon keeps a copy of it in memory, which it reloads
when the stamp of the file has changed, and writes back activity in batches. Other processes revoke
devices. Whoever reads, modifies and replaces the file holds its lock. The model goes from one file
access to the next.
-/

namespace Todex

structure DeviceRecord where
  deviceId : String
  name : String
  /-- Ed25519 public key, base64url without padding. -/
  publicKey : String
  pairedAt : Nat
  lastSeenAt : Option Nat
deriving DecidableEq

/-- `MAX_DEVICES`. -/
def maxDevices : Nat := 256

/-- Derived from the public key, so pairing a key again updates the same record. -/
def deviceIdFor (P : Primitives) (publicKey : Bytes) : String :=
  "dev_" ++ P.encodeBase64 ((P.sha256 publicKey).take 12)

abbrev Devices := Std.ExtTreeMap String DeviceRecord compare

/-! ### The daemon -/

/-- The daemon's copy of the file. -/
structure RegistryInner where
  devices : Devices
  stamp : Nat
  /-- Activity that is not in the file yet. -/
  dirty : Bool

/-- What the daemon does with the registry. `touch` is a step of its own. -/
inductive RegistryOp
  /-- `load` when the daemon starts. -/
  | load
  | register (record : DeviceRecord)
  | get (deviceId : String)
  /-- `flush` at shutdown, and `flush_if_due`. -/
  | flush

/-- Whether the operation may write, and so holds the lock. -/
def RegistryOp.locks : RegistryOp → Bool
  | .load => false
  | .register _ => true
  | .get _ => false
  | .flush => true

/-- What the daemon's operation does next. -/
inductive RegistryTask
  | idle
  /-- Wait for the lock. -/
  | locking (op : RegistryOp)
  /-- Compare the stamp of the file. -/
  | checking (op : RegistryOp)
  /-- Read the metadata of a file that has changed. -/
  | stating (op : RegistryOp)
  /-- Read the content of the file. -/
  | reading (op : RegistryOp) (stamp : Nat)
  /-- Replace the file. -/
  | writing (op : RegistryOp)

/-! ### Revocations by other processes -/

/-- `revoke_device` or `revoke_all_devices`. -/
inductive Revocation
  | one (deviceId : String)
  | all
deriving DecidableEq

def Revocation.covers (deviceId : String) : Revocation → Bool
  | .one target => target = deviceId
  | .all => true

/-- What a revocation does next. -/
inductive RevocationTask
  | idle
  | locking (target : Revocation)
  | reading (target : Revocation)
  | writing (target : Revocation) (devices : Devices)

/-! ### States and steps -/

inductive RegistryParty
  | daemon
  | revocation (process : Nat)
deriving DecidableEq

/-- What has happened so far. -/
inductive RegistryEvent
  /-- `register` put a record into the daemon's copy. -/
  | registering (record : DeviceRecord)
  /-- `register` replaced the file. -/
  | registered (record : DeviceRecord)
  /-- `register` could not replace the file. -/
  | registerFailed (record : DeviceRecord)
  | got (deviceId : String) (record : Option DeviceRecord)
  /-- A revocation replaced the file. -/
  | revoked (target : Revocation)
  /-- `revoke_device` did not find the device in the file. -/
  | notFound (deviceId : String)

structure RegistryState where
  /-- The versions of `devices.json`; one that does not parse has no devices. -/
  file : SharedFile (Option Devices)
  lock : Option RegistryParty
  inner : RegistryInner
  task : RegistryTask
  revocations : Nat → RevocationTask
  /-- Newest first. -/
  log : List RegistryEvent

namespace RegistryState

/-- A daemon that starts. -/
def initial (file : SharedFile (Option Devices)) : RegistryState where
  file
  lock := none
  inner := { devices := ∅, stamp := 0, dirty := false }
  task := .stating .load
  revocations := fun _ => .idle
  log := []

/-- The end of the daemon's operation releases the lock it may hold. -/
def finish (self : RegistryState) : RegistryState :=
  { self with
    task := .idle
    lock := self.lock.filter (· ≠ .daemon) }

def note (self : RegistryState) (event : RegistryEvent) : RegistryState :=
  { self with log := event :: self.log }

/-- The daemon's operation goes on after `reload_if_changed`. -/
def resume (self : RegistryState) (reloaded : Bool) : RegistryOp → RegistryState
  | .load => self.finish
  | .register record =>
    if maxDevices ≤ self.inner.devices.size ∧ record.deviceId ∉ self.inner.devices then self.finish
    else
      { self.note (.registering record) with
        inner := { self.inner with
          devices := self.inner.devices.insert record.deviceId record }
        task := .writing (.register record) }
  | .get deviceId => (self.note (.got deviceId self.inner.devices[deviceId]?)).finish
  | .flush =>
    if reloaded ∨ self.inner.dirty = false then self.finish else { self with task := .writing .flush }

lemma resume_register (self : RegistryState) (reloaded : Bool) {record : DeviceRecord}
    (h : ¬ (maxDevices ≤ self.inner.devices.size ∧ record.deviceId ∉ self.inner.devices)) :
    self.resume reloaded (.register record) =
      { self.note (.registering record) with
        inner := { self.inner with
          devices := self.inner.devices.insert record.deviceId record }
        task := .writing (.register record) } :=
  if_neg h

/-- `touch` of a device the daemon knows. -/
def touch (self : RegistryState) (deviceId : String) (record : DeviceRecord) (now : Nat) :
    RegistryState :=
  { self with inner := { self.inner with
      devices := self.inner.devices.insert deviceId { record with lastSeenAt := some now }
      dirty := true } }

/-- `Inner::write`. -/
def write (self : RegistryState) : RegistryState :=
  { self with
    file := self.file.replace (some self.inner.devices)
    inner := { self.inner with stamp := self.file.stamp + 1, dirty := false } }

def setRevocation (self : RegistryState) (process : Nat) (task : RevocationTask) : RegistryState :=
  { self with revocations := Function.update self.revocations process task }

@[simp] lemma setRevocation_self (self : RegistryState) (process : Nat) (task : RevocationTask) :
    (self.setRevocation process task).revocations process = task :=
  Function.update_self ..

lemma setRevocation_of_ne (self : RegistryState) (task : RevocationTask) (h : other ≠ process) :
    (self.setRevocation process task).revocations other = self.revocations other :=
  Function.update_of_ne h ..

/-- The end of a revocation releases the lock it may hold. -/
def finishRevocation (self : RegistryState) (process : Nat) : RegistryState :=
  { self.setRevocation process .idle with
    lock := self.lock.filter (· ≠ .revocation process) }

end RegistryState

/-- One file access or lock acquisition of one of the processes. `Meets` is asked of what has happened when
`revoke_device` does not find its device. -/
inductive RegistryStep (Meets : List RegistryEvent → String → Prop) : RegistryState → RegistryState → Prop
  /-- The daemon begins an operation. One is under way at a time. -/
  | start {s : RegistryState} (op : RegistryOp) : s.task = .idle →
      RegistryStep Meets s { s with task := if op.locks then .locking op else .checking op }
  | touch {s : RegistryState} {record : DeviceRecord} {deviceId : String} (now : Nat) :
      s.task = .idle → s.inner.devices[deviceId]? = some record →
      RegistryStep Meets s (s.touch deviceId record now)
  | acquire {s : RegistryState} {op : RegistryOp} : s.task = .locking op → s.lock = none →
      RegistryStep Meets s { s with lock := some .daemon, task := .checking op }
  | unchanged {s : RegistryState} {op : RegistryOp} : s.task = .checking op →
      s.file.stamp = s.inner.stamp → RegistryStep Meets s (s.resume false op)
  | changed {s : RegistryState} {op : RegistryOp} : s.task = .checking op →
      s.file.stamp ≠ s.inner.stamp → RegistryStep Meets s { s with task := .stating op }
  | stat {s : RegistryState} {op : RegistryOp} : s.task = .stating op →
      RegistryStep Meets s { s with task := .reading op s.file.stamp }
  /-- There was no file. -/
  | missing {s : RegistryState} {op : RegistryOp} : s.task = .reading op 0 →
      RegistryStep Meets s (({ s with inner := { devices := ∅, stamp := 0, dirty := false } }).resume
        true op)
  | read {s : RegistryState} {op : RegistryOp} {stamp : Nat} {devices : Devices} :
      s.task = .reading op stamp → stamp ≠ 0 → s.file.content = some (some devices) →
      RegistryStep Meets s (({ s with inner := { devices, stamp, dirty := false } }).resume true op)
  | write {s : RegistryState} {op : RegistryOp} : s.task = .writing op →
      RegistryStep Meets s (match op with
        | .register record => (s.write.note (.registered record)).finish
        | _ => s.write.finish)
  /-- An operation fails at a file access, or the file does not parse. -/
  | fail {s : RegistryState} : RegistryStep Meets s (match s.task with
      | .writing (.register record) => (s.note (.registerFailed record)).finish
      | _ => s.finish)
  /-- The daemon stops and starts again. -/
  | restart {s : RegistryState} : RegistryStep Meets s
      { s.finish with
        inner := { devices := ∅, stamp := 0, dirty := false }
        task := .stating .load }
  | revoke {s : RegistryState} {process : Nat} (target : Revocation) :
      s.revocations process = .idle → RegistryStep Meets s (s.setRevocation process (.locking target))
  | acquireRevocation {s : RegistryState} {process : Nat} {target : Revocation} :
      s.revocations process = .locking target → s.lock = none →
      RegistryStep Meets s { s.setRevocation process (.reading target) with
        lock := some (.revocation process) }
  /-- `revoke_device` finds the device. -/
  | readOne {s : RegistryState} {process : Nat} {deviceId : String} {devices : Devices} :
      s.revocations process = .reading (.one deviceId) → s.file.content = some (some devices) →
      deviceId ∈ devices →
      RegistryStep Meets s (s.setRevocation process (.writing (.one deviceId) (devices.erase deviceId)))
  /-- `revoke_device` finds no such device, or no file. -/
  | readNone {s : RegistryState} {process : Nat} {deviceId : String} :
      s.revocations process = .reading (.one deviceId) →
      (∀ devices ∈ s.file.content, ∃ known, devices = some known ∧ deviceId ∉ known) →
      Meets s.log deviceId →
      RegistryStep Meets s ((s.note (.notFound deviceId)).finishRevocation process)
  /-- `revoke_all_devices` goes on whatever the file holds. -/
  | readAll {s : RegistryState} {process : Nat} : s.revocations process = .reading .all →
      RegistryStep Meets s (s.setRevocation process (.writing .all ∅))
  | writeRevocation {s : RegistryState} {process : Nat} {target : Revocation} {devices : Devices} :
      s.revocations process = .writing target devices →
      RegistryStep Meets s (({ s with file := s.file.replace (some devices) }.note
        (.revoked target)).finishRevocation process)
  | failRevocation {s : RegistryState} (process : Nat) :
      RegistryStep Meets s (s.finishRevocation process)

/-- The states that the processes can reach. -/
inductive RegistryRun (Meets : List RegistryEvent → String → Prop) (file : SharedFile (Option Devices)) :
    RegistryState → Prop
  | start : RegistryRun Meets file (.initial file)
  | step {s s' : RegistryState} : RegistryRun Meets file s → RegistryStep Meets s s' → RegistryRun Meets file s'

end Todex
