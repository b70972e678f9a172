import Scribe.Configuration

/-!
# Permissions and attributes

The permissions of a file are a word of bits, of which the low twelve take effect. A file is
read-only if none of its three write bits is set. Attributes ask for other permissions: a mode takes
the place of the bits there are, and after that the write bits are taken away, or the owner's is
given. The main facts:

* `isReadOnly_lock`, `not_isReadOnly_unlock`: locking takes every write bit away, unlocking gives one.
* `applyTo_of_isEmpty`: attributes that ask for nothing change nothing.
* `applyTo_applyTo`: to ask for the same again changes nothing more.
-/

namespace Scribe

namespace Files

/-! ## Permissions -/

/-- The permission bits of a file or directory. -/
abbrev Mode := UInt32

namespace Mode

/-- The write bits of owner, group and others. -/
def writeBits : Mode := 0o222

/-- The write bit of the owner. -/
def ownerWriteBit : Mode := 0o200

/-- The bit by which a directory hands its group down. -/
def groupBit : Mode := 0o2000

/-- The permissions of a new file. The umask is taken to be 022, so that all may read the file and its
owner may write it. -/
def newFile : Mode := 0o644

/-- The permissions of a new directory, apart from the bit it may inherit. As for files, the umask is
taken to be 022. -/
def newDirectory : Mode := 0o755

/-- The bits that take effect. -/
def effective (m : Mode) : Mode := m &&& largestMode

/-- Whether no write bit is set. -/
def isReadOnly (m : Mode) : Bool := m &&& writeBits == 0

/-- Takes every write bit away. -/
def lock (m : Mode) : Mode := m &&& ~~~writeBits

/-- Gives the owner the right to write. -/
def unlock (m : Mode) : Mode := m ||| ownerWriteBit

theorem isReadOnly_lock (m : Mode) : m.lock.isReadOnly := by
  simp [isReadOnly, lock, UInt32.and_assoc]

theorem not_isReadOnly_unlock (m : Mode) : m.unlock.isReadOnly = false := by
  simp only [isReadOnly, unlock, beq_eq_false_iff_ne, ne_eq]
  intro h
  have bit := congrArg (fun w : Mode => w.toBitVec.getLsbD 7) h
  rw [UInt32.toBitVec_and, UInt32.toBitVec_or, BitVec.getLsbD_and, BitVec.getLsbD_or] at bit
  have owner : ownerWriteBit.toBitVec.getLsbD 7 = true := by decide
  have write : writeBits.toBitVec.getLsbD 7 = true := by decide
  rw [owner, write, Bool.or_true] at bit
  exact absurd bit (by decide)

@[simp] theorem lock_lock (m : Mode) : m.lock.lock = m.lock := by
  rw [lock, lock, UInt32.and_assoc, UInt32.and_self]

@[simp] theorem unlock_unlock (m : Mode) : m.unlock.unlock = m.unlock := by
  rw [unlock, unlock, UInt32.or_assoc, UInt32.or_self]

end Mode

/-! ## Attributes -/

/-- Permissions asked for. -/
structure Attributes where
  /-- Whether the file is to be read-only, or writable by its owner. -/
  readOnly : Option Bool := none
  mode : Option Mode := none
deriving DecidableEq

namespace Attributes

/-- Asks for a file that cannot be written. -/
def locked : Attributes := { readOnly := some true }

/-- Asks for a mode besides. -/
def withMode (a : Attributes) (mode : Mode) : Attributes := { a with mode := some mode }

/-- Whether nothing is asked for. -/
def isEmpty (a : Attributes) : Bool := a.readOnly.isNone && a.mode.isNone

/-- What settings ask for, if they ask for anything. -/
def ofSettings (s : WriteSettings) : Option Attributes :=
  let a : Attributes := { readOnly := s.readOnly, mode := s.mode }
  if a.isEmpty then none else some a

/-- The permissions with what is asked for: the mode first, so that `readOnly` has the last word. -/
def applyTo (a : Attributes) (m : Mode) : Mode :=
  let m := a.mode.getD m
  match a.readOnly with
  | some true => m.lock
  | some false => m.unlock
  | none => m

theorem applyTo_of_isEmpty {a : Attributes} (h : a.isEmpty) (m : Mode) : a.applyTo m = m := by
  obtain ⟨_ | _, _ | _⟩ := a <;> simp_all [isEmpty, applyTo]

theorem applyTo_applyTo (a : Attributes) (m : Mode) : a.applyTo (a.applyTo m) = a.applyTo m := by
  obtain ⟨_ | _ | _, _ | _⟩ := a <;> simp [applyTo]

end Attributes

end Files

end Scribe
