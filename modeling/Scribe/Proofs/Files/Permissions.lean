import Scribe.Files.Attributes

/-!
# Locking, unlocking and modes

Attributes ask for up to three things of a mode: to be replaced, to lose all write bits, or to gain the
owner's. These do not undo one another. Unlocking gives one of the bits that locking takes, whichever
of them were there before, so only what was locked is the same again after an unlocking and a locking.
All three leave the bits that are no write bits as the mode asked for has them, and that is what the
laws here come from.

- `Mode.writeBits_or_lock`: a mode is made of its write bits and of what locking leaves.
- `Mode.lock_unlock`: locking takes what unlocking gives.
- `Mode.lock_eq_self_iff`: nothing is taken from what is read-only, and from nothing else.
- `Attributes.lock_applyTo`, `Attributes.isReadOnly_applyTo`: what attributes do to the two parts.
- `Attributes.attributes_applied`: the contract of attributes.
-/

namespace Scribe

namespace Files

namespace Mode

/-! ## The two parts of a mode -/

theorem isReadOnly_iff {m : Mode} : m.isReadOnly ↔ m &&& writeBits = 0 := beq_iff_eq

/-- A mode is made of its write bits and of all others. -/
theorem writeBits_or_lock (m : Mode) : m &&& writeBits ||| m.lock = m := by
  have hdistrib : m &&& (writeBits ||| ~~~writeBits) =
      m &&& writeBits ||| m &&& ~~~writeBits :=
    UInt32.toBitVec_inj.mp BitVec.and_or_distrib_left
  have hall : writeBits ||| ~~~writeBits = -1 := by decide
  rw [lock, ← hdistrib, hall, UInt32.and_neg_one]

theorem lock_eq_self_iff {m : Mode} : m.lock = m ↔ m.isReadOnly := by
  constructor
  · intro h
    rw [← h]
    exact isReadOnly_lock m
  · intro h
    have hparts := writeBits_or_lock m
    rwa [isReadOnly_iff.mp h, UInt32.zero_or] at hparts

/-- The bit that unlocking gives is one of those that locking takes. -/
theorem lock_unlock (m : Mode) : m.unlock.lock = m.lock := by
  have howner : ownerWriteBit &&& ~~~writeBits = 0 := by decide
  have hdistrib : (m ||| ownerWriteBit) &&& ~~~writeBits =
      m &&& ~~~writeBits ||| ownerWriteBit &&& ~~~writeBits :=
    UInt32.toBitVec_inj.mp BitVec.and_or_distrib_right
  rw [unlock, lock, hdistrib, howner, UInt32.or_zero, ← lock]

end Mode

namespace Attributes

variable {a : Attributes}

/-! ## What attributes do to them -/

/-- Attributes do nothing to the bits that are no write bits but to ask for others. -/
theorem lock_applyTo (a : Attributes) (m : Mode) : (a.applyTo m).lock = (a.mode.getD m).lock := by
  obtain ⟨readOnly, mode⟩ := a
  cases readOnly with
  | none => rfl
  | some locked =>
    cases locked with
    | true => exact Mode.lock_lock _
    | false => exact Mode.lock_unlock _

/-- Attributes decide whether a file is read-only, or leave it to the mode. -/
theorem isReadOnly_applyTo (a : Attributes) (m : Mode) :
    (a.applyTo m).isReadOnly = a.readOnly.getD (a.mode.getD m).isReadOnly := by
  obtain ⟨readOnly, mode⟩ := a
  cases readOnly with
  | none => rfl
  | some locked =>
    cases locked with
    | true => exact Mode.isReadOnly_lock _
    | false => exact Mode.not_isReadOnly_unlock _

/-- Where a mode is asked for, nothing is left of the one that was there. -/
theorem applyTo_congr (h : a.mode.isSome) (m n : Mode) : a.applyTo m = a.applyTo n := by
  obtain ⟨mode, hmode⟩ := Option.isSome_iff_exists.mp h
  rw [applyTo, applyTo, hmode, Option.getD_some, Option.getD_some]

/-- **What attributes make of a mode.** To apply attributes twice is to apply them once. What they make
is read-only if they ask for that, and not if they ask for the contrary; if they ask for neither, it is
read-only exactly if there is no write bit in the mode that they ask for, or find. It differs from that
mode in write bits only. Attributes that ask for a mode make the same of what others left as they would
have without them. And the modes that are the same again when they are unlocked and then locked are
those that are read-only. -/
theorem attributes_applied (a b : Attributes) (m : Mode) :
    a.applyTo (a.applyTo m) = a.applyTo m ∧
    ((a.applyTo m).isReadOnly ↔
      a.readOnly = some true ∨ a.readOnly = none ∧ a.mode.getD m &&& Mode.writeBits = 0) ∧
    a.applyTo m &&& ~~~Mode.writeBits = a.mode.getD m &&& ~~~Mode.writeBits ∧
    (b.mode.isSome → b.applyTo (a.applyTo m) = b.applyTo m) ∧
    (locked.applyTo m.unlock = m ↔ m.isReadOnly) := by
  refine ⟨a.applyTo_applyTo m, ?_, a.lock_applyTo m, fun h => applyTo_congr h _ _, ?_⟩
  · rw [isReadOnly_applyTo, ← Mode.isReadOnly_iff]
    cases a.readOnly with
    | none => simp
    | some locked => cases locked <;> simp
  · rw [← Mode.lock_eq_self_iff, ← Mode.lock_unlock]
    exact Iff.rfl

/-- A file that all may write is locked, and then gets a mode; and a locked file is unlocked for a
while. -/
theorem locked_and_unlocked :
    let a : Attributes := { readOnly := some true, mode := some 0o4777 }
    let b : Attributes := { readOnly := some false, mode := some 0o40 }
    b.mode.isSome ∧ (a.applyTo 0o600).isReadOnly ∧ a.applyTo 0o600 = 0o4555 ∧
      b.applyTo (a.applyTo 0o600) = b.applyTo 0o600 ∧ b.applyTo 0o600 = 0o240 ∧
      locked.applyTo (Mode.unlock 0o4555) = 0o4555 := by
  intro a b
  obtain ⟨-, hreadOnly, -, hmode, -⟩ := attributes_applied a b 0o600
  obtain ⟨-, -, -, -, hagain⟩ := attributes_applied a b 0o4555
  exact ⟨rfl, hreadOnly.mpr (.inl rfl), by decide, hmode rfl, by decide, hagain.mpr (by decide)⟩

end Attributes

end Files

end Scribe
