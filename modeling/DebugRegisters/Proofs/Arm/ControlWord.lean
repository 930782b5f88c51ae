import DebugRegisters.Arm.RegisterBlock

/-!
# Reading control words

A control word that arms a point gives back the point's kind and byte mask, so a
pair of a bank tells which bytes it watches and for what.
-/

set_option autoImplicit false

namespace DebugRegisters.Arm

namespace ControlWord

/-- There are few enough masks to look at each of them. -/
theorem forall_mask {holds : ByteMask → Prop} (all : ∀ bits < 256, holds ⟨UInt8.ofNat bits⟩)
    (mask : ByteMask) : holds mask := by
  obtain ⟨bits⟩ := mask
  have here := all bits.toNat bits.toNat_lt
  rwa [UInt8.ofNat_toNat] at here

theorem isEnabled_encode (kind : PointKind) : ∀ mask, isEnabled (encode kind mask) = true := by
  refine forall_mask ?_
  cases kind <;> decide +kernel

theorem mask_encode (kind : PointKind) : ∀ mask, ControlWord.mask (encode kind mask) = mask := by
  refine forall_mask ?_
  cases kind <;> decide +kernel

theorem kind?_encode {kind : PointKind} (data : kind.isWatchpoint = true) :
    ∀ mask, kind? .watchpoints (encode kind mask) = some kind := by
  refine forall_mask ?_
  cases kind with
  | execute => cases data
  | read => decide +kernel
  | write => decide +kernel
  | access => decide +kernel

end ControlWord

/-- The byte at an address is one of those that the pair selects: the pair's
window is the one around the byte, and its mask has the byte's bit. -/
structure RegisterPair.Selects (pair : RegisterPair) (byte : Address) : Prop where
  window : pair.address = (byte.alignDown watchWindow).value
  chosen : (ControlWord.mask pair.control).selects (byte.offsetIn watchWindow).toNat = true

end DebugRegisters.Arm
