import DebugRegisters.Session

/-!
# Stops

Which data address made a thread stop, if it was a hardware watchpoint.
-/

set_option autoImplicit false

namespace DebugRegisters

namespace SlotTable

/-- The installed point, of the highest slot, whose watched window reaches from
below a trap address to above it. The window may begin before the first watched
byte, because hardware may report its start. -/
def trapped? (table : SlotTable) (alignment : UInt64) (address : Address) : Option EncodedPoint :=
  (table.slots.filterMap Slot.point).reverse.find? fun point =>
    point.address.alignDown alignment ≤ address &&
      address < (point.hardwareRange alignment).stop

end SlotTable

namespace Session

variable {κ : Type} [Kernel κ]

/-- The data address for which a thread stopped, as far as a hardware watchpoint
is the reason. With register arrays it is the watched byte nearest to the
address that was reported; on kernels with handles, stops at breakpoints are
told apart by their registration. -/
def stoppedAt (session : Session κ) (thread : ThreadId) : Outcome κ (Option Address) :=
  let (caps, session) := session.capabilities
  match Kernel.lastTrap session.kernel thread with
  | (.error cause, kernel) => (.error (.kernel .lastTrap thread cause), { session with kernel })
  | (.ok trap?, kernel) =>
      let session := { session with kernel }
      match trap?.filter Trap.isHardware with
      | none => (.ok none, session)
      | some trap =>
          match caps.interface with
          | .registerArray =>
              let hit := match session.sets.get? thread with
                | none => none
                | some points => points.watchpoints.table.trapped? caps.alignment trap.address
              (.ok (hit.map fun point => point.watched.clamp trap.address), session)
          | .handles =>
              let isBreakpoint := match trap.slotHint, session.sets.get? thread with
                | some number, some points =>
                    (points.breakpoints.table.findHandle? ⟨number⟩).isSome
                | _, _ => false
              (.ok (if isBreakpoint then none else some trap.address), session)
          | .legacy => (.ok (some trap.address), session)
          | .unavailable => (.ok none, session)

end Session

end DebugRegisters
