import DebugRegisters.Proofs.Session.Journal
import DebugRegisters.Proofs.Session.Slots
import DebugRegisters.Proofs.Session.Tables

/-!
# Slots that are taken and given up

What placing a point and giving it up come to on the simulated kernel, told apart
by whether a slot changed hands and by the calls that were made for it.
-/

set_option autoImplicit false

namespace DebugRegisters

open SimulatedKernel

namespace KernelSide

theorem idles_of_takeSlot {caps : Capabilities} {thread : ThreadId} {point : EncodedPoint}
    {side left : KernelSide SimulatedKernel} {error : PointError}
    (refused : takeSlot caps thread side point = (.error error, left)) :
    side.kernel.Idles left.kernel := by
  have outcome := takes caps thread side point
  rw [refused] at outcome
  cases outcome with
  | unregistered handles registered =>
      cases registered with
      | refused entered | full entered | foreign entered =>
          exact entered.idles (.inl (by decide))
  | unwritten legacy begun => exact begun.idles (.inr nofun)

end KernelSide

namespace Session

theorem idles_of_install_error {caps : Capabilities} {session after : Session SimulatedKernel}
    {placement : Placement} {error : PointError}
    (refused : install caps session placement = (.error error, after)) :
    session.kernel.Idles after.kernel := by
  have admitted := admits_pause session.kernel placement.thread
  obtain ⟨_, _, ⟨cause, paused, _⟩ | ⟨kernel, table, side, paused, inserted, same⟩⟩ :=
    install_error refused
  · rw [paused] at admitted
    cases admitted with
    | refused entered => exact entered.idles (.inl (by decide))
  · rw [paused] at admitted
    rw [same]
    cases admitted with
    | admitted entered =>
        refine (entered.idles (.inl (by decide))).trans ?_
        cases inserted with
        | full => exact .refl _
        | refused absent registered => exact KernelSide.idles_of_takeSlot registered

/-- Giving a slot up fails with a call, and nothing else happens. -/
theorem fails_of_uninstall_error {caps : Capabilities} {session after : Session SimulatedKernel}
    {placement : Placement} {error : PointError}
    (refused : uninstall caps session placement = (.error error, after)) :
    ∃ call cause, session.kernel.Enters call placement.thread (some cause) after.kernel ∧
      error = .kernel call placement.thread cause := by
  obtain ⟨_, slot, side, _, _, given, same, _, _⟩ := uninstall_error refused
  have gives := KernelSide.givesUp caps placement.thread ⟨session.kernel, session.legacyValue⟩
    slot.handle
  rw [given] at gives
  rw [same]
  cases gives with
  | undropped _ _ _ denied =>
      cases denied with
      | refused entered | unknown entered => exact ⟨_, _, entered, rfl⟩
  | uncleared _ begun => exact ⟨_, _, begun, rfl⟩

inductive Takes (caps : Capabilities) (session : Session SimulatedKernel) (placement : Placement)
    (after : Session SimulatedKernel) : Prop where
  | joined {index : Nat} {slot : Slot}
      (paused : session.kernel.Enters .pause placement.thread none after.kernel)
      (there : (session.target caps placement).get? index = some slot)
      (holds : slot.point = some placement.point)
      (puts : session.Puts caps placement
        ((session.target caps placement).modify index fun slot =>
          { slot with references := slot.references + 1 }) after)
      (told : after.notices =
        session.notices ++ [.slotHolds placement.thread placement.point ⟨index, false⟩])
  | marked {index : Nat} {slot : Slot}
      (later : caps.interface = .registerArray ∨ caps.interface = .unavailable)
      (paused : session.kernel.Enters .pause placement.thread none after.kernel)
      (there : (session.target caps placement).get? index = some slot) (isFree : slot.point = none)
      (absent : (session.target caps placement).find? placement.point = none)
      (puts : session.Puts caps placement
        ((session.target caps placement).modify index fun _ => ⟨some placement.point, 1, none⟩) after)
      (told : after.notices =
        session.notices ++ [.slotHolds placement.thread placement.point ⟨index, true⟩])
  | registered {index : Nat} {slot : Slot} {kernel entered : SimulatedKernel}
      (handles : caps.interface = .handles)
      (paused : session.kernel.Enters .pause placement.thread none kernel)
      (begun : kernel.Enters .register placement.thread none entered)
      (made : after.kernel = entered.withRegistration placement.thread placement.point)
      (there : (session.target caps placement).get? index = some slot) (isFree : slot.point = none)
      (absent : (session.target caps placement).find? placement.point = none)
      (puts : session.Puts caps placement
        ((session.target caps placement).modify index fun _ =>
          ⟨some placement.point, 1, some ⟨session.kernel.nextHandle⟩⟩) after)
      (told : after.notices =
        session.notices ++ [.slotHolds placement.thread placement.point ⟨index, true⟩])
  | written {index : Nat} {slot : Slot} {kernel entered : SimulatedKernel}
      (legacy : caps.interface = .legacy)
      (paused : session.kernel.Enters .pause placement.thread none kernel)
      (begun : kernel.Enters .writeLegacy placement.thread none entered)
      (made : after.kernel = entered.withLegacy placement.thread
        (Power.dataBreakpointValue placement.point.address placement.point.kind
          caps.architecture.isBookE))
      (there : (session.target caps placement).get? index = some slot) (isFree : slot.point = none)
      (absent : (session.target caps placement).find? placement.point = none)
      (puts : session.Puts caps placement
        ((session.target caps placement).modify index fun _ => ⟨some placement.point, 1, none⟩) after)
      (told : after.notices =
        session.notices ++ [.slotHolds placement.thread placement.point ⟨index, true⟩])

theorem takes_of_install {caps : Capabilities} {session after : Session SimulatedKernel}
    {placement : Placement} (installed : install caps session placement = (.ok (), after)) :
    session.Takes caps placement after := by
  obtain ⟨kernel, insertion, table, side, answered, inserted, made, _, told, puts⟩ :=
    install_ok installed
  have admitted := admits_pause session.kernel placement.thread
  rw [answered] at admitted
  cases admitted with
  | admitted paused =>
      cases inserted with
      | shared found there holds => exact .joined (made ▸ paused) there holds puts told
      | @taken index slot handle _ absent free there isFree registered fits =>
          have taken := KernelSide.takes caps placement.thread ⟨kernel, session.legacyValue⟩
            placement.point
          rw [registered] at taken
          cases taken with
          | deferred later => exact .marked later (made ▸ paused) there isFree absent puts told
          | registered handles begun room =>
              rw [paused.nextHandle] at puts
              exact .registered handles paused begun made there isFree absent puts told
          | written legacy begun =>
              exact .written legacy paused begun made there isFree absent puts told

inductive GivesUp (caps : Capabilities) (session : Session SimulatedKernel) (placement : Placement)
    (after : Session SimulatedKernel) : Prop where
  | left {index : Nat} {slot : Slot} (same : after.kernel = session.kernel)
      (there : (session.target caps placement).get? index = some slot)
      (holds : slot.point = some placement.point) (more : 1 < slot.references)
      (puts : session.Puts caps placement
        ((session.target caps placement).modify index fun slot =>
          { slot with references := slot.references - 1 }) after)
      (told : ∃ reports, after.notices = session.notices ++ (reports ++
        [.slotReleased placement.thread placement.point ⟨index, false⟩]))
  | apart {index : Nat} {slot : Slot} (same : after.kernel = session.kernel)
      (other : caps.interface ≠ .legacy) (bare : caps.interface = .handles → slot.handle = none)
      (there : (session.target caps placement).get? index = some slot)
      (holds : slot.point = some placement.point)
      (puts : session.Puts caps placement
        ((session.target caps placement).modify index fun _ => .free) after)
      (told : ∃ reports, after.notices = session.notices ++ (reports ++
        [.slotReleased placement.thread placement.point ⟨index, true⟩]))
  | dropped {index : Nat} {slot : Slot} {held : SlotHandle} {entered : SimulatedKernel}
      (handles : caps.interface = .handles) (kept : slot.handle = some held)
      (begun : session.kernel.Enters .deregister placement.thread none entered)
      (made : after.kernel = entered.withoutRegistration placement.thread held.number)
      (there : (session.target caps placement).get? index = some slot)
      (holds : slot.point = some placement.point)
      (puts : session.Puts caps placement
        ((session.target caps placement).modify index fun _ => .free) after)
      (told : ∃ reports, after.notices = session.notices ++ (reports ++
        [.slotReleased placement.thread placement.point ⟨index, true⟩]))
  | gone {index : Nat} {slot : Slot} {held : SlotHandle} {cause : KernelError}
      (handles : caps.interface = .handles) (kept : slot.handle = some held)
      (known : cause = .notFound ∨ cause = .noSuchThread)
      (refused : session.kernel.Deregisters placement.thread held (.error cause, after.kernel))
      (there : (session.target caps placement).get? index = some slot)
      (holds : slot.point = some placement.point)
      (puts : session.Puts caps placement
        ((session.target caps placement).modify index fun _ => .free) after)
      (told : ∃ reports, after.notices = session.notices ++ (reports ++
        [.slotReleased placement.thread placement.point ⟨index, true⟩]))
  | cleared {index : Nat} {slot : Slot} {entered : SimulatedKernel}
      (legacy : caps.interface = .legacy)
      (begun : session.kernel.Enters .writeLegacy placement.thread none entered)
      (made : after.kernel = entered.withLegacy placement.thread 0)
      (there : (session.target caps placement).get? index = some slot)
      (holds : slot.point = some placement.point)
      (puts : session.Puts caps placement
        ((session.target caps placement).modify index fun _ => .free) after)
      (told : ∃ reports, after.notices = session.notices ++ (reports ++
        [.slotReleased placement.thread placement.point ⟨index, true⟩]))

theorem givesUp_of_uninstall {caps : Capabilities} {session after : Session SimulatedKernel}
    {placement : Placement} (given : uninstall caps session placement = (.ok true, after)) :
    session.GivesUp caps placement after := by
  obtain ⟨removal, table, side, reports, removed, made, _, told, puts⟩ := uninstall_true given
  rw [List.append_assoc] at told
  cases removed with
  | shared found there holds more => exact .left made there holds more puts ⟨_, told⟩
  | @freed index slot _ found there holds last deregistered =>
      have giving := KernelSide.givesUp caps placement.thread
        ⟨session.kernel, session.legacyValue⟩ slot.handle
      unfold giveUp at deregistered
      rw [deregistered] at giving
      cases giving with
      | apart other bare => exact .apart made other bare there holds puts ⟨_, told⟩
      | dropped handles kept begun _ =>
          exact .dropped handles kept begun made there holds puts ⟨_, told⟩
      | gone handles kept known refused =>
          exact .gone handles kept known (made ▸ refused) there holds puts ⟨_, told⟩
      | cleared legacy begun => exact .cleared legacy begun made there holds puts ⟨_, told⟩

end Session

end DebugRegisters
