import DebugRegisters.Proofs.Session.Registrations

/-!
# Stops told apart by handles

A kernel with handles names the registration that triggered. The session asks its own
breakpoints whether one of them has this handle, and some of them may have handles that
the kernel has dropped. As slots and registrations mirror each other, a live registration
has its handle to itself, and the answer is right.
-/

set_option autoImplicit false

namespace DebugRegisters

namespace Session

variable {caps : Capabilities} {fired : ThreadId → Int → Prop} {session : Session SimulatedKernel}
  {thread : ThreadId} {entry : Int × Registration}

/-- With handles, a thread stopped at a breakpoint if one of its breakpoints has the
handle that the kernel names. -/
theorem stoppedAt_of_hint (handles : session.capabilities.1.interface = .handles) {number : Int}
    {address : Address} {after : SimulatedKernel}
    (asked : Kernel.lastTrap session.capabilities.2.kernel thread =
      (.ok (some ⟨true, address, some number⟩), after)) :
    (session.stoppedAt thread).1 =
      .ok (if ((session.tableOf session.capabilities.1 thread .breakpoints).findHandle?
        ⟨number⟩).isSome then none else some address) := by
  have same : session.capabilities.2.sets.get? thread = session.sets.get? thread := rfl
  unfold stoppedAt
  simp only [asked, Option.filter, handles, same, if_true]
  cases found : session.sets.get? thread with
  | none =>
      have nowhere : ((session.tableOf session.capabilities.1 thread .breakpoints).findHandle?
          ⟨number⟩).isSome = false := by
        rw [tableOf_of_none found, Bool.eq_false_iff, Ne, SlotTable.findHandle?_isSome_iff]
        rintro ⟨index, slot, there, occupied, _⟩
        rw [SlotTable.get?_empty there] at occupied
        cases occupied
      rw [nowhere]
  | some points =>
      rw [tableOf_of_get? found]
      rfl

/-- A breakpoint has the handle of a live registration if and only if the registration
is one of a breakpoint. -/
theorem Mirrored.findHandle?_isSome_iff (mirrored : session.Mirrored caps fired)
    (live : entry ∈ (session.kernel.threads thread).registrations) :
    ((session.tableOf caps thread .breakpoints).findHandle? ⟨entry.1⟩).isSome = true ↔
      entry.2.point.kind.bank = .breakpoints := by
  have mirrors := mirrored.mirrors thread
  obtain ⟨bank, index, slot, found, kept, holds⟩ := mirrors.owned entry live
  have sorted : entry.2.point.kind.bank = bank :=
    ((mirrored.steady.orderly thread bank).kept.of_holds found holds).1
  rw [SlotTable.findHandle?_isSome_iff, sorted]
  constructor
  · rintro ⟨position, other, there, _, also⟩
    exact (mirrors.apart _ _ _ _ _ _ _ there found also kept).1
  · rintro rfl
    exact ⟨index, slot, found, by simp [Slot.isOccupied, holds], kept⟩

namespace MirroredFor

/-- What is found out of a kernel after a trigger could be found before. -/
theorem mirrored_of_trigger (all : session.MirroredFor fired) (thread : ThreadId)
    (handle : SlotHandle) (address : Address) :
    session.Mirrored (session.perform (.trigger thread handle address)).2.capabilities.1 fired := by
  have controlled := session.kernel.controlled_trigger thread handle address
  have granted := (all.trigger thread handle address).capabilities
  refine all.mirrored _ (controlled.facility ▸ granted) fun known found => ?_
  have later : (session.perform (.trigger thread handle address)).2.capabilities? = some known :=
    found
  rw [capabilities_of_known later]

/-- After a live registration triggered, the stop is reported at the address just if it is
a watchpoint. -/
theorem stoppedAt_of_trigger (all : session.MirroredFor fired)
    (live : entry ∈ (session.kernel.threads thread).registrations) (address : Address) :
    ((session.perform (.trigger thread ⟨entry.1⟩ address)).2.stoppedAt thread).1 =
      .ok (if entry.2.point.kind.isWatchpoint then some address else none) := by
  have mirrored := all.mirrored_of_trigger thread ⟨entry.1⟩ address
  have told := all.trigger thread ⟨entry.1⟩ address
  have asked := told.probed.1.reliable.lastTrap_answer thread
  have trap := session.kernel.trap_trigger thread ⟨entry.1⟩ address
  rw [told.keeps.threads] at asked
  change _ = Except.ok ((session.kernel.trigger thread ⟨entry.1⟩ address).threads thread).trap
    at asked
  rw [trap] at asked
  obtain ⟨_, _, _, there, _, _⟩ := (mirrored.mirrors thread).owned entry live
  have named := mirrored.findHandle?_isSome_iff live
  rw [stoppedAt_of_hint (mirrored.handles_of_slot there) (Prod.ext asked rfl)]
  change Except.ok (if ((session.tableOf _ thread .breakpoints).findHandle? ⟨entry.1⟩).isSome
    then none else some address) = _
  cases kind : entry.2.point.kind.bank with
  | breakpoints =>
      rw [if_pos (named.mpr kind), PointKind.eq_execute_of_bank kind]
      rfl
  | watchpoints =>
      have other : ¬entry.2.point.kind.bank = .breakpoints := by
        rw [kind]
        exact nofun
      rw [if_neg (mt named.mp other), if_pos (PointKind.isWatchpoint_of_bank kind)]

end MirroredFor

/-- After every run on a kernel with handles that fails to stop threads and to register
points only, the trigger of a live registration is told for what it is: the next stop of
its thread is reported, at the address of the trigger, for a watchpoint, and not for a
breakpoint. It does not matter whether the kernel drops the registration. -/
theorem triggers_are_told_apart {kernel : SimulatedKernel} {reply : Power.HardwareReply}
    (handles : kernel.facility = .handles reply)
    (bare : ∀ thread, (kernel.threads thread).registrations = [])
    (reliable : kernel.OnlyPlacingFails) {leader : ThreadId} {settings : Settings}
    {capabilities? : Option Capabilities}
    (preset : ∀ caps, capabilities? = some caps → kernel.facility.Grants caps)
    {events : List Event} :
    let start := History.ofSession (.start kernel leader settings capabilities?)
    let session := (start.afterAll events).session
    History.Permitted (fun history event => history.session.Undisturbed event) start events →
      ∀ thread, ∀ entry ∈ (session.kernel.threads thread).registrations, ∀ address,
        ((session.perform (.trigger thread ⟨entry.1⟩ address)).2.stoppedAt thread).1 =
          .ok (if entry.2.point.kind.isWatchpoint then some address else none) := by
  intro start session permitted thread entry live address
  have begun : start.session.MirroredFor fun _ _ => False :=
    mirroredFor_start handles bare reliable preset
  exact (History.mirroredFor_afterAll begun permitted).stoppedAt_of_trigger live address

/-- The breakpoint of the first thread has triggered and is dropped, and its slot keeps the
handle. Then the breakpoint of the second thread triggers, and the watchpoint of the
first. -/
theorem triggers_are_told_apart_dropped :
    let start := History.ofSession (.start .embedded ⟨1⟩ .standard none)
    let events : List Event := [.newThread ⟨2⟩, .insert (.plain ⟨.execute, ⟨0x1000⟩, 0, 4, none⟩),
      .trigger ⟨1⟩ ⟨1⟩ ⟨0x1000⟩, .fail ⟨.register, some ⟨2⟩, .os 5⟩,
      .insert (.plain ⟨.write, ⟨0x2000⟩, 4, 0, none⟩), .insert (.plain ⟨.write, ⟨0x2000⟩, 4, 0, none⟩)]
    let session := (start.afterAll events).session
    (session.kernel.threads ⟨1⟩).registrations.map Prod.fst = [4] ∧
    (session.kernel.threads ⟨2⟩).registrations.map Prod.fst = [2, 5] ∧
    ((session.perform (.trigger ⟨2⟩ ⟨2⟩ ⟨0x1000⟩)).2.stoppedAt ⟨2⟩).1 = .ok none ∧
    ((session.perform (.trigger ⟨1⟩ ⟨4⟩ ⟨0x2002⟩)).2.stoppedAt ⟨1⟩).1 = .ok (some ⟨0x2002⟩) := by
  intro start events session
  let breakpoint : EncodedPoint := ⟨.execute, ⟨0x1000⟩, .exact, none, ⟨⟨0x1000⟩, ⟨0x1004⟩⟩, 1⟩
  let watchpoint : EncodedPoint :=
    ⟨.write, ⟨0x2000⟩, .range ⟨0x2004⟩, none, ⟨⟨0x2000⟩, ⟨0x2004⟩⟩, 2⟩
  have reliable : SimulatedKernel.embedded.OnlyPlacingFails := ⟨rfl, nofun⟩
  have apart := @triggers_are_told_apart .embedded _ rfl (fun _ => rfl) reliable ⟨1⟩ .standard none
    nofun events (by decide)
  have quiet := apart ⟨2⟩ (2, ⟨breakpoint, .ofPoint breakpoint⟩) (by decide) ⟨0x1000⟩
  have told := apart ⟨1⟩ (4, ⟨watchpoint, .ofPoint watchpoint⟩) (by decide) ⟨0x2002⟩
  exact ⟨by decide, by decide, quiet, told⟩

end Session

end DebugRegisters
