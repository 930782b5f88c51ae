import DebugRegisters.Proofs.Kernel.Effects
import DebugRegisters.Session.Change

/-!
# The kernel's part of a slot

What taking a slot and giving it up come to, on any kernel and on the simulated
one: a registration, a write of the data breakpoint register, or nothing at all,
and each of the calls may fail.
-/

set_option autoImplicit false

namespace DebugRegisters.KernelSide

section Calls

variable {κ : Type} [Kernel κ]

/-- What taking a slot comes to, by the call that is made for it and its answer. -/
inductive TakesSlot (caps : Capabilities) (thread : ThreadId) (side : KernelSide κ)
    (point : EncodedPoint) : Except PointError (Option SlotHandle) × KernelSide κ → Prop where
  | deferred (later : caps.interface = .registerArray ∨ caps.interface = .unavailable) :
      TakesSlot caps thread side point (.ok none, side)
  | registered {handle : SlotHandle} {after : κ} (handles : caps.interface = .handles)
      (answered : Kernel.register side.kernel thread point = (.ok handle, after)) :
      TakesSlot caps thread side point (.ok (some handle), ⟨after, side.legacyValue⟩)
  | unregistered {cause : KernelError} {after : κ} (handles : caps.interface = .handles)
      (answered : Kernel.register side.kernel thread point = (.error cause, after)) :
      TakesSlot caps thread side point
        (.error (.kernel .register thread cause), ⟨after, side.legacyValue⟩)
  | written {after : κ} (legacy : caps.interface = .legacy)
      (answered : Kernel.writeLegacy side.kernel thread
        (Power.dataBreakpointValue point.address point.kind caps.architecture.isBookE) =
          (.ok (), after)) :
      TakesSlot caps thread side point
        (.ok none,
          ⟨after, Power.dataBreakpointValue point.address point.kind caps.architecture.isBookE⟩)
  | unwritten {cause : KernelError} {after : κ} (legacy : caps.interface = .legacy)
      (answered : Kernel.writeLegacy side.kernel thread
        (Power.dataBreakpointValue point.address point.kind caps.architecture.isBookE) =
          (.error cause, after)) :
      TakesSlot caps thread side point
        (.error (.kernel .writeLegacy thread cause), ⟨after, side.legacyValue⟩)

theorem takesSlot (caps : Capabilities) (thread : ThreadId) (side : KernelSide κ)
    (point : EncodedPoint) : TakesSlot caps thread side point (takeSlot caps thread side point) := by
  cases interface : caps.interface with
  | handles =>
      simp only [takeSlot, interface]
      split
      · next answered => exact .unregistered interface answered
      · next answered => exact .registered interface answered
  | legacy =>
      simp only [takeSlot, interface, KernelSide.writeLegacy]
      cases answered : Kernel.writeLegacy side.kernel thread
          (Power.dataBreakpointValue point.address point.kind caps.architecture.isBookE) with
      | mk result after =>
          cases result with
          | ok => exact .written interface answered
          | error cause => exact .unwritten interface answered
  | registerArray =>
      simp only [takeSlot, interface]
      exact .deferred (.inl interface)
  | unavailable =>
      simp only [takeSlot, interface]
      exact .deferred (.inr interface)

/-- What giving a slot up comes to, by the call that is made for it and its answer. -/
inductive GivesUpSlot (caps : Capabilities) (thread : ThreadId) (side : KernelSide κ)
    (handle : Option SlotHandle) : Except PointError Unit × KernelSide κ × List Notice → Prop where
  | apart (other : caps.interface ≠ .legacy) (bare : caps.interface = .handles → handle = none) :
      GivesUpSlot caps thread side handle (.ok (), side, [])
  | dropped {held : SlotHandle} {after : κ} (handles : caps.interface = .handles)
      (kept : handle = some held)
      (answered : Kernel.deregister side.kernel thread held = (.ok (), after)) :
      GivesUpSlot caps thread side handle (.ok (), ⟨after, side.legacyValue⟩, [])
  | gone {held : SlotHandle} {cause : KernelError} {after : κ}
      (handles : caps.interface = .handles) (kept : handle = some held)
      (known : cause = .notFound ∨ cause = .noSuchThread)
      (answered : Kernel.deregister side.kernel thread held = (.error cause, after)) :
      GivesUpSlot caps thread side handle
        (.ok (), ⟨after, side.legacyValue⟩, [.registrationGone thread held cause])
  | undropped {held : SlotHandle} {cause : KernelError} {after : κ}
      (handles : caps.interface = .handles) (kept : handle = some held)
      (other : cause ≠ .notFound ∧ cause ≠ .noSuchThread)
      (answered : Kernel.deregister side.kernel thread held = (.error cause, after)) :
      GivesUpSlot caps thread side handle
        (.error (.kernel .deregister thread cause), ⟨after, side.legacyValue⟩, [])
  | cleared {after : κ} (legacy : caps.interface = .legacy)
      (answered : Kernel.writeLegacy side.kernel thread 0 = (.ok (), after)) :
      GivesUpSlot caps thread side handle (.ok (), ⟨after, 0⟩, [])
  | uncleared {cause : KernelError} {after : κ} (legacy : caps.interface = .legacy)
      (answered : Kernel.writeLegacy side.kernel thread 0 = (.error cause, after)) :
      GivesUpSlot caps thread side handle
        (.error (.kernel .writeLegacy thread cause), ⟨after, side.legacyValue⟩, [])

theorem givesUpSlot (caps : Capabilities) (thread : ThreadId) (side : KernelSide κ)
    (handle : Option SlotHandle) :
    GivesUpSlot caps thread side handle (giveUpSlot caps thread side handle) := by
  cases interface : caps.interface with
  | handles =>
      cases handle with
      | none =>
          simp only [giveUpSlot, interface]
          exact .apart (by simp [interface]) fun _ => rfl
      | some held =>
          simp only [giveUpSlot, interface]
          split
          · next answered => exact .dropped interface rfl answered
          · next answered => exact .gone interface rfl (.inl rfl) answered
          · next answered => exact .gone interface rfl (.inr rfl) answered
          · next found there answered => exact .undropped interface rfl ⟨found, there⟩ answered
  | legacy =>
      simp only [giveUpSlot, interface, KernelSide.writeLegacy]
      cases answered : Kernel.writeLegacy side.kernel thread 0 with
      | mk result after =>
          cases result with
          | ok => exact .cleared interface answered
          | error cause => exact .uncleared interface answered
  | registerArray =>
      simp only [giveUpSlot, interface]
      exact .apart (by simp [interface]) (by simp [interface])
  | unavailable =>
      simp only [giveUpSlot, interface]
      exact .apart (by simp [interface]) (by simp [interface])

end Calls

open SimulatedKernel

inductive Takes (caps : Capabilities) (thread : ThreadId) (side : KernelSide SimulatedKernel)
    (point : EncodedPoint) : Except PointError (Option SlotHandle) × KernelSide SimulatedKernel → Prop
    where
  | deferred (later : caps.interface = .registerArray ∨ caps.interface = .unavailable) :
      Takes caps thread side point (.ok none, side)
  | registered {entered : SimulatedKernel} (handles : caps.interface = .handles)
      (begun : side.kernel.Enters .register thread none entered)
      (room : (side.kernel.threads thread).used point.kind.bank + point.cost ≤
        side.kernel.facility.bankSize point.kind.bank) :
      Takes caps thread side point
        (.ok (some ⟨side.kernel.nextHandle⟩),
          ⟨entered.withRegistration thread point, side.legacyValue⟩)
  | unregistered {cause : KernelError} {after : SimulatedKernel} (handles : caps.interface = .handles)
      (refused : side.kernel.Registers thread point (.error cause, after)) :
      Takes caps thread side point
        (.error (.kernel .register thread cause), ⟨after, side.legacyValue⟩)
  | written {entered : SimulatedKernel} (legacy : caps.interface = .legacy)
      (begun : side.kernel.Enters .writeLegacy thread none entered) :
      Takes caps thread side point
        (.ok none,
          ⟨entered.withLegacy thread
              (Power.dataBreakpointValue point.address point.kind caps.architecture.isBookE),
            Power.dataBreakpointValue point.address point.kind caps.architecture.isBookE⟩)
  | unwritten {cause : KernelError} {after : SimulatedKernel} (legacy : caps.interface = .legacy)
      (begun : side.kernel.Enters .writeLegacy thread (some cause) after) :
      Takes caps thread side point
        (.error (.kernel .writeLegacy thread cause), ⟨after, side.legacyValue⟩)

theorem takes (caps : Capabilities) (thread : ThreadId) (side : KernelSide SimulatedKernel)
    (point : EncodedPoint) : Takes caps thread side point (takeSlot caps thread side point) := by
  have outcome := takesSlot caps thread side point
  have registration := registers side.kernel thread point
  have write := writesLegacy side.kernel thread
    (Power.dataBreakpointValue point.address point.kind caps.architecture.isBookE)
  generalize takeSlot caps thread side point = ended at outcome ⊢
  cases outcome with
  | deferred later => exact .deferred later
  | registered handles answered =>
      rw [answered] at registration
      cases registration with
      | registered entered room => exact .registered handles entered room
  | unregistered handles answered =>
      rw [answered] at registration
      exact .unregistered handles registration
  | written legacy answered =>
      rw [answered] at write
      cases write with
      | written entered => exact .written legacy entered
  | unwritten legacy answered =>
      rw [answered] at write
      cases write with
      | refused entered => exact .unwritten legacy entered

inductive GivesUp (caps : Capabilities) (thread : ThreadId) (side : KernelSide SimulatedKernel)
    (handle : Option SlotHandle) :
    Except PointError Unit × KernelSide SimulatedKernel × List Notice → Prop where
  | apart (other : caps.interface ≠ .legacy) (bare : caps.interface = .handles → handle = none) :
      GivesUp caps thread side handle (.ok (), side, [])
  | dropped {held : SlotHandle} {entered : SimulatedKernel} (handles : caps.interface = .handles)
      (kept : handle = some held) (begun : side.kernel.Enters .deregister thread none entered)
      (there : (side.kernel.threads thread).isRegistered held.number = true) :
      GivesUp caps thread side handle
        (.ok (), ⟨entered.withoutRegistration thread held.number, side.legacyValue⟩, [])
  | gone {held : SlotHandle} {cause : KernelError} {after : SimulatedKernel}
      (handles : caps.interface = .handles) (kept : handle = some held)
      (known : cause = .notFound ∨ cause = .noSuchThread)
      (refused : side.kernel.Deregisters thread held (.error cause, after)) :
      GivesUp caps thread side handle
        (.ok (), ⟨after, side.legacyValue⟩, [.registrationGone thread held cause])
  | undropped {held : SlotHandle} {cause : KernelError} {after : SimulatedKernel}
      (handles : caps.interface = .handles) (kept : handle = some held)
      (other : cause ≠ .notFound ∧ cause ≠ .noSuchThread)
      (refused : side.kernel.Deregisters thread held (.error cause, after)) :
      GivesUp caps thread side handle
        (.error (.kernel .deregister thread cause), ⟨after, side.legacyValue⟩, [])
  | cleared {entered : SimulatedKernel} (legacy : caps.interface = .legacy)
      (begun : side.kernel.Enters .writeLegacy thread none entered) :
      GivesUp caps thread side handle (.ok (), ⟨entered.withLegacy thread 0, 0⟩, [])
  | uncleared {cause : KernelError} {after : SimulatedKernel} (legacy : caps.interface = .legacy)
      (begun : side.kernel.Enters .writeLegacy thread (some cause) after) :
      GivesUp caps thread side handle
        (.error (.kernel .writeLegacy thread cause), ⟨after, side.legacyValue⟩, [])

theorem givesUp (caps : Capabilities) (thread : ThreadId) (side : KernelSide SimulatedKernel)
    (handle : Option SlotHandle) :
    GivesUp caps thread side handle (giveUpSlot caps thread side handle) := by
  have outcome := givesUpSlot caps thread side handle
  have write := writesLegacy side.kernel thread 0
  generalize giveUpSlot caps thread side handle = ended at outcome ⊢
  cases outcome with
  | apart other bare => exact .apart other bare
  | @dropped held _ handles kept answered =>
      have drop := deregisters side.kernel thread held
      rw [answered] at drop
      cases drop with
      | dropped entered there => exact .dropped handles kept entered there
  | @gone held _ _ handles kept known answered =>
      have drop := deregisters side.kernel thread held
      rw [answered] at drop
      exact .gone handles kept known drop
  | @undropped held _ _ handles kept other answered =>
      have drop := deregisters side.kernel thread held
      rw [answered] at drop
      exact .undropped handles kept other drop
  | cleared legacy answered =>
      rw [answered] at write
      cases write with
      | written entered => exact .cleared legacy entered
  | uncleared legacy answered =>
      rw [answered] at write
      cases write with
      | refused entered => exact .uncleared legacy entered

end DebugRegisters.KernelSide
