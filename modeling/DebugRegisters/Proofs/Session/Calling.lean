import DebugRegisters.Proofs.Session.Arrivals
import DebugRegisters.Session.Stop

/-!
# What all kernel calls respect

An operation of a session touches its kernel by calls only, however it ends. So
what holds from a kernel to the one after any call holds from the kernel before
an operation to the one after it. Questions make fewer calls than changes of
points and threads that come and go do, and these fewer than resuming, and the
fewer there are, the more they respect.
-/

set_option autoImplicit false

namespace DebugRegisters

/-- Holds across the calls made to find capabilities and to see why a thread
stopped. -/
structure AcrossQuestions {κ : Type} [Kernel κ] (related : κ → κ → Prop) : Prop where
  refl (kernel : κ) : related kernel kernel
  trans {kernel middle after : κ} (first : related kernel middle) (second : related middle after) :
    related kernel after
  debugInfo (kernel : κ) (thread : ThreadId) : related kernel (Kernel.debugInfo kernel thread).2
  writeLegacy (kernel : κ) (thread : ThreadId) (value : UInt64) :
    related kernel (Kernel.writeLegacy kernel thread value).2
  lastTrap (kernel : κ) (thread : ThreadId) : related kernel (Kernel.lastTrap kernel thread).2

structure AcrossRegistrations {κ : Type} [Kernel κ] (thread : ThreadId) (related : κ → κ → Prop) :
    Prop where
  refl (kernel : κ) : related kernel kernel
  trans {kernel middle after : κ} (first : related kernel middle) (second : related middle after) :
    related kernel after
  register (kernel : κ) (point : EncodedPoint) :
    related kernel (Kernel.register kernel thread point).2
  deregister (kernel : κ) (handle : SlotHandle) :
    related kernel (Kernel.deregister kernel thread handle).2

structure AcrossChanges {κ : Type} [Kernel κ] (related : κ → κ → Prop) : Prop
    extends AcrossQuestions related where
  pause (kernel : κ) (thread : ThreadId) : related kernel (Kernel.pause kernel thread).2
  register (kernel : κ) (thread : ThreadId) (point : EncodedPoint) :
    related kernel (Kernel.register kernel thread point).2
  deregister (kernel : κ) (thread : ThreadId) (handle : SlotHandle) :
    related kernel (Kernel.deregister kernel thread handle).2

structure AcrossCalls {κ : Type} [Kernel κ] (related : κ → κ → Prop) : Prop
    extends AcrossChanges related where
  writeRegisters (kernel : κ) (thread : ThreadId) (bank : RegisterBank) (block : Arm.RegisterBlock) :
    related kernel (Kernel.writeRegisters kernel thread bank block).2

/-- Why a thread stopped is asked of the kernel, and nothing else changes. -/
theorem Session.stoppedAt_session {κ : Type} [Kernel κ] (session : Session κ) (thread : ThreadId) :
    (session.stoppedAt thread).2 =
      { session.capabilities.2 with
        kernel := (Kernel.lastTrap session.capabilities.2.kernel thread).2 } := by
  unfold Session.stoppedAt
  dsimp only
  split
  · next answered => rw [answered]
  · next answered =>
      rw [answered]
      split
      · rfl
      · split <;> rfl

namespace AcrossQuestions

open Capabilities Session

variable {κ : Type} [Kernel κ] {related : κ → κ → Prop}

theorem query? (across : AcrossQuestions related) (kernel : κ) (thread : ThreadId) :
    related kernel (query? kernel thread).2.1 := by
  have asked := across.debugInfo kernel thread
  unfold Capabilities.query?
  dsimp only
  split <;> next answered => rwa [answered] at asked

theorem fallback (across : AcrossQuestions related) (kernel : κ) (thread : ThreadId) :
    related kernel (fallback kernel thread).2.1 := by
  have written := across.writeLegacy kernel thread 0
  unfold Capabilities.fallback
  dsimp only
  split
  · split <;> next answered => rwa [answered] at written
  · exact across.refl kernel

theorem capabilities (across : AcrossQuestions related) (session : Session κ) :
    related session.kernel session.capabilities.2.kernel := by
  have queried := across.query? session.kernel session.leader
  unfold Session.capabilities cachedOrProbe
  cases session.capabilities? with
  | some caps => exact across.refl _
  | none =>
      dsimp only
      unfold probe
      split
      · next answered => rwa [answered] at queried
      · next after notices answered =>
          rw [answered] at queried
          exact across.trans queried (across.fallback after session.leader)

theorem stoppedAt (across : AcrossQuestions related) (session : Session κ) (thread : ThreadId) :
    related session.kernel (session.stoppedAt thread).2.kernel := by
  rw [Session.stoppedAt_session]
  exact across.trans (across.capabilities session) (across.lastTrap _ thread)

end AcrossQuestions

namespace AcrossRegistrations

open Session

variable {κ : Type} [Kernel κ] {thread : ThreadId} {related : κ → κ → Prop}

theorem dropRegistrations (across : AcrossRegistrations thread related)
    (report : SlotHandle → KernelError → Notice) (session : Session κ)
    (handles : List SlotHandle) :
    related session.kernel (dropRegistrations report session thread handles).kernel := by
  induction handles generalizing session with
  | nil => exact across.refl _
  | cons handle rest ih =>
      have dropped := across.deregister session.kernel handle
      unfold Session.dropRegistrations
      split
      · next kernel answered =>
          rw [answered] at dropped
          exact across.trans dropped (ih { session with kernel })
      · next cause kernel answered =>
          rw [answered] at dropped
          exact across.trans dropped (ih ({ session with kernel }.notify (report handle cause)))

theorem registerSlots (across : AcrossRegistrations thread related) (bank : RegisterBank)
    (points : ThreadPoints) (registered : List SlotHandle) (session : Session κ)
    (slots : List (Nat × Slot)) :
    related session.kernel (registerSlots thread bank points registered session slots).2.kernel := by
  induction slots generalizing points registered session with
  | nil => exact across.refl _
  | cons entry rest ih =>
      obtain ⟨index, slot⟩ := entry
      unfold Session.registerSlots
      split
      · exact ih _ _ session
      · next point holds =>
          have dropped : related session.kernel (session.dropStale thread slot.handle).kernel :=
            across.dropRegistrations _ _ _
          have registering := across.register (session.dropStale thread slot.handle).kernel point
          dsimp only
          split
          · next cause kernel answered =>
              rw [answered] at registering
              have undone := across.dropRegistrations (.registrationNotUndone thread)
                { session.dropStale thread slot.handle with kernel } registered
              exact across.trans dropped (across.trans registering undone)
          · next handle kernel answered =>
              rw [answered] at registering
              exact across.trans dropped (across.trans registering
                (ih _ _ { session.dropStale thread slot.handle with kernel }))

theorem registerBanks (across : AcrossRegistrations thread related) (points : ThreadPoints)
    (registered : List SlotHandle) (session : Session κ) (banks : List RegisterBank) :
    related session.kernel (registerBanks thread points registered session banks).2.kernel := by
  induction banks generalizing points registered session with
  | nil => exact across.refl _
  | cons bank rest ih =>
      have first := across.registerSlots bank points registered session
        (points.table bank).occupied
      unfold Session.registerBanks
      split
      · next failed => rwa [failed] at first
      · next copies handles after answered =>
          rw [answered] at first
          exact across.trans first (ih copies handles after)

end AcrossRegistrations

namespace AcrossChanges

open Session

variable {κ : Type} [Kernel κ] {related : κ → κ → Prop}

section Changes

theorem sideWriteLegacy (across : AcrossChanges related) (side : KernelSide κ) (thread : ThreadId)
    (value : UInt64) : related side.kernel (side.writeLegacy thread value).2.kernel := by
  have written := across.writeLegacy side.kernel thread value
  unfold KernelSide.writeLegacy
  split <;> next answered => rwa [answered] at written

theorem takeSlot (across : AcrossChanges related) (caps : Capabilities) (thread : ThreadId)
    (side : KernelSide κ) (point : EncodedPoint) :
    related side.kernel (KernelSide.takeSlot caps thread side point).2.kernel := by
  have registered := across.register side.kernel thread point
  unfold KernelSide.takeSlot
  split
  · split <;> next answered => rwa [answered] at registered
  · have written := across.sideWriteLegacy side thread
      (Power.dataBreakpointValue point.address point.kind caps.architecture.isBookE)
    dsimp only
    split <;> next answered => rwa [answered] at written
  · exact across.refl _
  · exact across.refl _

theorem giveUpSlot (across : AcrossChanges related) (caps : Capabilities) (thread : ThreadId)
    (side : KernelSide κ) (handle : Option SlotHandle) :
    related side.kernel (KernelSide.giveUpSlot caps thread side handle).2.1.kernel := by
  unfold KernelSide.giveUpSlot
  split
  · next handle _ =>
      have deregistered := across.deregister side.kernel thread handle
      split <;> next answered => rwa [answered] at deregistered
  · exact across.sideWriteLegacy side thread 0
  · exact across.refl _

theorem install (across : AcrossChanges related) (caps : Capabilities) (session : Session κ)
    (placement : Placement) : related session.kernel (install caps session placement).2.kernel := by
  have paused := across.pause session.kernel placement.thread
  have taken : ∀ (side : KernelSide κ) (point : EncodedPoint), related session.kernel side.kernel →
      related session.kernel (KernelSide.takeSlot caps placement.thread side point).2.kernel :=
    fun side point before => across.trans before (across.takeSlot _ _ _ _)
  have installed := installs caps session placement
  generalize Session.install caps session placement = outcome at installed
  cases installed with
  | running answered =>
      rw [answered] at paused
      exact paused
  | refused answered inserted | held _ answered inserted | marked _ answered inserted =>
      rw [answered] at paused
      exact inserted.keeps_side taken paused

theorem uninstall (across : AcrossChanges related) (caps : Capabilities) (session : Session κ)
    (placement : Placement) :
    related session.kernel (uninstall caps session placement).2.kernel := by
  have start := across.refl session.kernel
  have given : ∀ (state : KernelSide κ × List Notice) (handle : Option SlotHandle),
      related session.kernel state.1.kernel →
      related session.kernel (giveUp caps placement.thread state handle).2.1.kernel :=
    fun state handle before => across.trans before (across.giveUpSlot _ _ _ _)
  have uninstalled := uninstalls caps session placement
  generalize Session.uninstall caps session placement = outcome at uninstalled
  cases uninstalled with
  | absent missing => exact start
  | refused _ there present removed => exact removed.keeps_side given start
  | dropped _ there removed | marked _ there removed => exact removed.keeps_side given start

theorem keptByChanges (across : AcrossChanges related) (caps : Capabilities) (kernel : κ) :
    KeptByChanges caps fun session : Session κ => related kernel session.kernel where
  quiet before _ := before
  ensure before _ _ := before
  install before placement _ := across.trans before (across.install _ _ placement)
  uninstall before placement _ := across.trans before (across.uninstall _ _ placement)

theorem insertDemand (across : AcrossChanges related) (session : Session κ) (demand : Demand) :
    related session.kernel (session.insertDemand demand).2.kernel :=
  insertDemand_keeps (across.keptByChanges session.capabilities.1 session.kernel)
    (across.capabilities session) demand

theorem removeDemand (across : AcrossChanges related) (session : Session κ) (demand : Demand) :
    related session.kernel (session.removeDemand demand).2.kernel :=
  removeDemand_keeps (across.keptByChanges session.capabilities.1 session.kernel)
    (across.capabilities session) demand

end Changes

section Threads

theorem registrations (across : AcrossChanges related) (thread : ThreadId) :
    AcrossRegistrations thread related :=
  ⟨across.refl, across.trans, (across.register · thread), (across.deregister · thread)⟩

theorem replicate (across : AcrossChanges related) (session : Session κ) (thread : ThreadId)
    (pattern : ThreadPoints) :
    related session.kernel (session.replicate thread pattern).2.kernel := by
  have paused := across.pause session.kernel thread
  unfold Session.replicate
  split
  · next answered => rwa [answered] at paused
  · next kernel answered =>
      rw [answered] at paused
      exact across.trans paused
        ((across.registrations thread).registerBanks _ [] { session with kernel } _)

theorem equip (across : AcrossChanges related) (caps : Capabilities) (session : Session κ)
    (thread : ThreadId) (pattern : Option ThreadPoints) :
    related session.kernel (equip caps session thread pattern).2.kernel := by
  unfold Session.equip
  split
  · next model _ =>
      have replicated := across.replicate session thread model
      split <;> next answered => rwa [answered] at replicated
  · exact across.refl _
  · have copied := across.writeLegacy session.kernel thread session.legacyValue
    dsimp only
    split <;>
      · split <;> next answered => rwa [answered] at copied
  · exact across.refl _

theorem addThread (across : AcrossChanges related) (session : Session κ) (thread : ThreadId) :
    related session.kernel (session.addThread thread).2.kernel := by
  refine across.trans (across.capabilities session) ?_
  have equipped := across.equip session.capabilities.1 (session.announce thread) thread
    (session.pattern? thread)
  rw [addThread_eq]
  split
  · next failed => rwa [failed] at equipped
  · next after answered =>
      rw [answered] at equipped
      rw [kernel_follow_showRegisters]
      exact equipped

theorem removeThread (across : AcrossChanges related) (session : Session κ) (thread : ThreadId) :
    related session.kernel (session.removeThread thread).kernel := by
  obtain ⟨handles, notices, removed⟩ := removeThread_eq session thread
  rw [removed]
  exact (across.registrations thread).dropRegistrations _ (session.forget thread) handles

end Threads

end AcrossChanges

namespace AcrossCalls

open Session

variable {κ : Type} [Kernel κ] {related : κ → κ → Prop} {session : Session κ} {thread : ThreadId}
  {bank : RegisterBank}

theorem attempts (across : AcrossCalls related) {outcome : Outcome κ Unit}
    (attempted : Attempts session thread bank outcome) :
    related session.kernel outcome.2.kernel := by
  have written := across.writeRegisters session.kernel thread bank (session.bankBlock thread bank)
  cases attempted with
  | written wrote | failed wrote => rwa [wrote] at written

theorem flushBank (across : AcrossCalls related) (session : Session κ) (thread : ThreadId)
    (bank : RegisterBank) : related session.kernel (session.flushBank thread bank).2.kernel := by
  have flushed := flushes session thread bank
  generalize session.flushBank thread bank = outcome at flushed
  cases flushed with
  | clean settled => exact across.refl _
  | once dirty attempted => exact across.attempts attempted
  | twice dirty watched capable wrote attempted =>
      have written := across.writeRegisters session.kernel thread .watchpoints
        (session.bankBlock thread .watchpoints)
      rw [wrote] at written
      have later := across.attempts attempted
      rw [kernel_restrictTo] at later
      exact across.trans written later

theorem flushBanks (across : AcrossCalls related) (session : Session κ) (thread : ThreadId)
    (banks : List RegisterBank) :
    related session.kernel (session.flushBanks thread banks).2.kernel := by
  induction banks generalizing session with
  | nil => exact across.refl _
  | cons bank rest ih =>
      have first := across.flushBank session thread bank
      unfold Session.flushBanks
      split
      · next failed => rwa [failed] at first
      · next flushed answered =>
          rw [answered] at first
          exact across.trans first (ih flushed)

theorem prepareToResume (across : AcrossCalls related) (session : Session κ) (thread : ThreadId) :
    related session.kernel (session.prepareToResume thread).2.kernel := by
  have probed := across.capabilities session
  unfold Session.prepareToResume
  dsimp only
  split
  · exact across.trans probed (across.flushBanks session.capabilities.2 thread RegisterBank.all)
  · exact probed

end AcrossCalls

end DebugRegisters
