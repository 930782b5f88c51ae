import DebugRegisters.Proofs.Kernel.HandleContract
import DebugRegisters.Proofs.Session.Journal

/-!
# The register contract

What a kernel promises about the debug registers of its threads where each of its
calls may fail: a call that fails changes nothing, and one that succeeds does what
it was made for and nothing else. Nothing is promised about when calls succeed.
-/

set_option autoImplicit false

namespace DebugRegisters

theorem LivePoints.set_set (live : LivePoints) (thread : ThreadId) (handle : SlotHandle)
    (first second : Option EncodedPoint) :
    (live.set thread handle first).set thread handle second = live.set thread handle second := by
  unfold set
  rw [Function.update_self, Function.update_idem, Function.update_idem]

/-- What can be seen of the debug registers of all threads. -/
structure RegisterView where
  live : LivePoints
  legacy : ThreadId → UInt64
  /-- How often the data breakpoint register of a thread was set. -/
  timesSet : ThreadId → Nat
  banks : ThreadId → RegisterBank → Option Arm.RegisterBlock
  /-- The banks that were written, oldest first. -/
  writes : List BankWrite

namespace RegisterView

def setLive (view : RegisterView) (thread : ThreadId) (handle : SlotHandle)
    (point? : Option EncodedPoint) : RegisterView :=
  { view with live := view.live.set thread handle point? }

def setLegacy (view : RegisterView) (thread : ThreadId) (value : UInt64) : RegisterView :=
  { view with
    legacy := Function.update view.legacy thread value
    timesSet := Function.update view.timesSet thread (view.timesSet thread + 1) }

/-- `now` is as `view`, but that a data breakpoint register may have been set since
and is zero then. -/
structure ReturnsTo (view now : RegisterView) : Prop where
  live : now.live = view.live
  banks : now.banks = view.banks
  writes : now.writes = view.writes
  legacy : ∀ thread,
    now.timesSet thread = view.timesSet thread ∧ now.legacy thread = view.legacy thread ∨
      view.timesSet thread < now.timesSet thread ∧ now.legacy thread = 0

namespace ReturnsTo

variable {view middle now : RegisterView} {thread : ThreadId}

theorem refl (view : RegisterView) : view.ReturnsTo view :=
  ⟨rfl, rfl, rfl, fun _ => .inl ⟨rfl, rfl⟩⟩

theorem trans (first : view.ReturnsTo middle) (second : middle.ReturnsTo now) :
    view.ReturnsTo now where
  live := second.live.trans first.live
  banks := second.banks.trans first.banks
  writes := second.writes.trans first.writes
  legacy thread := by
    rcases second.legacy thread with ⟨same, kept⟩ | ⟨later, zero⟩
    · rw [same, kept]
      exact first.legacy thread
    · rcases first.legacy thread with ⟨same, -⟩ | ⟨early, -⟩
      · exact .inr ⟨same ▸ later, zero⟩
      · exact .inr ⟨early.trans later, zero⟩

theorem withdrawn {handle : SlotHandle} {point : EncodedPoint}
    (free : view.live thread handle = none)
    (returned : (view.setLive thread handle (some point)).ReturnsTo now) :
    view.ReturnsTo (now.setLive thread handle none) where
  live := by
    change now.live.set thread handle none = view.live
    rw [returned.live]
    exact (LivePoints.set_set _ _ _ _ _).trans (LivePoints.set_eq_self free)
  banks := returned.banks
  writes := returned.writes
  legacy := returned.legacy

theorem cleared {value : UInt64} (returned : (view.setLegacy thread value).ReturnsTo now) :
    view.ReturnsTo (now.setLegacy thread 0) where
  live := returned.live
  banks := returned.banks
  writes := returned.writes
  legacy other := by
    have before := returned.legacy other
    simp only [setLegacy, Function.update_apply] at before ⊢
    by_cases here : other = thread
    · subst here
      simp only [if_true] at before ⊢
      exact .inr ⟨by omega, trivial⟩
    · simpa only [if_neg here] using before

end ReturnsTo

end RegisterView

/-- The promises of a kernel whose calls may fail. -/
structure RegisterContract (κ : Type) [Kernel κ] where
  view : κ → RegisterView
  /-- The states in which the kernel keeps its promises. -/
  valid : κ → Prop
  stays : AcrossChanges fun kernel after : κ => valid kernel → valid after
  asks (kernel : κ) (thread : ThreadId) : view (Kernel.debugInfo kernel thread).2 = view kernel
  pauses (kernel : κ) (thread : ThreadId) : view (Kernel.pause kernel thread).2 = view kernel
  /-- A point is registered under a handle that was free on the thread. -/
  registers {kernel after : κ} {thread : ThreadId} {point : EncodedPoint} {handle : SlotHandle}
    (valid : valid kernel)
    (answered : Kernel.register kernel thread point = (.ok handle, after)) :
    (view kernel).live thread handle = none ∧
      view after = (view kernel).setLive thread handle (some point)
  refuses {kernel after : κ} {thread : ThreadId} {point : EncodedPoint} {cause : KernelError}
    (answered : Kernel.register kernel thread point = (.error cause, after)) :
    view after = view kernel
  drops {kernel after : κ} {thread : ThreadId} {handle : SlotHandle}
    (answered : Kernel.deregister kernel thread handle = (.ok (), after)) :
    view after = (view kernel).setLive thread handle none
  sets {kernel after : κ} {thread : ThreadId} {value : UInt64}
    (answered : Kernel.writeLegacy kernel thread value = (.ok (), after)) :
    view after = (view kernel).setLegacy thread value
  leaves {kernel after : κ} {thread : ThreadId} {value : UInt64} {cause : KernelError}
    (answered : Kernel.writeLegacy kernel thread value = (.error cause, after)) :
    view after = view kernel

namespace SimulatedKernel

def registerView (kernel : SimulatedKernel) : RegisterView where
  live thread handle :=
    ((kernel.threads thread).registrations.find? fun entry => entry.1 = handle.number).map
      fun entry => entry.2.point
  legacy thread := (kernel.threads thread).legacy
  timesSet := kernel.timesSet
  banks thread := (kernel.threads thread).bank
  writes := kernel.writes

section Views

variable {kernel after : SimulatedKernel} {call : KernelCall} {thread : ThreadId}
  {error : Option KernelError}

theorem Enters.registerView (entered : kernel.Enters call thread error after)
    (other : call ≠ .writeLegacy ∨ error ≠ none) : after.registerView = kernel.registerView := by
  have counted : after.timesSet = kernel.timesSet := funext (entered.timesSet_eq other)
  simp only [SimulatedKernel.registerView, entered.threads, entered.writes, counted]

theorem registerView_withRegistration (numbered : kernel.IsNumbered) (thread : ThreadId)
    (point : EncodedPoint) :
    kernel.registerView.live thread ⟨kernel.nextHandle⟩ = none ∧
      (kernel.withRegistration thread point).registerView =
        kernel.registerView.setLive thread ⟨kernel.nextHandle⟩ (some point) := by
  have free : (kernel.threads thread).registrations.find?
      (fun entry => entry.1 = kernel.nextHandle) = none := by
    rw [List.find?_eq_none]
    intro entry member same
    have low := numbered thread entry member
    have equal : entry.1 = kernel.nextHandle := of_decide_eq_true same
    omega
  refine ⟨by simp [registerView, free], ?_⟩
  have banks : (fun other => ((kernel.withRegistration thread point).threads other).bank) =
      fun other => (kernel.threads other).bank := by
    funext other bank
    exact (continues_withRegistration kernel thread point).banks other bank
  have legacy : (fun other => ((kernel.withRegistration thread point).threads other).legacy) =
      fun other => (kernel.threads other).legacy := by
    funext other
    exact (continues_withRegistration kernel thread point).legacy other rfl
  simp only [registerView, RegisterView.setLive, banks, legacy]
  congr 1
  funext other handle
  obtain ⟨number⟩ := handle
  by_cases here : other = thread
  · subst here
    rw [registrations_withRegistration_self, LivePoints.set_self, List.find?_append]
    by_cases new : number = kernel.nextHandle
    · simp [new, free]
    · simp [new, Ne.symm new]
  · rw [registrations_withRegistration_of_ne _ _ here, LivePoints.set, Function.update_of_ne here]

theorem registerView_withoutRegistration (kernel : SimulatedKernel) (thread : ThreadId)
    (handle : SlotHandle) :
    (kernel.withoutRegistration thread handle.number).registerView =
      kernel.registerView.setLive thread handle none := by
  have same := continues_withoutRegistration kernel thread handle.number
  have banks : (fun other => ((kernel.withoutRegistration thread handle.number).threads other).bank) =
      fun other => (kernel.threads other).bank := funext fun other => funext (same.banks other)
  have legacy : (fun other =>
      ((kernel.withoutRegistration thread handle.number).threads other).legacy) =
      fun other => (kernel.threads other).legacy := funext fun other => same.legacy other rfl
  simp only [registerView, RegisterView.setLive, banks, legacy]
  congr 1
  funext other held
  obtain ⟨number⟩ := handle
  obtain ⟨live⟩ := held
  unfold withoutRegistration
  by_cases here : other = thread
  · subst here
    rw [threads_update_self, ThreadRegisters.drop, List.find?_filter, LivePoints.set_self]
    by_cases gone : live = number
    · simp [gone]
    · rw [if_neg fun same => gone (congrArg SlotHandle.number same)]
      congr 2
      funext entry
      by_cases found : entry.1 = live
      · simp [found, gone]
      · simp [found]
  · rw [threads_update_of_ne _ _ here, LivePoints.set, Function.update_of_ne here]

theorem registerView_withLegacy (entered : kernel.Enters .writeLegacy thread none after)
    (value : UInt64) :
    (after.withLegacy thread value).registerView = kernel.registerView.setLegacy thread value := by
  have counted : (after.withLegacy thread value).timesSet =
      Function.update kernel.timesSet thread (kernel.timesSet thread + 1) := by
    funext other
    rw [Function.update_apply]
    split
    · next here => exact here ▸ entered.timesSet_self
    · next away => exact entered.timesSet_of_ne away
  have legacy : (fun other => ((after.withLegacy thread value).threads other).legacy) =
      Function.update (fun other => (kernel.threads other).legacy) thread value := by
    funext other
    rw [Function.update_apply]
    split
    · next here => exact here ▸ legacy_withLegacy after value thread
    · next away => rw [threads_withLegacy_of_ne _ _ away, entered.threads]
  have banks : (fun other => ((after.withLegacy thread value).threads other).bank) =
      fun other => (kernel.threads other).bank := by
    funext other bank
    rw [bank_withLegacy, entered.threads]
  have writes : (after.withLegacy thread value).writes = kernel.writes := entered.writes
  simp only [registerView, RegisterView.setLegacy, counted, legacy, banks, writes,
    registrations_withLegacy, entered.threads]

end Views

def registerContract : RegisterContract SimulatedKernel where
  view := registerView
  valid := IsNumbered
  stays := acrossCalls_numbered.toAcrossChanges
  asks kernel thread := by
    obtain ⟨error, entered⟩ := debugInfo_enters kernel thread
    exact entered.registerView (.inl (by decide))
  pauses kernel thread := by
    have admitted := admits_pause kernel thread
    generalize Kernel.pause kernel thread = outcome at admitted
    cases admitted with
    | admitted entered | refused entered => exact entered.registerView (.inl (by decide))
  registers {kernel after thread point handle} numbered answered := by
    have outcome := SimulatedKernel.registers kernel thread point
    rw [answered] at outcome
    cases outcome with
    | @registered entered begun =>
        have before := begun.registerView (.inl (by decide))
        have numberedNow : entered.IsNumbered := numbered.fewer begun.nextHandle fun other =>
          begun.threads ▸ List.Sublist.refl _
        have made := registerView_withRegistration numberedNow thread point
        rwa [begun.nextHandle, before] at made
  refuses {kernel after thread point cause} answered := by
    have outcome := SimulatedKernel.registers kernel thread point
    rw [answered] at outcome
    cases outcome with
    | refused entered | full entered | foreign entered => exact entered.registerView (.inl (by decide))
  drops {kernel after thread handle} answered := by
    have outcome := deregisters kernel thread handle
    rw [answered] at outcome
    cases outcome with
    | dropped begun =>
        rw [registerView_withoutRegistration, begun.registerView (.inl (by decide))]
  sets {kernel after thread value} answered := by
    have outcome := writesLegacy kernel thread value
    rw [answered] at outcome
    cases outcome with
    | written begun => exact registerView_withLegacy begun value
  leaves {kernel after thread value cause} answered := by
    have outcome := writesLegacy kernel thread value
    rw [answered] at outcome
    cases outcome with
    | refused entered => exact entered.registerView (.inr (Option.some_ne_none cause))

end SimulatedKernel

end DebugRegisters
