import Mathlib.Data.Multiset.AddSub
import DebugRegisters.Proofs.Kernel.Effects
import DebugRegisters.Proofs.Session.Invariants

/-!
# One way through every call

All calls of the simulated kernel take the same way. Some object to what is asked for
before they look at the thread. Then a failure that was ordered ends the call, or the loss
of its thread does. What is left is done on a thread that is there, and only there do the
calls differ.

So whatever is asked for, one record is added, a call that fails changes no thread, and a
failure in store is used up by the call that it was ordered for.
-/

set_option autoImplicit false

namespace DebugRegisters

inductive KernelRequest where
  | debugInfo (thread : ThreadId)
  | readRegisters (thread : ThreadId) (bank : RegisterBank)
  | writeRegisters (thread : ThreadId) (bank : RegisterBank) (block : Arm.RegisterBlock)
  | register (thread : ThreadId) (point : EncodedPoint)
  | deregister (thread : ThreadId) (handle : SlotHandle)
  | writeLegacy (thread : ThreadId) (value : UInt64)
  | lastTrap (thread : ThreadId)
  | pause (thread : ThreadId)

inductive KernelAnswer where
  | info (info : DebugInfo)
  | block (block : Arm.RegisterBlock)
  | handle (handle : SlotHandle)
  | trap (trap : Option Trap)
  | done

namespace KernelRequest

def call : KernelRequest → KernelCall
  | debugInfo _ => .debugInfo
  | readRegisters _ _ => .readRegisters
  | writeRegisters _ _ _ => .writeRegisters
  | register _ _ => .register
  | deregister _ _ => .deregister
  | writeLegacy _ _ => .writeLegacy
  | lastTrap _ => .lastTrap
  | pause _ => .pause

def thread : KernelRequest → ThreadId
  | debugInfo thread | readRegisters thread _ | writeRegisters thread _ _ | register thread _
  | deregister thread _ | writeLegacy thread _ | lastTrap thread | pause thread => thread

def serve {κ : Type} [Kernel κ] (kernel : κ) : KernelRequest → Reply κ KernelAnswer
  | debugInfo thread => (Kernel.debugInfo kernel thread).map (Except.map .info) id
  | readRegisters thread bank => (Kernel.readRegisters kernel thread bank).map (Except.map .block) id
  | writeRegisters thread bank block =>
      (Kernel.writeRegisters kernel thread bank block).map (Except.map fun _ => .done) id
  | register thread point => (Kernel.register kernel thread point).map (Except.map .handle) id
  | deregister thread handle =>
      (Kernel.deregister kernel thread handle).map (Except.map fun _ => .done) id
  | writeLegacy thread value =>
      (Kernel.writeLegacy kernel thread value).map (Except.map fun _ => .done) id
  | lastTrap thread => (Kernel.lastTrap kernel thread).map (Except.map .trap) id
  | pause thread => (Kernel.pause kernel thread).map (Except.map fun _ => .done) id

def concernedBy (request : KernelRequest) (failure : OrderedFailure) : Bool :=
  failure.concerns request.call request.thread

end KernelRequest

namespace SimulatedKernel

def recorded (kernel : SimulatedKernel) (request : KernelRequest) (error : Option KernelError) :
    SimulatedKernel :=
  { kernel with calls := kernel.calls ++ [⟨request.call, request.thread, error⟩] }

def objection? (kernel : SimulatedKernel) : KernelRequest → Option KernelError
  | .writeRegisters _ bank block =>
      match kernel.facility with
      | .arrays _ _ =>
          if kernel.rejects bank block then some .rejected
          else if kernel.facility.bankSize bank < block.pairs.length then some .noSpace
          else none
      | _ => some .notSupported
  | .writeLegacy _ _ =>
      match kernel.facility with
      | .legacy => none
      | _ => some .notSupported
  | _ => none

def complete (kernel : SimulatedKernel) : KernelRequest → Reply SimulatedKernel KernelAnswer
  | .debugInfo _ =>
      match kernel.facility with
      | .arrays breakpoints watchpoints =>
          (.ok (.info (.arm (some breakpoints) (some watchpoints))), kernel)
      | .handles reply => (.ok (.info (.power reply)), kernel)
      | .legacy | .absent => (.error .notSupported, kernel)
  | .readRegisters thread bank =>
      match kernel.facility with
      | .arrays breakpoints watchpoints =>
          let stored := ((kernel.threads thread).bank bank).getD
            (.disabled (kernel.facility.bankSize bank))
          let info := match bank with
            | .breakpoints => breakpoints
            | .watchpoints => watchpoints
          (.ok (.block { stored with info }), kernel)
      | _ => (.error .notSupported, kernel)
  | .writeRegisters thread bank block => (.ok .done, kernel.withBank thread bank block)
  | .register thread point =>
      match kernel.facility with
      | .handles _ =>
          if kernel.facility.bankSize point.kind.bank <
              (kernel.threads thread).used point.kind.bank + point.cost then
            (.error .noSpace, kernel)
          else (.ok (.handle ⟨kernel.nextHandle⟩), kernel.withRegistration thread point)
      | _ => (.error .notSupported, kernel)
  | .deregister thread handle =>
      if (kernel.threads thread).isRegistered handle.number then
        (.ok .done, kernel.withoutRegistration thread handle.number)
      else (.error .notFound, kernel.amendLast .notFound)
  | .writeLegacy thread value => (.ok .done, kernel.withLegacy thread value)
  | .lastTrap thread => (.ok (.trap (kernel.threads thread).trap), kernel)
  | .pause _ => (.ok .done, kernel)

variable {kernel : SimulatedKernel} {request : KernelRequest}

theorem record_eq (kernel : SimulatedKernel) (request : KernelRequest)
    (error : Option KernelError) :
    kernel.record request.call request.thread error =
      (match error with
        | none => .ok ()
        | some cause => .error cause, kernel.recorded request error) := by
  cases error <;> rfl

theorem enter_eq (kernel : SimulatedKernel) (request : KernelRequest) :
    kernel.enter request.call request.thread =
      match kernel.failures.find? request.concernedBy with
      | some failure =>
          (.error failure.error, { kernel with
            failures := kernel.failures.eraseP request.concernedBy }.recorded request
              (some failure.error))
      | none =>
          if request.thread ∈ kernel.vanished then
            (.error .noSuchThread, kernel.recorded request (some .noSuchThread))
          else (.ok (), kernel.recorded request none) := by
  unfold enter
  change (match kernel.failures.find? request.concernedBy with | some failure => _ | none => _) = _
  split
  · exact record_eq _ request _
  · by_cases lost : request.thread ∈ kernel.vanished
    · rw [if_pos lost, if_pos lost, record_eq]
    · rw [if_neg lost, if_neg lost, record_eq]

def proceed (request : KernelRequest) :
    Reply SimulatedKernel Unit → Reply SimulatedKernel KernelAnswer
  | (.error cause, after) => (.error cause, after)
  | (.ok (), after) => after.complete request

theorem serve_eq (kernel : SimulatedKernel) (request : KernelRequest) :
    request.serve kernel =
      match kernel.objection? request with
      | some cause => (.error cause, kernel.recorded request (some cause))
      | none => proceed request (kernel.enter request.call request.thread) := by
  cases request with
  | debugInfo thread =>
      change Prod.map _ _ (kernel.debugInfo thread) = proceed _ (kernel.enter .debugInfo thread)
      unfold SimulatedKernel.debugInfo
      obtain ⟨cause | _, after⟩ := kernel.enter .debugInfo thread
      · rfl
      · dsimp only [proceed, complete]
        cases after.facility <;> rfl
  | readRegisters thread bank =>
      change Prod.map _ _ (kernel.readRegisters thread bank) =
        proceed _ (kernel.enter .readRegisters thread)
      unfold SimulatedKernel.readRegisters
      obtain ⟨cause | _, after⟩ := kernel.enter .readRegisters thread
      · rfl
      · dsimp only [proceed, complete]
        cases after.facility <;> rfl
  | writeRegisters thread bank block =>
      change Prod.map _ _ (kernel.writeRegisters thread bank block) = _
      unfold SimulatedKernel.writeRegisters objection?
      dsimp only [KernelRequest.call, KernelRequest.thread]
      cases kernel.facility with
      | arrays breakpoints watchpoints =>
          dsimp only
          split
          · rfl
          · split
            · rfl
            · obtain ⟨cause | _, after⟩ := kernel.enter .writeRegisters thread <;> rfl
      | handles | legacy | absent => rfl
  | register thread point =>
      change Prod.map _ _ (kernel.register thread point) = proceed _ (kernel.enter .register thread)
      unfold SimulatedKernel.register
      obtain ⟨cause | _, after⟩ := kernel.enter .register thread
      · rfl
      · dsimp only [proceed, complete]
        cases after.facility with
        | handles reply =>
            dsimp only
            split <;> rfl
        | arrays | legacy | absent => rfl
  | deregister thread handle =>
      change Prod.map _ _ (kernel.deregister thread handle) =
        proceed _ (kernel.enter .deregister thread)
      unfold SimulatedKernel.deregister
      obtain ⟨cause | _, after⟩ := kernel.enter .deregister thread
      · rfl
      · dsimp only [proceed, complete]
        split <;> rfl
  | writeLegacy thread value =>
      change Prod.map _ _ (kernel.writeLegacy thread value) = _
      unfold SimulatedKernel.writeLegacy objection?
      dsimp only [KernelRequest.call, KernelRequest.thread]
      cases kernel.facility with
      | legacy => obtain ⟨cause | _, after⟩ := kernel.enter .writeLegacy thread <;> rfl
      | arrays | handles | absent => rfl
  | lastTrap thread =>
      change Prod.map _ _ (kernel.lastTrap thread) = proceed _ (kernel.enter .lastTrap thread)
      unfold SimulatedKernel.lastTrap
      obtain ⟨cause | _, after⟩ := kernel.enter .lastTrap thread <;> rfl
  | pause thread =>
      change Prod.map _ _ (kernel.enter .pause thread) = proceed _ (kernel.enter .pause thread)
      obtain ⟨cause | _, after⟩ := kernel.enter .pause thread <;> rfl

inductive Completes (kernel : SimulatedKernel) :
    KernelRequest → Reply SimulatedKernel KernelAnswer → Prop where
  | refused {request : KernelRequest} {cause : KernelError} :
      Completes kernel request (.error cause, kernel)
  | unknown {request : KernelRequest} :
      Completes kernel request (.error .notFound, kernel.amendLast .notFound)
  | answered {request : KernelRequest} {answer : KernelAnswer}
      (other : ∀ handle, answer ≠ .handle handle) : Completes kernel request (.ok answer, kernel)
  | changed {request : KernelRequest} {after : SimulatedKernel}
      (controlled : kernel.Controlled after) (failures : after.failures = kernel.failures)
      (calls : after.calls = kernel.calls) : Completes kernel request (.ok .done, after)
  | registered {thread : ThreadId} {point : EncodedPoint}
      (room : (kernel.threads thread).used point.kind.bank + point.cost ≤
        kernel.facility.bankSize point.kind.bank) :
      Completes kernel (.register thread point)
        (.ok (.handle ⟨kernel.nextHandle⟩), kernel.withRegistration thread point)

theorem completes (kernel : SimulatedKernel) (request : KernelRequest) :
    Completes kernel request (kernel.complete request) := by
  cases request with
  | debugInfo thread =>
      unfold complete
      dsimp only
      cases kernel.facility with
      | arrays | handles => exact .answered nofun
      | legacy | absent => exact .refused
  | readRegisters thread bank =>
      unfold complete
      dsimp only
      cases kernel.facility with
      | arrays => exact .answered nofun
      | handles | legacy | absent => exact .refused
  | writeRegisters thread bank block =>
      have written := kernel.controlled_update thread (fun registers => registers.setBank block bank)
        fun registers => by cases bank <;> exact List.Sublist.refl _
      exact .changed ⟨written.facility, written.nextHandle, written.registrations⟩ rfl rfl
  | register thread point =>
      unfold complete
      dsimp only
      split
      · split
        · exact .refused
        · next room => exact .registered (Nat.le_of_not_lt room)
      · exact .refused
  | deregister thread handle =>
      unfold complete
      dsimp only
      split
      · exact .changed (kernel.controlled_update thread _ fun _ => List.filter_sublist) rfl rfl
      · exact .unknown
  | writeLegacy thread value =>
      exact .changed (kernel.controlled_update thread _ fun _ => List.Sublist.refl _) rfl rfl
  | lastTrap thread => exact .answered nofun
  | pause thread => exact .answered nofun

/-- The answer does not depend on the failures that are in store. -/
theorem answer_complete_of_failures (kernel : SimulatedKernel) (failures : List OrderedFailure)
    (request : KernelRequest) :
    ({ kernel with failures }.complete request).1 = (kernel.complete request).1 := by
  cases request with
  | debugInfo thread | readRegisters thread bank =>
      unfold complete
      dsimp only
      cases kernel.facility <;> rfl
  | register thread point =>
      unfold complete
      dsimp only
      split
      · split <;> rfl
      · rfl
  | deregister thread handle =>
      unfold complete
      dsimp only
      split <;> rfl
  | writeRegisters | writeLegacy | lastTrap | pause => rfl

inductive Serves (kernel : SimulatedKernel) (request : KernelRequest) :
    Reply SimulatedKernel KernelAnswer → Prop where
  | objected {cause : KernelError} (objects : kernel.objection? request = some cause) :
      Serves kernel request (.error cause, kernel.recorded request (some cause))
  | ordered {failure : OrderedFailure} {left : List OrderedFailure}
      (stored : kernel.failures.Perm (failure :: left))
      (concerned : request.concernedBy failure = true) :
      Serves kernel request
        (.error failure.error, { kernel with failures := left }.recorded request (some failure.error))
  | lost (undisturbed : kernel.failures.find? request.concernedBy = none) :
      Serves kernel request (.error .noSuchThread, kernel.recorded request (some .noSuchThread))
  | completed {reply : Reply SimulatedKernel KernelAnswer}
      (undisturbed : kernel.failures.find? request.concernedBy = none)
      (completes : Completes (kernel.recorded request none) request reply) :
      Serves kernel request reply

/-- The failure that is used is the first of those that were ordered for the call. -/
theorem perm_of_find? {holds : OrderedFailure → Bool} {failures : List OrderedFailure}
    {failure : OrderedFailure} (found : failures.find? holds = some failure) :
    failures.Perm (failure :: failures.eraseP holds) := by
  obtain ⟨concerned, before, after, rfl, others⟩ := List.find?_eq_some_iff_append.mp found
  rw [List.eraseP_append_right _ (fun other member => by simpa using others other member),
    List.eraseP_cons_of_pos concerned]
  exact List.perm_middle

theorem serves (kernel : SimulatedKernel) (request : KernelRequest) :
    Serves kernel request (request.serve kernel) := by
  rw [serve_eq]
  split
  · next objects => exact .objected objects
  · rw [enter_eq]
    split
    · next found => exact .ordered (perm_of_find? found) (List.find?_some found)
    · next undisturbed =>
        by_cases lost : request.thread ∈ kernel.vanished
        · rw [if_pos lost]
          exact .lost undisturbed
        · rw [if_neg lost]
          exact .completed undisturbed (completes _ request)

/-- Unless a failure was ordered for it, a call answers as if none had been ordered at
all. An objection comes before any order. -/
theorem answer_serve_of_undisturbed
    (undisturbed : kernel.objection? request ≠ none ∨
      kernel.failures.find? request.concernedBy = none) :
    (request.serve kernel).1 = (request.serve { kernel with failures := [] }).1 := by
  have same : ({ kernel with failures := [] } : SimulatedKernel).objection? request =
      kernel.objection? request := by
    cases request <;> rfl
  rw [serve_eq, serve_eq, same]
  cases objects : kernel.objection? request with
  | some cause => rfl
  | none =>
      have free := undisturbed.resolve_left (not_not.mpr objects)
      rw [enter_eq, enter_eq, free]
      dsimp only [List.find?_nil]
      by_cases lost : request.thread ∈ kernel.vanished
      · rw [if_pos lost, if_pos lost]
        rfl
      · rw [if_neg lost, if_neg lost]
        exact (answer_complete_of_failures (kernel.recorded request none) [] request).symm

/-! ## What one call does -/

/-- A registration is added, and its handle is the answer; or nothing is added and no handle
is given out. -/
inductive Grants (kernel : SimulatedKernel) :
    KernelRequest → Reply SimulatedKernel KernelAnswer → Prop where
  | registered {entered : SimulatedKernel} {thread : ThreadId} {point : EncodedPoint}
      (begun : kernel.Controlled entered)
      (room : (entered.threads thread).used point.kind.bank + point.cost ≤
        entered.facility.bankSize point.kind.bank) :
      Grants kernel (.register thread point)
        (.ok (.handle ⟨entered.nextHandle⟩), entered.withRegistration thread point)
  | plain {request : KernelRequest} {answer : Except KernelError KernelAnswer}
      {after : SimulatedKernel}
      (controlled : kernel.Controlled after) (other : ∀ handle, answer ≠ .ok (.handle handle)) :
      Grants kernel request (answer, after)

theorem grants (kernel : SimulatedKernel) (request : KernelRequest) :
    Grants kernel request (request.serve kernel) := by
  have recorded : ∀ error, kernel.Controlled (kernel.recorded request error) :=
    fun error => .of_threads rfl rfl rfl
  have served := serves kernel request
  generalize request.serve kernel = reply at served
  cases served with
  | objected | lost => exact .plain (recorded _) nofun
  | ordered => exact .plain (.of_threads rfl rfl rfl) nofun
  | completed _ completes =>
      cases completes with
      | refused => exact .plain (recorded _) nofun
      | unknown => exact .plain (.of_threads rfl rfl rfl) nofun
      | answered other => exact .plain (recorded _) fun handle same => other handle (by injection same)
      | changed controlled => exact .plain ((recorded none).trans controlled) nofun
      | registered room => exact .registered (recorded none) room

def spentIn (kernel : SimulatedKernel) (reply : Reply SimulatedKernel KernelAnswer) :
    Multiset OrderedFailure :=
  (kernel.failures : Multiset OrderedFailure) - reply.2.failures

theorem failures_complete {reply : Reply SimulatedKernel KernelAnswer}
    (completes : Completes kernel request reply) : reply.2.failures = kernel.failures := by
  cases completes with
  | refused | unknown | answered | registered => rfl
  | changed _ failures => exact failures

/-- What a call does with the failures in store. It uses none up and answers as if there were
none, or it uses up one that was ordered for it and fails with its error. -/
inductive Spends (kernel : SimulatedKernel) (request : KernelRequest) :
    Reply SimulatedKernel KernelAnswer → Prop where
  | nothing {reply : Reply SimulatedKernel KernelAnswer} (spent : kernel.spentIn reply = 0)
      (answer : reply.1 = (request.serve { kernel with failures := [] }).1) :
      Spends kernel request reply
  | one {failure : OrderedFailure} {after : SimulatedKernel}
      (spent : kernel.spentIn (.error failure.error, after) = {failure})
      (concerned : request.concernedBy failure = true) :
      Spends kernel request (.error failure.error, after)

theorem spentIn_of_kept {reply : Reply SimulatedKernel KernelAnswer}
    (kept : reply.2.failures = kernel.failures) : kernel.spentIn reply = 0 := by
  have nothing : 0 + (kernel.failures : Multiset OrderedFailure) - kernel.failures = 0 :=
    Multiset.add_sub_cancel_right
  rw [zero_add] at nothing
  rwa [spentIn, kept]

theorem spends (kernel : SimulatedKernel) (request : KernelRequest) :
    Spends kernel request (request.serve kernel) := by
  have served := serves kernel request
  have calm := @answer_serve_of_undisturbed kernel request
  generalize request.serve kernel = reply at served calm
  cases served with
  | objected objects => exact .nothing (spentIn_of_kept rfl) (calm (.inl (by simp [objects])))
  | @ordered failure left stored concerned =>
      refine .one ?_ concerned
      change (kernel.failures : Multiset OrderedFailure) - left = {failure}
      rw [Multiset.coe_eq_coe.mpr stored, ← Multiset.cons_coe, ← Multiset.singleton_add]
      exact Multiset.add_sub_cancel_right
  | lost undisturbed => exact .nothing (spentIn_of_kept rfl) (calm (.inr undisturbed))
  | completed undisturbed completes =>
      have kept := failures_complete completes
      exact .nothing (spentIn_of_kept kept) (calm (.inr undisturbed))

theorem failures_serve_le (kernel : SimulatedKernel) (request : KernelRequest) :
    ((request.serve kernel).2.failures : Multiset OrderedFailure) ≤ kernel.failures := by
  have served := serves kernel request
  generalize request.serve kernel = reply at served
  cases served with
  | objected | lost => exact le_refl _
  | ordered stored =>
      rw [Multiset.coe_eq_coe.mpr stored]
      exact Multiset.le_cons_self _ _
  | completed _ completes =>
      have kept := failures_complete completes
      rw [kept]
      exact le_refl _

/-- A call that is completed stays on record, if perhaps with another error. -/
theorem calls_complete {reply : Reply SimulatedKernel KernelAnswer}
    (completes : Completes (kernel.recorded request none) request reply) :
    ∃ error, reply.2.calls = kernel.calls ++ [⟨request.call, request.thread, error⟩] := by
  cases completes with
  | refused | answered | registered => exact ⟨none, rfl⟩
  | changed _ _ calls => exact ⟨none, calls⟩
  | unknown =>
      have recorded : (kernel.recorded request none).calls =
          kernel.calls ++ [⟨request.call, request.thread, none⟩] := rfl
      exact ⟨some .notFound, calls_amendLast recorded .notFound⟩

structure IsServed (kernel : SimulatedKernel) (request : KernelRequest)
    (reply : Reply SimulatedKernel KernelAnswer) : Prop where
  recorded : ∃ error, reply.2.calls = kernel.calls ++ [⟨request.call, request.thread, error⟩]
  unchanged (cause : KernelError) : reply.1 = .error cause → reply.2.threads = kernel.threads
  spends : Spends kernel request reply

theorem isServed (kernel : SimulatedKernel) (request : KernelRequest) :
    IsServed kernel request (request.serve kernel) := by
  have served := serves kernel request
  have spends := spends kernel request
  generalize request.serve kernel = reply at served spends
  refine ⟨?_, fun cause failed => ?_, spends⟩
  · cases served with
    | objected | ordered | lost => exact ⟨_, rfl⟩
    | completed _ completes => exact calls_complete completes
  · cases served with
    | objected | ordered | lost => rfl
    | completed _ completes =>
        cases completes with
        | refused | unknown => rfl
        | answered | changed | registered => cases failed

end SimulatedKernel

end DebugRegisters
