import DebugRegisters.Proofs.Session.Journal

/-!
# Kernels that only fail to place points

On such a kernel a registration can be dropped whenever it is live, and what is
not live is not missed: either way the thread is left without it. Live
registrations of a thread have different numbers on any kernel.

Numbers are given out one by one, so that they tell how many registrations that
were let in got a handle.
-/

set_option autoImplicit false

namespace DebugRegisters

def CallRecord.isRegistration (record : CallRecord) : Bool :=
  record.call == .register && record.error.isNone

namespace SimulatedKernel

variable {kernel middle after : SimulatedKernel} {call : KernelCall} {thread other : ThreadId}
  {error : Option KernelError}

/-- No thread is lost, and no failures are in store but of stopping threads and
of registering points. -/
structure OnlyPlacingFails (kernel : SimulatedKernel) : Prop where
  present : kernel.vanished = []
  failures : ∀ failure ∈ kernel.failures, failure.call = .pause ∨ failure.call = .register

namespace OnlyPlacingFails

theorem follows (reliable : kernel.OnlyPlacingFails) (follows : kernel.Follows after) :
    after.OnlyPlacingFails where
  present := follows.vanished.trans reliable.present
  failures failure member := reliable.failures failure (follows.failures failure member)

theorem not_refuses_deregister (reliable : kernel.OnlyPlacingFails) {cause : KernelError} :
    ¬kernel.Refuses .deregister thread cause := by
  rintro (⟨failure, member, concerned, _⟩ | ⟨lost, _⟩)
  · simp only [OrderedFailure.concerns, Bool.and_eq_true, beq_iff_eq] at concerned
    rcases reliable.failures failure member with same | same <;> simp [same] at concerned
  · simp [reliable.present] at lost

theorem mem_registrations_deregister (reliable : kernel.OnlyPlacingFails) (handle : SlotHandle)
    {entry : Int × Registration} :
    entry ∈ ((Kernel.deregister kernel thread handle).2.threads other).registrations ↔
      entry ∈ (kernel.threads other).registrations ∧
        ¬(other = thread ∧ entry.1 = handle.number) := by
  have outcome := deregisters kernel thread handle
  generalize Kernel.deregister kernel thread handle = reply at outcome
  cases outcome with
  | refused entered refuses => exact absurd refuses reliable.not_refuses_deregister
  | unknown entered absent =>
      rw [entered.threads]
      refine ⟨fun live => ⟨live, ?_⟩, And.left⟩
      rintro ⟨rfl, same⟩
      simp only [ThreadRegisters.isRegistered, List.any_eq_false, decide_eq_true_eq] at absent
      exact absent entry live same
  | dropped entered => rw [mem_registrations_withoutRegistration, entered.threads]

/-- The kernel tells why a thread stopped. -/
theorem lastTrap_answer (reliable : kernel.OnlyPlacingFails) (thread : ThreadId) :
    (Kernel.lastTrap kernel thread).1 = .ok (kernel.threads thread).trap := by
  have undisturbed : ∀ failure ∈ kernel.failures, failure.call ≠ .lastTrap := by
    intro failure member
    rcases reliable.failures failure member with same | same <;> simp [same]
  have there : thread ∉ kernel.vanished := by simp [reliable.present]
  have entered := enter_answer undisturbed there
  have keeps := enter_keeps kernel .lastTrap thread
  change (kernel.lastTrap thread).1 = _
  unfold SimulatedKernel.lastTrap
  split
  · next failed =>
      rw [failed] at entered
      cases entered
  · next answered =>
      rw [answered] at keeps
      rw [keeps.threads]

end OnlyPlacingFails

structure IsDistinct (kernel : SimulatedKernel) : Prop where
  numbered : kernel.IsNumbered
  distinct : ∀ thread, ((kernel.threads thread).registrations.map Prod.fst).Nodup

theorem IsDistinct.fewer (distinct : kernel.IsDistinct)
    (next : after.nextHandle = kernel.nextHandle)
    (fewer : ∀ thread,
      (after.threads thread).registrations.Sublist (kernel.threads thread).registrations) :
    after.IsDistinct :=
  ⟨distinct.numbered.fewer next fewer,
    fun thread => (distinct.distinct thread).sublist ((fewer thread).map _)⟩

theorem IsDistinct.withRegistration (distinct : kernel.IsDistinct) (thread : ThreadId)
    (point : EncodedPoint) : (kernel.withRegistration thread point).IsDistinct := by
  refine ⟨distinct.numbered.withRegistration thread point, fun other => ?_⟩
  by_cases here : other = thread
  · subst here
    rw [registrations_withRegistration_self, List.map_append, List.nodup_append]
    refine ⟨distinct.distinct other, List.nodup_singleton _, ?_⟩
    intro number before new latest same
    obtain ⟨entry, live, rfl⟩ := List.mem_map.mp before
    have low := distinct.numbered other entry live
    simp only [List.map_cons, List.map_nil, List.mem_singleton] at latest
    omega
  · rw [registrations_withRegistration_of_ne _ _ here]
    exact distinct.distinct other

def Answers (kernel after : SimulatedKernel) : Prop :=
  ∃ made, after.calls = kernel.calls ++ made ∧
    after.nextHandle = kernel.nextHandle + made.countP CallRecord.isRegistration

theorem Answers.refl (kernel : SimulatedKernel) : kernel.Answers kernel :=
  ⟨[], (List.append_nil _).symm, by simp⟩

theorem Answers.trans (first : kernel.Answers middle) (second : middle.Answers after) :
    kernel.Answers after := by
  obtain ⟨before, calls, next⟩ := first
  obtain ⟨later, also, further⟩ := second
  refine ⟨before ++ later, by rw [also, calls, List.append_assoc], ?_⟩
  rw [List.countP_append]
  omega

theorem Answers.next (answers : kernel.Answers after) : kernel.nextHandle ≤ after.nextHandle := by
  obtain ⟨_, _, next⟩ := answers
  omega

theorem Enters.answers (entered : kernel.Enters call thread error after)
    (other : call ≠ .register ∨ error ≠ none) : kernel.Answers after := by
  refine ⟨_, entered.calls, ?_⟩
  have unlike : CallRecord.isRegistration ⟨call, thread, error⟩ = false := by
    cases error with
    | none => simpa [CallRecord.isRegistration] using other
    | some cause => simp [CallRecord.isRegistration]
  rw [List.countP_singleton, unlike, entered.nextHandle]
  simp

structure ChangesOn (kernel : SimulatedKernel) (thread : ThreadId) (after : SimulatedKernel) :
    Prop where
  follows : kernel.Follows after
  answers : kernel.Answers after
  distinct : kernel.IsDistinct → after.IsDistinct
  elsewhere : ∀ other ≠ thread,
    (after.threads other).registrations = (kernel.threads other).registrations

theorem ChangesOn.refl (kernel : SimulatedKernel) (thread : ThreadId) :
    kernel.ChangesOn thread kernel :=
  ⟨.refl kernel, .refl kernel, id, fun _ _ => rfl⟩

theorem ChangesOn.trans (first : kernel.ChangesOn thread middle)
    (second : middle.ChangesOn thread after) : kernel.ChangesOn thread after where
  follows := first.follows.trans second.follows
  answers := first.answers.trans second.answers
  distinct := second.distinct ∘ first.distinct
  elsewhere other different :=
    (second.elsewhere other different).trans (first.elsewhere other different)

namespace Enters

theorem changesOn (entered : kernel.Enters call thread error after)
    (unlike : call ≠ .register ∨ error ≠ none) : kernel.ChangesOn other after where
  follows := entered.toFollows
  answers := entered.answers unlike
  distinct distinct := distinct.fewer entered.nextHandle fun _ =>
    entered.threads ▸ List.Sublist.refl _
  elsewhere _ _ := by rw [entered.threads]

theorem changesOn_withRegistration (entered : kernel.Enters .register thread none after)
    (point : EncodedPoint) : kernel.ChangesOn thread (after.withRegistration thread point) where
  follows := entered.toFollows.trans ⟨rfl, rfl, rfl, rfl, fun _ => id⟩
  answers := ⟨_, entered.calls, by
    change after.nextHandle + 1 = _
    rw [entered.nextHandle]
    rfl⟩
  distinct distinct :=
    (distinct.fewer entered.nextHandle fun _ => entered.threads ▸ List.Sublist.refl _).withRegistration
      thread point
  elsewhere other different := by
    rw [registrations_withRegistration_of_ne _ _ different, entered.threads]

theorem changesOn_withoutRegistration (entered : kernel.Enters .deregister thread none after)
    (number : Int) : kernel.ChangesOn thread (after.withoutRegistration thread number) := by
  have controlled := after.controlled_update thread (fun registers => registers.drop number)
    fun _ => List.filter_sublist
  refine (entered.changesOn (.inl (by decide))).trans
    ⟨⟨rfl, rfl, rfl, rfl, fun _ => id⟩, .refl _, ?_, ?_⟩
  · exact fun distinct => distinct.fewer controlled.nextHandle controlled.registrations
  · intro other different
    rw [withoutRegistration, threads_update_of_ne _ _ different]

theorem changesOn_withLegacy (entered : kernel.Enters .writeLegacy thread none after)
    (value : UInt64) : kernel.ChangesOn other (after.withLegacy thread value) := by
  have same := after.registrations_withLegacy value thread
  refine (entered.changesOn (.inl (by decide))).trans
    ⟨⟨rfl, rfl, rfl, rfl, fun _ => id⟩, .refl _, ?_, ?_⟩
  · exact fun distinct => distinct.fewer rfl fun other => same other ▸ List.Sublist.refl _
  · exact fun other _ => same other

end Enters

theorem changesOn_deregister (kernel : SimulatedKernel) (thread : ThreadId) (handle : SlotHandle) :
    kernel.ChangesOn thread (Kernel.deregister kernel thread handle).2 := by
  have outcome := deregisters kernel thread handle
  generalize Kernel.deregister kernel thread handle = reply at outcome
  cases outcome with
  | refused entered | unknown entered => exact entered.changesOn (.inl (by decide))
  | dropped entered => exact entered.changesOn_withoutRegistration handle.number

theorem acrossQuestions_changesOn (thread : ThreadId) :
    AcrossQuestions fun kernel after : SimulatedKernel => kernel.ChangesOn thread after where
  refl kernel := .refl kernel thread
  trans := .trans
  debugInfo kernel asked := (debugInfo_enters kernel asked).choose_spec.changesOn (.inl (by decide))
  writeLegacy kernel other value := by
    have outcome := writesLegacy kernel other value
    generalize Kernel.writeLegacy kernel other value = reply at outcome
    cases outcome with
    | refused entered => exact entered.changesOn (.inl (by decide))
    | written entered => exact entered.changesOn_withLegacy value
  lastTrap kernel asked := (lastTrap_enters kernel asked).choose_spec.changesOn (.inl (by decide))

theorem changesOn_dropRegistrations (report : SlotHandle → KernelError → Notice)
    (session : Session SimulatedKernel) (thread : ThreadId) (handles : List SlotHandle) :
    session.kernel.ChangesOn thread
      (Session.dropRegistrations report session thread handles).kernel := by
  induction handles generalizing session with
  | nil => exact .refl _ _
  | cons handle rest ih =>
      have dropped := changesOn_deregister session.kernel thread handle
      unfold Session.dropRegistrations
      split
      · next kernel answered =>
          rw [answered] at dropped
          exact dropped.trans (ih { session with kernel })
      · next cause kernel answered =>
          rw [answered] at dropped
          exact dropped.trans (ih ({ session with kernel }.notify (report handle cause)))

/-- Whatever of the handles is live is dropped, and nothing else. -/
theorem OnlyPlacingFails.mem_registrations_dropRegistrations {session : Session SimulatedKernel}
    (reliable : session.kernel.OnlyPlacingFails) (report : SlotHandle → KernelError → Notice)
    (handles : List SlotHandle) {entry : Int × Registration} :
    entry ∈ ((Session.dropRegistrations report session thread handles).kernel.threads
        other).registrations ↔
      entry ∈ (session.kernel.threads other).registrations ∧
        ¬(other = thread ∧ ⟨entry.1⟩ ∈ handles) := by
  induction handles generalizing session with
  | nil => simp [Session.dropRegistrations]
  | cons handle rest ih =>
      have dropped := @mem_registrations_deregister _ thread other reliable handle entry
      have later := reliable.follows (changesOn_deregister session.kernel thread handle).follows
      have split : (⟨entry.1⟩ : SlotHandle) ∈ handle :: rest ↔
          entry.1 = handle.number ∨ (⟨entry.1⟩ : SlotHandle) ∈ rest := by
        obtain ⟨number⟩ := handle
        simp
      rw [split]
      unfold Session.dropRegistrations
      split
      all_goals
        next kernel answered =>
          rw [answered] at dropped later
          refine (ih later).trans ((and_congr_left' dropped).trans ?_)
          tauto

section Triggers

variable (kernel : SimulatedKernel) (thread : ThreadId) (handle : SlotHandle) (address : Address)

theorem registrations_setTrap (other : ThreadId) (trap : Trap) :
    ((kernel.setTrap thread trap).threads other).registrations =
      (kernel.threads other).registrations := by
  unfold setTrap
  by_cases here : other = thread
  · rw [here, threads_update_self]
  · rw [threads_update_of_ne _ _ here]

/-- A trigger is the reason of the next stop, whether or not it drops the registration. -/
theorem trap_trigger :
    ((kernel.trigger thread handle address).threads thread).trap =
      some ⟨true, address, some handle.number⟩ := by
  unfold trigger setTrap
  dsimp only
  split
  · rw [threads_update_self, threads_update_self, ThreadRegisters.drop]
  · rw [threads_update_self]

theorem answers_trigger : kernel.Answers (kernel.trigger thread handle address) := by
  unfold trigger
  dsimp only
  split <;> exact .refl kernel

variable {kernel thread handle address}

/-- A trigger drops the registration that it names, and no other. -/
theorem mem_registrations_trigger {other : ThreadId} {entry : Int × Registration}
    (live : entry ∈ (kernel.threads other).registrations) :
    entry ∈ ((kernel.trigger thread handle address).threads other).registrations ∨
      other = thread ∧ entry.1 = handle.number ∧ kernel.isOneShot = true := by
  have stopped := registrations_setTrap kernel thread other ⟨true, address, some handle.number⟩
  rw [← stopped] at live
  unfold trigger
  dsimp only
  split
  · next oneShot =>
      by_cases dropped : other = thread ∧ entry.1 = handle.number
      · exact .inr ⟨dropped.1, dropped.2, oneShot⟩
      · exact .inl ((mem_registrations_withoutRegistration _).mpr ⟨live, dropped⟩)
  · exact .inl live

end Triggers

end SimulatedKernel

end DebugRegisters
