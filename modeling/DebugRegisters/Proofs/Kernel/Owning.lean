import DebugRegisters.Proofs.Kernel.Placing

/-!
# Whose registrations handles name

No number is given out twice, so a registration that comes later never has the
number of an earlier one. A number that is live on one thread only stays so, and
what a thread has got since some state of the kernel can be told from what it
had by the numbers alone.
-/

set_option autoImplicit false

namespace DebugRegisters

def DropsAll {κ : Type} [Kernel κ] (thread : ThreadId) : κ → List SlotHandle → Prop
  | _, [] => True
  | kernel, handle :: rest =>
      ∃ after, Kernel.deregister kernel thread handle = (.ok (), after) ∧ DropsAll thread after rest

namespace SimulatedKernel

variable {kernel middle after origin : SimulatedKernel} {thread owner : ThreadId} {number : Int}
  {handle : SlotHandle} {handles : List SlotHandle}

structure Issues (kernel after : SimulatedKernel) : Prop where
  next : kernel.nextHandle ≤ after.nextHandle
  distinct : kernel.IsDistinct → after.IsDistinct
  fresh : ∀ thread, ∀ entry ∈ (after.threads thread).registrations,
    entry ∈ (kernel.threads thread).registrations ∨ kernel.nextHandle ≤ entry.1

theorem Issues.refl (kernel : SimulatedKernel) : kernel.Issues kernel :=
  ⟨Int.le_refl _, id, fun _ _ => .inl⟩

theorem Issues.trans (first : kernel.Issues middle) (second : middle.Issues after) :
    kernel.Issues after := by
  refine ⟨Int.le_trans first.next second.next, second.distinct ∘ first.distinct, ?_⟩
  intro thread entry live
  rcases second.fresh thread entry live with before | new
  · exact first.fresh thread entry before
  · exact .inr (Int.le_trans first.next new)

theorem issues_of_fewer (next : after.nextHandle = kernel.nextHandle)
    (fewer : ∀ thread,
      (after.threads thread).registrations.Sublist (kernel.threads thread).registrations) :
    kernel.Issues after where
  next := next.symm.le
  distinct distinct := distinct.fewer next fewer
  fresh thread _ live := .inl ((fewer thread).subset live)

theorem Controlled.issues (controlled : kernel.Controlled after) : kernel.Issues after :=
  issues_of_fewer controlled.nextHandle controlled.registrations

theorem Enters.issues {call : KernelCall} {error : Option KernelError}
    (entered : kernel.Enters call thread error after) : kernel.Issues after :=
  issues_of_fewer entered.nextHandle fun _ => entered.threads ▸ List.Sublist.refl _

theorem issues_withRegistration (kernel : SimulatedKernel) (thread : ThreadId)
    (point : EncodedPoint) : kernel.Issues (kernel.withRegistration thread point) where
  next := by
    change kernel.nextHandle ≤ kernel.nextHandle + 1
    omega
  distinct distinct := distinct.withRegistration thread point
  fresh other entry live := by
    rcases (mem_registrations_withRegistration kernel point).mp live with before | ⟨_, rfl⟩
    · exact .inl before
    · exact .inr (Int.le_refl _)

theorem acrossCalls_issues : AcrossCalls SimulatedKernel.Issues := by
  refine acrossCalls_of_effects (acrossChanges_of_effects .refl .trans
    (fun entered _ => entered.issues) issues_withRegistration ?_ ?_) Enters.issues ?_
  · intro kernel thread number
    have dropped := kernel.controlled_update thread (fun registers => registers.drop number)
      fun _ => List.filter_sublist
    exact dropped.issues
  · intro kernel after thread value entered
    have same := after.controlled_update thread (fun registers => { registers with legacy := value })
      fun _ => List.Sublist.refl _
    exact entered.issues.trans same.issues
  · intro kernel thread bank block
    have same := kernel.controlled_update thread (fun registers => registers.setBank block bank)
      fun registers => by cases bank <;> exact List.Sublist.refl _
    exact issues_of_fewer same.nextHandle same.registrations

/-- The number was given out, and no thread but `thread` has it. -/
structure Owns (kernel : SimulatedKernel) (thread : ThreadId) (number : Int) : Prop where
  issued : number < kernel.nextHandle
  apart : ∀ other ≠ thread, ∀ entry ∈ (kernel.threads other).registrations, entry.1 ≠ number

theorem Owns.later (owns : kernel.Owns thread number) (issues : kernel.Issues after) :
    after.Owns thread number where
  issued := Int.lt_of_lt_of_le owns.issued issues.next
  apart other different entry live := by
    have issued := owns.issued
    rcases issues.fresh other entry live with before | new
    · exact owns.apart other different entry before
    · omega

theorem owns_withRegistration (distinct : kernel.IsDistinct) (thread : ThreadId)
    (point : EncodedPoint) : (kernel.withRegistration thread point).Owns thread kernel.nextHandle where
  issued := by
    change kernel.nextHandle < kernel.nextHandle + 1
    omega
  apart other different entry live := by
    rw [registrations_withRegistration_of_ne _ _ different] at live
    have low := distinct.numbered other entry live
    omega

/-- To drop a handle that is not live changes no thread. -/
theorem threads_deregister_of_absent
    (absent : (kernel.threads thread).isRegistered handle.number = false) :
    (Kernel.deregister kernel thread handle).2.threads = kernel.threads := by
  have outcome := deregisters kernel thread handle
  generalize Kernel.deregister kernel thread handle = reply at outcome
  cases outcome with
  | refused entered | unknown entered => exact entered.threads
  | dropped _ there =>
      rw [absent] at there
      cases there

/-- Beside what it had in `origin`, `thread` has the registrations of `handles`,
the oldest first. All other threads have what they had. -/
structure Adds (origin : SimulatedKernel) (thread : ThreadId) (handles : List SlotHandle)
    (kernel : SimulatedKernel) : Prop where
  issues : origin.Issues kernel
  new : ∀ handle ∈ handles, origin.nextHandle ≤ handle.number
  elsewhere : ∀ other ≠ thread,
    (kernel.threads other).registrations = (origin.threads other).registrations
  latest : ∃ added : List (Int × Registration),
    (kernel.threads thread).registrations = (origin.threads thread).registrations ++ added ∧
      added.map Prod.fst = handles.map SlotHandle.number

namespace Adds

theorem start (origin : SimulatedKernel) (thread : ThreadId) : Adds origin thread [] origin :=
  ⟨.refl origin, nofun, fun _ _ => rfl, [], by simp⟩

theorem same (adds : Adds origin thread handles kernel) (issues : kernel.Issues after)
    (registrations : ∀ other,
      (after.threads other).registrations = (kernel.threads other).registrations) :
    Adds origin thread handles after where
  issues := adds.issues.trans issues
  new := adds.new
  elsewhere other different := (registrations other).trans (adds.elsewhere other different)
  latest := by
    obtain ⟨added, now, numbers⟩ := adds.latest
    exact ⟨added, (registrations thread).trans now, numbers⟩

theorem enters {call : KernelCall} {error : Option KernelError} {other : ThreadId}
    (adds : Adds origin thread handles kernel)
    (entered : kernel.Enters call other error after) : Adds origin thread handles after :=
  adds.same entered.issues fun _ => by rw [entered.threads]

/-- A handle of another thread is none of those that the thread has. -/
theorem isRegistered_of_owns (adds : Adds origin thread handles kernel)
    (foreign : thread ≠ owner) (owns : origin.Owns owner number) :
    (kernel.threads thread).isRegistered number = false := by
  obtain ⟨added, now, numbers⟩ := adds.latest
  have issued := owns.issued
  unfold ThreadRegisters.isRegistered
  simp only [List.any_eq_false, decide_eq_true_eq]
  rintro ⟨live, registration⟩ member
  rw [now] at member
  rcases List.mem_append.mp member with before | late
  · exact owns.apart thread foreign _ before
  · have listed : live ∈ handles.map SlotHandle.number := numbers ▸ List.mem_map_of_mem late
    obtain ⟨handle, given, rfl⟩ := List.mem_map.mp listed
    have low := adds.new handle given
    omega

theorem register (adds : Adds origin thread handles kernel)
    (begun : kernel.Enters .register thread none after) (point : EncodedPoint) :
    Adds origin thread (handles ++ [⟨kernel.nextHandle⟩]) (after.withRegistration thread point) where
  issues := adds.issues.trans (begun.issues.trans (issues_withRegistration after thread point))
  new handle member := by
    rcases List.mem_append.mp member with before | last
    · exact adds.new handle before
    · cases List.mem_singleton.mp last
      exact adds.issues.next
  elsewhere other different := by
    rw [registrations_withRegistration_of_ne _ _ different, begun.threads]
    exact adds.elsewhere other different
  latest := by
    obtain ⟨added, now, numbers⟩ := adds.latest
    refine ⟨added ++ [(kernel.nextHandle, ⟨point, .ofPoint point⟩)], ?_, ?_⟩
    · rw [registrations_withRegistration_self, begun.threads, begun.nextHandle, now,
        List.append_assoc]
    · simp [numbers]

/-- What is got belongs to the thread. -/
theorem owns (adds : Adds origin thread handles kernel) (distinct : origin.IsDistinct)
    (member : handle ∈ handles) : kernel.Owns thread handle.number where
  issued := by
    obtain ⟨added, now, numbers⟩ := adds.latest
    have listed : handle.number ∈ added.map Prod.fst := numbers ▸ List.mem_map_of_mem member
    obtain ⟨entry, late, same⟩ := List.mem_map.mp listed
    have live : entry ∈ (kernel.threads thread).registrations :=
      now ▸ List.mem_append_right _ late
    exact same ▸ (adds.issues.distinct distinct).numbered thread entry live
  apart other different entry live := by
    rw [adds.elsewhere other different] at live
    have low := distinct.numbered other entry live
    have high := adds.new handle member
    omega

/-- The oldest of the registrations got is dropped, and no other. -/
theorem drop (adds : Adds origin thread (handle :: handles) kernel)
    (distinct : origin.IsDistinct)
    (dropped : Kernel.deregister kernel thread handle = (.ok (), after)) :
    Adds origin thread handles after := by
  have outcome := deregisters kernel thread handle
  have issues := acrossCalls_issues.deregister kernel thread handle
  have apart := (adds.issues.distinct distinct).distinct thread
  rw [dropped] at outcome issues
  cases outcome with
  | @dropped entered begun there =>
      refine ⟨adds.issues.trans issues, ?_, ?_, ?_⟩
      · exact fun other member => adds.new other (List.mem_cons_of_mem _ member)
      · intro other different
        rw [withoutRegistration, threads_update_of_ne _ _ different, begun.threads]
        exact adds.elsewhere other different
      · obtain ⟨added, now, numbers⟩ := adds.latest
        obtain ⟨⟨live, registration⟩, rest, rfl, first, later⟩ := List.map_eq_cons_iff.mp numbers
        cases first
        refine ⟨rest, ?_, later⟩
        have high := adds.new handle List.mem_cons_self
        have before : ∀ entry ∈ (origin.threads thread).registrations,
            decide (entry.1 ≠ handle.number) = true := by
          intro entry member
          have low := distinct.numbered thread entry member
          exact decide_eq_true (by omega)
        have after : ∀ entry ∈ rest, decide (entry.1 ≠ handle.number) = true := by
          intro entry member
          rw [now, List.map_append, List.map_cons, List.nodup_append, List.nodup_cons] at apart
          refine decide_eq_true fun same => apart.2.1.1 ?_
          exact List.mem_map.mpr ⟨entry, member, same⟩
        rw [withoutRegistration, threads_update_self, begun.threads, ThreadRegisters.drop, now]
        simp only [List.filter_append, List.filter_cons]
        rw [List.filter_eq_self.mpr before, List.filter_eq_self.mpr after]
        simp

/-- When all that was got is dropped, every thread has what it had. -/
theorem undone {session : Session SimulatedKernel}
    (adds : Adds origin thread handles session.kernel) (distinct : origin.IsDistinct)
    (drops : DropsAll thread session.kernel handles) (report : SlotHandle → KernelError → Notice)
    (other : ThreadId) :
    ((Session.dropRegistrations report session thread handles).kernel.threads other).registrations =
      (origin.threads other).registrations := by
  induction handles generalizing session with
  | nil =>
      by_cases here : other = thread
      · obtain ⟨added, now, numbers⟩ := adds.latest
        rw [List.map_eq_nil_iff.mp numbers, List.append_nil] at now
        exact here ▸ now
      · exact adds.elsewhere other here
  | cons handle rest ih =>
      obtain ⟨kernel, dropped, later⟩ := drops
      have next := adds.drop distinct dropped
      unfold Session.dropRegistrations
      rw [dropped]
      exact @ih { session with kernel } next later

end Adds

end SimulatedKernel

end DebugRegisters
