import DebugRegisters.Proofs.Kernel.HandleContract
import DebugRegisters.Proofs.Session.Reannouncing

/-!
# Replication where handles are used again

For each slot that a new thread takes over, first the handle of the other thread is
dropped and then the point is registered. The handle of a later slot may be a number
that an earlier slot has just got on the new thread, and then the drop hits that
registration. On a kernel that keeps the handle contract this is all that can go
wrong.
-/

set_option autoImplicit false

namespace DebugRegisters

namespace HandleContract

open Session

variable {κ : Type} [Kernel κ] {thread : ThreadId} {session after : Session κ}
  {slots : List Slot} {handles : List SlotHandle} {handle : SlotHandle} {point : EncodedPoint}

theorem live_dropStale (contract : HandleContract κ) (session : Session κ) (thread : ThreadId)
    (stale : Option SlotHandle) (handle : SlotHandle) :
    contract.live (session.dropStale thread stale).kernel thread handle =
      if stale = some handle then none else contract.live session.kernel thread handle := by
  cases stale with
  | none => rfl
  | some number =>
      have dropped := contract.live_deregister session.kernel thread number
      have same : (session.dropStale thread (some number)).kernel =
          (Kernel.deregister session.kernel thread number).2 := by
        unfold dropStale
        simp only [Option.toList_some, dropRegistrations]
        split
        · next answered => rw [answered]
        · next answered =>
            rw [answered]
            rfl
      rw [same, dropped, LivePoints.set_self]
      simp only [Option.some.injEq, eq_comm]

/-- What is live after a slot got its handle. -/
theorem live_of_renewed (contract : HandleContract κ) {slot : Slot} {issued : SlotHandle}
    {kernel : κ}
    (registered : Kernel.register (session.dropStale thread slot.handle).kernel thread point =
      (.ok issued, kernel)) (handle : SlotHandle) :
    contract.live kernel thread handle =
      if handle = issued then some point
      else if slot.handle = some handle then none
      else contract.live session.kernel thread handle := by
  rw [(contract.live_of_registered registered).2, LivePoints.set_self, contract.live_dropStale]

/-- A registration that no slot drops stays, and its handle is not given out again. -/
theorem live_of_renews (contract : HandleContract κ) (renews : Renews thread session slots handles after)
    (registered : contract.live session.kernel thread handle = some point)
    (spared : ∀ slot ∈ slots, slot.handle ≠ some handle) :
    contract.live after.kernel thread handle = some point ∧ handle ∉ handles := by
  induction renews with
  | done => exact ⟨registered, List.not_mem_nil⟩
  | @next session after slot rest held issued handles kernel holds answered later ih =>
      obtain ⟨here, behind⟩ := List.forall_mem_cons.mp spared
      have free := (contract.live_of_registered answered).1
      have different : handle ≠ issued := by
        rintro rfl
        rw [contract.live_dropStale, if_neg here, registered] at free
        cases free
      have kept : contract.live kernel thread handle = some point := by
        rw [contract.live_of_renewed answered, if_neg different, if_neg here, registered]
      obtain ⟨stays, absent⟩ := ih kept behind
      exact ⟨stays, List.not_mem_cons_of_ne_of_not_mem different absent⟩

/-- What is not registered becomes so under a handle that is given out only. -/
theorem mem_handles_of_renews (contract : HandleContract κ)
    (renews : Renews thread session slots handles after)
    (lost : contract.live session.kernel thread handle = none ∨
      ∃ slot ∈ slots, slot.handle = some handle)
    (registered : contract.live after.kernel thread handle ≠ none) : handle ∈ handles := by
  induction renews with
  | done =>
      rcases lost with free | ⟨_, nothing, _⟩
      · exact absurd free registered
      · cases nothing
  | @next session after slot rest held issued handles kernel holds answered later ih =>
      by_cases here : handle = issued
      · exact here ▸ List.mem_cons_self
      · refine List.mem_cons_of_mem _ (ih ?_ registered)
        have now := contract.live_of_renewed answered handle
        rw [if_neg here] at now
        by_cases stale : slot.handle = some handle
        · rw [if_pos stale] at now
          exact .inl now
        · rw [if_neg stale] at now
          rcases lost with free | ⟨other, member, stale'⟩
          · exact .inl (now.trans free)
          · rcases List.mem_cons.mp member with rfl | behind
            · exact absurd stale' stale
            · exact .inr ⟨other, behind, stale'⟩

theorem names_cons_iff (contract : HandleContract κ) {kernel : κ} {slot : Slot} {rest : List Slot} :
    contract.Names kernel thread (slot :: rest) ↔
      (∃ handle point, slot.handle = some handle ∧ slot.point = some point ∧
        contract.live kernel thread handle = some point ∧ some handle ∉ rest.map Slot.handle) ∧
      contract.Names kernel thread rest := by
  constructor
  · rintro ⟨live, distinct⟩
    obtain ⟨⟨handle, point, named, holds, registered⟩, others⟩ := List.forall_mem_cons.mp live
    obtain ⟨fresh, distinct⟩ := List.nodup_cons.mp distinct
    exact ⟨⟨handle, point, named, holds, registered, named ▸ fresh⟩, others, distinct⟩
  · rintro ⟨⟨handle, point, named, holds, registered, fresh⟩, others, distinct⟩
    exact ⟨List.forall_mem_cons.mpr ⟨⟨handle, point, named, holds, registered⟩, others⟩,
      List.nodup_cons.mpr ⟨named ▸ fresh, distinct⟩⟩

theorem map_handle_renewed (paired : slots.length = handles.length) :
    (List.zipWith Slot.withHandle slots handles).map Slot.handle = handles.map some := by
  rw [← List.map_uncurry_zip_eq_zipWith, List.map_map]
  change (List.zip slots handles).map (some ∘ Prod.snd) = _
  rw [← List.map_map, List.map_snd_zip (Nat.le_of_eq paired.symm)]

def Spares (slots : List Slot) (handles : List SlotHandle) : Prop :=
  (List.zip slots handles).Pairwise fun earlier later => later.1.handle ≠ some earlier.2

/-- The slots as they were copied tell whether they are spared, against those they
became. -/
theorem spares_iff_zip_renewed (slots : List Slot) (handles : List SlotHandle) :
    Spares slots handles ↔
      (List.zip slots (List.zipWith Slot.withHandle slots handles)).Pairwise
        fun earlier later => later.1.handle ≠ earlier.2.handle := by
  have paired : List.zip slots (List.zipWith Slot.withHandle slots handles) =
      (List.zip slots handles).map fun entry => (entry.1, entry.1.withHandle entry.2) := by
    induction slots generalizing handles with
    | nil => rfl
    | cons slot rest ih =>
        cases handles with
        | nil => rfl
        | cons issued handles => simp [ih]
  rw [paired, List.pairwise_map]
  rfl

theorem spares_cons_iff {slot : Slot} {issued : SlotHandle} (paired : slots.length = handles.length) :
    Spares (slot :: slots) (issued :: handles) ↔
      (∀ later ∈ slots, later.handle ≠ some issued) ∧ Spares slots handles := by
  unfold Spares
  rw [List.zip_cons_cons, List.pairwise_cons]
  have each : (∀ later ∈ (List.zip slots handles).map Prod.fst, later.handle ≠ some issued) ↔
      ∀ later ∈ List.zip slots handles, later.1.handle ≠ some issued := List.forall_mem_map
  rw [← each, List.map_fst_zip (Nat.le_of_eq paired)]

/-- Slots name registrations of their own after they were renewed if and only if none
of them dropped the handle of an earlier one. -/
theorem names_renewed_iff (contract : HandleContract κ)
    (renews : Renews thread session slots handles after) :
    contract.Names after.kernel thread (List.zipWith Slot.withHandle slots handles) ↔
      Spares slots handles := by
  induction renews with
  | done => exact ⟨fun _ => List.Pairwise.nil, fun _ => ⟨nofun, List.nodup_nil⟩⟩
  | @next session after slot rest point issued handles kernel holds answered later ih =>
      have now : contract.live kernel thread issued = some point := by
        rw [contract.live_of_renewed answered, if_pos rfl]
      rw [List.zipWith_cons_cons, names_cons_iff, spares_cons_iff later.length, ih,
        map_handle_renewed later.length, and_congr_left_iff]
      intro _
      constructor
      · rintro ⟨_, _, ⟨⟩, _, registered, fresh⟩ other member stale
        have live : contract.live after.kernel thread issued ≠ none := by simp [registered]
        have again := contract.mem_handles_of_renews later (.inr ⟨other, member, stale⟩) live
        exact fresh (List.mem_map_of_mem again)
      · intro spared
        obtain ⟨stays, fresh⟩ := contract.live_of_renews later now spared
        refine ⟨issued, point, rfl, holds, stays, fun member => ?_⟩
        obtain ⟨_, again, ⟨⟩⟩ := List.mem_map.mp member
        exact fresh again

theorem not_refusedAt (contract : HandleContract κ) {cause : KernelError} :
    ¬RefusedAt thread session slots cause handles after := by
  intro refused
  induction refused with
  | @here session slot rest held cause kernel holds answered =>
      obtain ⟨_, _, registered, _⟩ :=
        contract.registers (session.dropStale thread slot.handle).kernel thread held
      rw [answered] at registered
      cases registered
  | later _ _ _ ih => exact ih

theorem not_breaksOff (contract : HandleContract κ) {pattern : ThreadPoints} {call : KernelCall}
    {cause : KernelError} : ¬session.BreaksOff thread pattern call cause handles after := by
  intro breaks
  cases breaks with
  | running refused =>
      obtain ⟨_, paused, _⟩ := contract.pauses session.kernel thread
      rw [refused] at paused
      cases paused
  | unregistered _ refused => exact contract.not_refusedAt refused

end HandleContract

namespace Session

open HandleContract

variable {κ : Type} [Kernel κ]

/-- A thread without registrations takes over the points of another on a kernel that
keeps the handle contract. It always can, and gets the same points. Its slots name
registrations of their own, each for the point of the slot, if and only if no slot
was copied with a handle that an earlier slot has now. -/
theorem replicated_slots_name_registrations_iff (contract : HandleContract κ) {session : Session κ}
    {thread : ThreadId} {pattern : ThreadPoints}
    (interface : session.capabilities.1.interface = .handles)
    (given : session.pattern? thread = some pattern) :
    ∃ points after, session.addThread thread = (.ok (), after) ∧
      after.sets.get? thread = some points ∧ Copies thread pattern points ∧
      (contract.Names after.kernel thread (points.occupiedSlots RegisterBank.all) ↔
        (List.zip (pattern.occupiedSlots RegisterBank.all)
          (points.occupiedSlots RegisterBank.all)).Pairwise
            fun earlier later => later.1.handle ≠ earlier.2.handle) := by
  have outcome := replicates (session.announce thread) thread pattern
  rw [addThread_eq, given]
  simp only [equip, interface]
  generalize (session.announce thread).replicate thread pattern = reply at outcome
  cases outcome with
  | undone breaks => exact (contract.not_breaksOff breaks).elim
  | @renewed kernel handles after points paused renews copied renewed =>
      have there : (after.sets.insert points).get? thread = some points := by
        rw [← copied.thread, ThreadSets.get?_insert_self]
      refine ⟨points, _, rfl, ?_, copied, ?_⟩
      · rw [sets_follow_showRegisters]
        exact there
      · rw [kernel_follow_showRegisters, renewed, contract.names_renewed_iff renews,
          spares_iff_zip_renewed]

/-- An instruction is watched first and data second, and the registers of a new thread
are taken in the same order. -/
theorem replicated_slots_name_registrations_iff_in_order :
    let fresh : Session RegisterFileKernel :=
      .start (.bare ⟨1, 4, 2, 2, 4, 4, 0xf⟩) ⟨100⟩ .standard none
    let first := (fresh.insert ⟨.execute, ⟨0x2000⟩, 4, 0, none⟩).2
    let session := (first.insert ⟨.write, ⟨0x1000⟩, 1, 0, none⟩).2
    session.capabilities.1.interface = .handles ∧ (session.pattern? ⟨101⟩).isSome = true ∧
    ∃ points after, session.addThread ⟨101⟩ = (.ok (), after) ∧
      after.sets.get? ⟨101⟩ = some points ∧
      (points.occupiedSlots RegisterBank.all).map Slot.handle = [some ⟨0⟩, some ⟨1⟩] ∧
      RegisterFileKernel.contract.Names after.kernel ⟨101⟩
        (points.occupiedSlots RegisterBank.all) := by
  intro fresh first session
  have interface : session.capabilities.1.interface = .handles := by decide +kernel
  have given : (session.pattern? ⟨101⟩).isSome = true := by decide +kernel
  refine ⟨interface, given, ?_⟩
  obtain ⟨pattern, given⟩ := Option.isSome_iff_exists.mp given
  obtain ⟨points, after, taken, there, _, named⟩ :=
    replicated_slots_name_registrations_iff RegisterFileKernel.contract interface given
  have computed : (session.pattern? ⟨101⟩).any (fun before =>
      ((session.addThread ⟨101⟩).2.sets.get? ⟨101⟩).any fun now =>
        decide ((now.occupiedSlots RegisterBank.all).map Slot.handle = [some ⟨0⟩, some ⟨1⟩] ∧
          (List.zip (before.occupiedSlots RegisterBank.all)
            (now.occupiedSlots RegisterBank.all)).Pairwise
              fun earlier later => later.1.handle ≠ earlier.2.handle)) = true := by
    decide +kernel
  rw [given, taken, there] at computed
  obtain ⟨handles, apart⟩ := of_decide_eq_true computed
  exact ⟨points, after, taken, there, handles, named.mpr apart⟩

/-- Data is watched first, in register 0, and an instruction second, in register 1. A
new thread gets its breakpoints first: register 0 is taken for the instruction, then
dropped as the stale handle of the other slot, and taken for the data. Both slots
name it, and the instruction is not watched. Where handles are never used again, the
calls come in the same order and drop nothing. -/
theorem replication_drops_new_registration :
    let fresh : Session RegisterFileKernel :=
      .start (.bare ⟨1, 4, 2, 2, 4, 4, 0xf⟩) ⟨100⟩ .standard none
    let first := (fresh.insert ⟨.write, ⟨0x1000⟩, 1, 0, none⟩).2
    let session := (first.insert ⟨.execute, ⟨0x2000⟩, 4, 0, none⟩).2
    let after := (session.addThread ⟨101⟩).2
    let contract := RegisterFileKernel.contract
    let simulated : Session SimulatedKernel := .start .embedded ⟨100⟩ .standard none
    let other := (simulated.insert ⟨.write, ⟨0x1000⟩, 1, 0, none⟩).2
    (∀ handle, contract.live session.kernel ⟨101⟩ handle = none) ∧
    (session.addThread ⟨101⟩).1 = .ok () ∧
    (after.kernel.registers ⟨101⟩).map (Option.map EncodedPoint.kind) = [some .write, none] ∧
    (∃ points, after.sets.get? ⟨101⟩ = some points ∧
      (points.occupiedSlots RegisterBank.all).map Slot.handle = [some ⟨0⟩, some ⟨0⟩] ∧
      ¬contract.Names after.kernel ⟨101⟩ (points.occupiedSlots RegisterBank.all)) ∧
    (((other.insert ⟨.execute, ⟨0x2000⟩, 4, 0, none⟩).2.addThread ⟨101⟩).2.kernel.calls.drop 5).map
        (fun record => (record.call, record.error)) =
      [(.pause, none), (.deregister, some .notFound), (.register, none),
        (.deregister, some .notFound), (.register, none)] := by
  intro fresh first session after contract simulated other
  have bare : session.kernel.registers ⟨101⟩ = [] := by decide +kernel
  have named : (after.sets.get? ⟨101⟩).map (fun points =>
      (points.occupiedSlots RegisterBank.all).map Slot.handle) = some [some ⟨0⟩, some ⟨0⟩] := by
    decide +kernel
  obtain ⟨points, there, handles⟩ := Option.map_eq_some_iff.mp named
  refine ⟨?_, by decide +kernel, by decide +kernel, ⟨points, there, handles, ?_⟩,
    by decide +kernel⟩
  · rintro ⟨number⟩
    change RegisterFileKernel.point? session.kernel ⟨101⟩ ⟨number⟩ = none
    unfold RegisterFileKernel.point?
    rw [bare]
    cases number <;> rfl
  · rintro ⟨_, distinct⟩
    rw [handles] at distinct
    exact absurd distinct (by decide)

end Session

end DebugRegisters
