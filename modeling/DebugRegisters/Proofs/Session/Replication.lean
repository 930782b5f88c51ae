import DebugRegisters.Proofs.Session.Mirrored

/-!
# Registrations of threads that come and go

A new thread begins with a copy of the slots of another and registers their points
one after the other. What is registered so far mirrors the copy, in which the
slots that are still to come have handles older than the thread. If a point cannot
be registered, the thread is left without any. So is a thread that exits.
-/

set_option autoImplicit false

namespace DebugRegisters.Session

open SimulatedKernel

variable {origin : SimulatedKernel} {caps : Capabilities} {thread : ThreadId}
  {pattern points : ThreadPoints} {pending : RegisterBank → Nat → Prop}
  {registered : List SlotHandle} {session : Session SimulatedKernel} {bank : RegisterBank}
  {index : Nat} {slot : Slot} {point : EncodedPoint}

structure Replicable (caps : Capabilities) (pattern : ThreadPoints) (origin : SimulatedKernel) :
    Prop where
  granted : origin.facility.Grants caps
  reliable : origin.OnlyPlacingFails
  distinct : origin.IsDistinct
  orderly : ∀ bank, (pattern.table bank).Orderly bank (caps.slots bank)

structure Undoable (origin : SimulatedKernel) (thread : ThreadId) (registered : List SlotHandle)
    (kernel : SimulatedKernel) : Prop where
  changes : origin.ChangesOn thread kernel
  listed : ∀ entry ∈ (kernel.threads thread).registrations, ⟨entry.1⟩ ∈ registered

/-- `thread` has registered its copy of `pattern` but for the slots that are `pending`. -/
structure Registering (origin : SimulatedKernel) (thread : ThreadId) (pattern points : ThreadPoints)
    (pending : RegisterBank → Nat → Prop) (registered : List SlotHandle)
    (kernel : SimulatedKernel) : Prop extends Undoable origin thread registered kernel where
  copied : Copies thread pattern points
  mirrors : Mirrors points.table (kernel.threads thread).registrations (· < origin.nextHandle)
    kernel.nextHandle
  renewed : ∀ bank index slot number, ¬pending bank index →
    (points.table bank).get? index = some slot → slot.handle = some ⟨number⟩ →
    origin.nextHandle ≤ number

inductive AllOrNone {α : Type} (origin : SimulatedKernel) (thread : ThreadId)
    (good : α → SimulatedKernel → Prop) : Outcome SimulatedKernel α → Prop where
  | all {value : α} {after : Session SimulatedKernel} (attained : good value after.kernel) :
      AllOrNone origin thread good (.ok value, after)
  | none {error : PointError} {after : Session SimulatedKernel}
      (changes : origin.ChangesOn thread after.kernel)
      (bare : (after.kernel.threads thread).registrations = []) :
      AllOrNone origin thread good (.error error, after)

theorem Undoable.undone (undoable : Undoable origin thread registered session.kernel)
    (reliable : origin.OnlyPlacingFails) (report : SlotHandle → KernelError → Notice) {α : Type}
    (good : α → SimulatedKernel → Prop) (error : PointError) :
    AllOrNone origin thread good
      (.error error, dropRegistrations report session thread registered) := by
  have later := reliable.follows undoable.changes.follows
  have dropped := changesOn_dropRegistrations report session thread registered
  refine .none (undoable.changes.trans dropped) ?_
  apply List.eq_nil_iff_forall_not_mem.mpr
  intro entry member
  obtain ⟨before, kept⟩ := (later.mem_registrations_dropRegistrations report registered).mp member
  exact kept ⟨rfl, undoable.listed entry before⟩

namespace Registering

/-- Slots without a handle need not wait. -/
theorem settle {fewer : RegisterBank → Nat → Prop}
    (registering : Registering origin thread pattern points pending registered session.kernel)
    (settled : ∀ bank index slot, pending bank index → ¬fewer bank index →
      (points.table bank).get? index = some slot → slot.handle = none) :
    Registering origin thread pattern points fewer registered session.kernel where
  toUndoable := registering.toUndoable
  copied := registering.copied
  mirrors := registering.mirrors
  renewed bank index slot number done there kept := by
    by_cases waits : pending bank index
    · rw [settled bank index slot waits done there] at kept
      cases kept
    · exact registering.renewed bank index slot number waits there kept

theorem orderly (replicable : Replicable caps pattern origin)
    (registering : Registering origin thread pattern points pending registered session.kernel)
    (bank : RegisterBank) : (points.table bank).Orderly bank (caps.slots bank) :=
  (replicable.orderly bank).samePoints (registering.copied.tables bank)

/-- Dropping the handle that a slot was copied with makes the slot as good as free. -/
theorem dropStale (replicable : Replicable caps pattern origin)
    (registering : Registering origin thread pattern points pending registered session.kernel)
    (there : (points.table bank).get? index = some slot) :
    Undoable origin thread registered (session.dropStale thread slot.handle).kernel ∧
      Mirrors (editSlot points.table bank index fun _ => .free)
        ((session.dropStale thread slot.handle).kernel.threads thread).registrations
        (· < origin.nextHandle) (session.dropStale thread slot.handle).kernel.nextHandle := by
  have reliable := replicable.reliable.follows registering.changes.follows
  have left : ∀ entry : Int × Registration,
      entry ∈ ((session.dropStale thread slot.handle).kernel.threads thread).registrations ↔
        entry ∈ (session.kernel.threads thread).registrations ∧ slot.handle ≠ some ⟨entry.1⟩ := by
    intro entry
    refine (reliable.mem_registrations_dropRegistrations _ _).trans (and_congr_right fun _ => ?_)
    cases slot.handle <;> simp [eq_comm]
  have dropped := changesOn_dropRegistrations (.staleNotReleased thread) session thread
    slot.handle.toList
  refine ⟨⟨registering.changes.trans dropped, fun entry member => ?_⟩, ?_⟩
  · exact registering.listed entry ((left entry).mp member).1
  · exact (registering.mirrors.free there left).later dropped.answers.next

/-- A kernel that has registered no more than the other slots of a table has room for
the point of this one. -/
theorem room (replicable : Replicable caps pattern origin)
    (registering : Registering origin thread pattern points pending registered session.kernel)
    (there : (points.table bank).get? index = some slot) (holds : slot.point = some point)
    {kernel : SimulatedKernel} (changes : origin.ChangesOn thread kernel)
    (mirrors : Mirrors (editSlot points.table bank index fun _ => .free)
      (kernel.threads thread).registrations (· < origin.nextHandle) kernel.nextHandle) :
    (kernel.threads thread).used point.kind.bank + point.cost ≤
      kernel.facility.bankSize point.kind.bank := by
  have orderly := registering.orderly replicable
  obtain ⟨rfl, _⟩ := (orderly bank).kept.of_holds there holds
  have freed : ∀ other, (editSlot points.table point.kind.bank index (fun _ => .free) other).Orderly
      other (caps.slots other) := by
    intro other
    unfold editSlot
    split
    · next here => exact here ▸ (orderly point.kind.bank).free there
    · exact orderly other
  have fewer := mirrors.used_le freed ((changes.distinct replicable.distinct).distinct thread)
    point.kind.bank
  have counted := SlotTable.used_modify there fun _ => .free
  have cost : slot.cost = point.cost := by simp [Slot.cost, holds]
  have nothing : Slot.free.cost = 0 := rfl
  have fits := (orderly point.kind.bank).fits
  have slots := replicable.granted.slots point.kind.bank
  rw [editSlot, if_pos rfl] at fewer
  rw [changes.follows.facility]
  omega

/-- A pending slot is registered, or its thread keeps what can be undone. -/
theorem register (replicable : Replicable caps pattern origin)
    (registering : Registering origin thread pattern points pending registered session.kernel)
    (there : (points.table bank).get? index = some slot) (holds : slot.point = some point)
    {answer : Except KernelError SlotHandle} {after : SimulatedKernel}
    (answered : Kernel.register (session.dropStale thread slot.handle).kernel thread point =
      (answer, after)) :
    (∃ handle, answer = .ok handle ∧
      Registering origin thread pattern
        (points.setTable bank ((points.table bank).setHandle index (some handle)))
        (fun other position => pending other position ∧ ¬(other = bank ∧ position = index))
        (registered ++ [handle]) after) ∨
    ∃ cause, answer = .error cause ∧ Undoable origin thread registered after := by
  obtain ⟨undoable, mirrors⟩ := registering.dropStale replicable there
  have room := registering.room replicable there holds undoable.changes mirrors
  have outcome := registers (session.dropStale thread slot.handle).kernel thread point
  generalize (session.dropStale thread slot.handle).kernel = kernel at *
  rw [answered] at outcome
  cases outcome with
  | refused entered =>
      refine .inr ⟨_, rfl, undoable.changes.trans (entered.changesOn (.inr nofun)), ?_⟩
      rw [entered.threads]
      exact undoable.listed
  | full _ crowded => exact absurd room (Nat.not_le_of_lt crowded)
  | foreign _ other =>
      obtain ⟨reply, same⟩ := replicable.granted.handles
      exact absurd (undoable.changes.follows.facility.trans same) (other reply)
  | @registered entered begun =>
      have gained : ∀ entry : Int × Registration,
          entry ∈ ((entered.withRegistration thread point).threads thread).registrations ↔
            entry ∈ (kernel.threads thread).registrations ∨
              entry = (kernel.nextHandle, ⟨point, .ofPoint point⟩) := by
        intro entry
        rw [mem_registrations_withRegistration, begun.threads, begun.nextHandle]
        simp
      have freed : (editSlot points.table bank index (fun _ => .free) bank).get? index =
          some .free := get?_editSlot_self there
      have tables := ThreadPoints.table_setHandle points bank index (some ⟨kernel.nextHandle⟩)
      refine .inl ⟨_, rfl, ⟨undoable.changes.trans (begun.changesOn_withRegistration point), ?_⟩,
        ?_, ?_, ?_⟩
      · intro entry member
        rcases (gained entry).mp member with before | rfl
        · exact List.mem_append_left _ (undoable.listed entry before)
        · exact List.mem_append_right _ List.mem_cons_self
      · exact registering.copied.setHandle there holds _
      · have next : kernel.nextHandle < (entered.withRegistration thread point).nextHandle := by
          change kernel.nextHandle < entered.nextHandle + 1
          rw [begun.nextHandle]
          omega
        rw [tables, ← editSlot_free there, holds]
        exact mirrors.occupy freed rfl gained next
      · intro other position twin number done found kept
        rw [tables] at found
        rcases get?_editSlot_cases found with ⟨_, _, _, _, rfl⟩ | ⟨elsewhere, found⟩
        · cases kept
          exact undoable.changes.answers.next
        · exact registering.renewed other position twin number
            (fun waits => done ⟨waits, elsewhere⟩) found kept

/-- All slots of a list are registered, or none of the thread's. -/
theorem slots {later : RegisterBank → Prop} (replicable : Replicable caps pattern origin)
    {slots : List (Nat × Slot)}
    (registering : Registering origin thread pattern points
      (fun other position => later other ∨ other = bank ∧ position ∈ slots.map Prod.fst) registered
      session.kernel)
    (there : ∀ entry ∈ slots, (points.table bank).get? entry.1 = some entry.2)
    (apart : (slots.map Prod.fst).Nodup) :
    AllOrNone origin thread
      (fun value kernel =>
        Registering origin thread pattern value.1 (fun other _ => later other) value.2 kernel)
      (registerSlots thread bank points registered session slots) := by
  -- slots that are still to come are as they were copied, and those before them are
  -- no longer pending
  induction slots generalizing points registered session with
  | nil =>
      refine .all (registering.settle fun _ _ _ waits done _ => ?_)
      exact absurd (waits.resolve_right (by simp)) done
  | cons entry rest ih =>
      obtain ⟨index, slot⟩ := entry
      rw [List.map_cons, List.nodup_cons] at apart
      have here := there (index, slot) List.mem_cons_self
      have others := fun entry member => there entry (List.mem_cons_of_mem _ member)
      unfold registerSlots
      split
      · next isFree =>
          refine ih (registering.settle ?_) others apart.2
          intro other position twin waits done found
          rcases waits with soon | ⟨rfl, listed⟩
          · exact absurd (.inl soon) done
          · rcases List.mem_cons.mp listed with rfl | after
            · rw [here] at found
              cases found
              rw [(registering.orderly replicable other).kept.eq_free here isFree]
              rfl
            · exact absurd (.inr ⟨rfl, after⟩) done
      · next point holds =>
          dsimp only
          split
          · next cause kernel answered =>
              rcases registering.register replicable here holds answered with
                ⟨_, same, _⟩ | ⟨_, _, undoable⟩
              · cases same
              · exact Undoable.undone undoable replicable.reliable _ _ _
          · next handle kernel answered =>
              rcases registering.register replicable here holds answered with
                ⟨_, same, next⟩ | ⟨_, same, _⟩ <;> cases same
              refine ih (Registering.settle next ?_) ?_ apart.2
              · rintro other position twin ⟨soon | ⟨rfl, listed⟩, elsewhere⟩ done _
                · exact absurd (.inl soon) done
                · rcases List.mem_cons.mp listed with rfl | after
                  · exact absurd ⟨rfl, rfl⟩ elsewhere
                  · exact absurd (.inr ⟨rfl, after⟩) done
              · intro entry member
                have different : entry.1 ≠ index := by
                  rintro rfl
                  exact apart.1 (List.mem_map.mpr ⟨entry, member, rfl⟩)
                rw [ThreadPoints.table_setTable_self, SlotTable.get?_setHandle_of_ne _ _ different]
                exact others entry member

theorem banks (replicable : Replicable caps pattern origin) {banks : List RegisterBank}
    (registering : Registering origin thread pattern points (fun other _ => other ∈ banks) registered
      session.kernel) :
    AllOrNone origin thread
      (fun value kernel => ∃ handles,
        Registering origin thread pattern value (fun _ _ => False) handles kernel)
      (registerBanks thread points registered session banks) := by
  induction banks generalizing points registered session with
  | nil => exact .all ⟨registered, registering.settle fun _ _ _ waits _ _ => absurd waits (by simp)⟩
  | cons bank rest ih =>
      have begun : Registering origin thread pattern points
          (fun other position => other ∈ rest ∨
            other = bank ∧ position ∈ (points.table bank).occupied.map Prod.fst)
          registered session.kernel := by
        refine registering.settle fun other position slot waits done there => ?_
        rcases List.mem_cons.mp waits with rfl | soon
        · cases holds : slot.point with
          | none =>
              rw [(registering.orderly replicable other).kept.eq_free there holds]
              rfl
          | some point =>
              have member : (position, slot) ∈ (points.table other).occupied :=
                SlotTable.mem_occupied_iff.mpr ⟨there, by simp [Slot.isOccupied, holds]⟩
              exact absurd (.inr ⟨rfl, List.mem_map_of_mem member⟩) done
        · exact absurd (.inl soon) done
      have outcome := begun.slots replicable (fun _ member => (SlotTable.mem_occupied_iff.mp member).1)
        (SlotTable.nodup_occupied _)
      unfold registerBanks
      generalize registerSlots thread bank points registered session (points.table bank).occupied =
        reply at outcome
      cases outcome with
      | none changes bare => exact .none changes bare
      | all attained => exact ih attained

/-- When nothing is pending, nothing is as old as the thread. -/
theorem finished {kernel : SimulatedKernel}
    (registering : Registering origin thread pattern points (fun _ _ => False) registered kernel)
    (fired : Int → Prop) :
    Mirrors points.table (kernel.threads thread).registrations fired kernel.nextHandle where
  issued := registering.mirrors.issued
  owned := registering.mirrors.owned
  apart := registering.mirrors.apart
  registered bank index slot point there holds := by
    obtain ⟨number, kept, live | old⟩ :=
      registering.mirrors.registered bank index slot point there holds
    · exact ⟨number, kept, .inl live⟩
    · have new := registering.renewed bank index slot number id there kept
      omega

end Registering

/-- A thread without registrations gets those of `pattern`, or still has none. -/
theorem replicate_mirrors (replicable : Replicable caps pattern session.kernel)
    (mirrors : Mirrors pattern.table [] (· < session.kernel.nextHandle) session.kernel.nextHandle)
    (bare : (session.kernel.threads thread).registrations = []) :
    AllOrNone session.kernel thread
      (fun points kernel => Copies thread pattern points ∧ session.kernel.ChangesOn thread kernel ∧
        ∀ fired, Mirrors points.table (kernel.threads thread).registrations fired kernel.nextHandle)
      (session.replicate thread pattern) := by
  have admitted := admits_pause session.kernel thread
  unfold replicate
  generalize Kernel.pause session.kernel thread = reply at admitted
  cases admitted with
  | refused entered =>
      exact .none (entered.changesOn (.inl (by decide))) (entered.threads ▸ bare)
  | @admitted kernel entered =>
      have none : (kernel.threads thread).registrations = [] := entered.threads ▸ bare
      have begun : Registering session.kernel thread pattern (.inherit thread pattern)
          (fun other _ => other ∈ RegisterBank.all) [] kernel := by
        refine ⟨⟨entered.changesOn (.inl (by decide)), ?_⟩, copies_inherit thread pattern, ?_, ?_⟩
        · rw [none]
          exact nofun
        · have same : (ThreadPoints.inherit thread pattern).table = pattern.table :=
            funext (ThreadPoints.table_inherit thread pattern)
          rw [none, entered.nextHandle, same]
          exact mirrors
        · intro bank _ _ _ done
          cases bank <;> exact absurd (by decide) done
      have outcome := @Registering.banks _ _ _ _ _ _ { session with kernel } replicable _ begun
      dsimp only
      generalize registerBanks thread (.inherit thread pattern) [] { session with kernel }
        RegisterBank.all = reply at outcome
      cases outcome with
      | none changes bare => exact .none changes bare
      | all attained =>
          obtain ⟨handles, registering⟩ := attained
          exact .all ⟨registering.copied, registering.changes, registering.finished⟩

namespace Mirrored

variable {fired : ThreadId → Int → Prop} {after : Session SimulatedKernel}

theorem isFree_of_none (absent : session.sets.get? thread = none) (caps : Capabilities)
    (bank : RegisterBank) (index : Nat) (slot : Slot)
    (there : (session.tableOf caps thread bank).get? index = some slot) : slot = .free := by
  rw [tableOf_of_none absent] at there
  exact SlotTable.get?_empty there

theorem bare_of_none (mirrored : session.Mirrored caps fired)
    (absent : session.sets.get? thread = none) :
    (session.kernel.threads thread).registrations = [] :=
  (mirrored.mirrors thread).eq_nil_of_free (isFree_of_none absent caps)

theorem replicable (mirrored : session.Mirrored caps fired)
    (member : pattern ∈ session.sets.toList) : Replicable caps pattern session.kernel where
  granted := mirrored.granted
  reliable := mirrored.reliable
  distinct := mirrored.distinct
  orderly bank := by
    have orderly := mirrored.steady.orderly pattern.thread bank
    rwa [tableOf_of_get? (mirrored.steady.sound.get?_of_mem member)] at orderly

/-- A thread without registrations is given some, or stays without any. -/
theorem equip (mirrored : session.Mirrored caps fired) {given : Option ThreadPoints}
    (bare : caps.interface = .handles → given.isSome →
      (session.kernel.threads thread).registrations = [])
    (listed : ∀ model, given = some model → model ∈ session.sets.toList) :
    ChangesWith caps fired thread session (equip caps session thread given).2 := by
  rcases mirrored.granted.interface with handles | ⟨unavailable, _⟩
  · cases given with
    | none =>
        have same : Session.equip caps session thread none = (.ok (), session) := by
          simp only [Session.equip, handles]
        rw [same]
        exact ⟨.refl _ _, fun _ _ => rfl, mirrored.mirrors thread⟩
    | some model =>
        have member := listed model rfl
        have mirrors := (mirrored.mirrors model.thread).detached
        rw [tableOf_eq_table (mirrored.steady.sound.get?_of_mem member)] at mirrors
        have before := bare handles rfl
        have outcome := replicate_mirrors (mirrored.replicable member) mirrors before
        have copies := replicate_copies session thread model
        simp only [Session.equip, handles]
        generalize session.replicate thread model = reply at outcome copies
        cases outcome with
        | @none _ after changes none =>
            have same := tableOf_congr copies.1.sets caps
            have kept := (mirrored.mirrors thread).later changes.answers.next
            refine ⟨changes, fun other _ => congrFun same other, ?_⟩
            dsimp only
            rwa [same, none, ← before]
        | @all points after attained =>
            obtain ⟨copied, changes, mirrors⟩ := attained
            obtain rfl := copied.thread
            refine ⟨changes, fun other different => ?_, ?_⟩
            · rw [tableOf_insert_of_ne different]
              exact congrFun (tableOf_congr copies.1.sets caps) other
            · rw [tableOf_eq_table (ThreadSets.get?_insert_self _ points)]
              exact mirrors _
  · rw [equip_of_unavailable unavailable]
    exact ⟨.refl _ _, fun _ _ => rfl, mirrored.mirrors thread⟩

/-- Taking up a thread keeps the mirror if the thread has no registrations of its own
when it is given points. -/
theorem addThread (mirrored : session.capabilities.2.Mirrored session.capabilities.1 fired)
    (bare : session.TakesOver thread →
      (session.capabilities.2.kernel.threads thread).registrations = []) :
    (session.addThread thread).2.Mirrored session.capabilities.1 fired ∧
      session.capabilities.2.kernel.Answers (session.addThread thread).2.kernel := by
  have announced : (session.announce thread).Mirrored session.capabilities.1 fired :=
    mirrored.idles (mirrored.steady.congr rfl rfl) (tableOf_congr rfl _) (.refl _) (.refl _)
  have listed : ∀ model, session.pattern? thread = some model →
      model ∈ (session.announce thread).sets.toList := fun model given =>
    mem_of_pattern? given
  have steady := mirrored.steady.addThread thread
  have equipped := announced.equip (fun handles given => bare ⟨handles, given⟩) listed
  rw [addThread_eq] at steady ⊢
  generalize Session.equip session.capabilities.1 (session.announce thread) thread
    (session.pattern? thread) = outcome at equipped steady
  obtain ⟨result, after⟩ := outcome
  cases result with
  | error error => exact ⟨announced.change steady equipped, equipped.changes.answers⟩
  | ok =>
      have sets := sets_follow_showRegisters after thread "new thread"
      have kernel := kernel_follow_showRegisters after thread "new thread"
      have shown := tableOf_congr sets session.capabilities.1
      have taken : ChangesWith session.capabilities.1 fired thread (session.announce thread)
          ((after.follow thread).showRegisters "new thread") :=
        ⟨kernel ▸ equipped.changes, shown ▸ equipped.tables, kernel ▸ shown ▸ equipped.mirrors⟩
      exact ⟨announced.change steady taken, taken.changes.answers⟩

/-- All registrations of a thread that exits are dropped. -/
theorem bare_removeThread (mirrored : session.Mirrored caps fired) (thread : ThreadId) :
    ((session.removeThread thread).kernel.threads thread).registrations = [] := by
  unfold Session.removeThread
  dsimp only
  split
  · next absent => exact mirrored.bare_of_none absent
  · next points there =>
      apply List.eq_nil_iff_forall_not_mem.mpr
      intro entry member
      obtain ⟨before, kept⟩ := (@OnlyPlacingFails.mem_registrations_dropRegistrations thread thread
        (session.forget thread) mirrored.reliable _ _ _).mp member
      refine kept ⟨rfl, ?_⟩
      obtain ⟨bank, index, slot, found, handle, _⟩ := (mirrored.mirrors thread).owned entry before
      rw [tableOf_of_get? there] at found
      have listed : (⟨entry.1⟩ : SlotHandle) ∈ (points.table bank).releaseAll.1 :=
        List.mem_filterMap.mpr ⟨slot, List.mem_of_getElem? found, handle⟩
      cases bank with
      | breakpoints => exact List.mem_append_left _ listed
      | watchpoints => exact List.mem_append_right _ listed

theorem removeThread (mirrored : session.Mirrored caps fired) (thread : ThreadId) :
    (session.removeThread thread).Mirrored caps fired ∧
      session.kernel.Answers (session.removeThread thread).kernel := by
  have same := removeThread_sameTables session thread
  have tables := tableOf_congr same.sets caps
  have changes : session.kernel.ChangesOn thread (session.removeThread thread).kernel := by
    obtain ⟨handles, notices, removed⟩ := removeThread_eq session thread
    rw [removed]
    exact changesOn_dropRegistrations _ (session.forget thread) thread handles
  refine ⟨mirrored.change ((mirrored.steady.forget thread).congr same.sets same.threads)
    ⟨changes, ?_, ?_⟩, changes.answers⟩
  · intro other different
    rw [tables, tableOf_forget_of_ne different]
  · rw [tables, mirrored.bare_removeThread thread]
    exact .of_free (isFree_of_none (ThreadSets.get?_erase_self session.sets thread) caps) _ _

end Mirrored

end DebugRegisters.Session
