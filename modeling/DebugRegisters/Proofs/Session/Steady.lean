import DebugRegisters.Proofs.Session.Invariants
import DebugRegisters.Proofs.Session.Tables
import DebugRegisters.Proofs.SlotTable.Room

/-!
# Tables in good order

On kernels that get every change at once, no table ever holds a point in two
slots or takes more registers than there are. Only going over to a mask table
could make points equal, and that is done for register arrays alone.
-/

set_option autoImplicit false

namespace DebugRegisters

namespace SlotTable

variable {bank : RegisterBank} {capacity : Nat} {table other : SlotTable}

theorem SamePoints.get?_point (same : table.SamePoints other) (index : Nat) :
    (other.get? index).map Slot.point = (table.get? index).map Slot.point := by
  have mapped := congrArg (fun points => points[index]?) same.points
  simp only [List.getElem?_map] at mapped
  exact mapped

/-- Handles do not matter for the order of a table. -/
theorem Orderly.samePoints (orderly : table.Orderly bank capacity) (same : table.SamePoints other) :
    other.Orderly bank capacity where
  kept := same.kept bank orderly.kept
  tidy := by
    have former : ∀ {index : Nat} {slot : Slot}, other.get? index = some slot →
        ∃ before, table.get? index = some before ∧ before.point = slot.point := by
      intro index slot there
      have mapped := same.get?_point index
      rw [there, Option.map_some] at mapped
      exact Option.map_eq_some_iff.mp mapped.symm
    refine ⟨fun _ _ => trivial, fun there holds also too => ?_⟩
    obtain ⟨_, before, point⟩ := former there
    obtain ⟨_, twin, equal⟩ := former also
    exact orderly.tidy.apart before (point.trans holds) twin (equal.trans too)
  sized := by
    have sizes := congrArg List.length same.points
    rw [List.length_map, List.length_map] at sizes
    exact Eq.trans sizes orderly.sized
  fits := by
    have points : other.points = table.points := by
      have listed : ∀ some : SlotTable, some.points = (some.slots.map Slot.point).filterMap id :=
        fun some => by rw [List.filterMap_map]; rfl
      rw [listed, listed, same.points]
    rw [used_eq, points, ← used_eq]
    exact orderly.fits

end SlotTable

namespace Session

variable {κ : Type} {caps : Capabilities} {session after : Session κ} {thread : ThreadId}

section Threads

variable [Kernel κ]

/-- After a thread was taken up, every table has the points of a table from before. -/
theorem tableOf_addThread (sound : session.capabilities.2.Sound) (thread other : ThreadId)
    (bank : RegisterBank) :
    ∃ model, (session.tableOf session.capabilities.1 model bank).SamePoints
      ((session.addThread thread).2.tableOf session.capabilities.1 other bank) := by
  have same : ∀ {after : Session κ}, after.sets = session.sets →
      ∃ model, (session.tableOf session.capabilities.1 model bank).SamePoints
        (after.tableOf session.capabilities.1 other bank) := fun sets =>
    ⟨other, tableOf_congr sets session.capabilities.1 ▸ .refl _⟩
  have arrived := arrives session thread
  generalize session.addThread thread = outcome at arrived
  cases arrived with
  | refused tables => exact same tables.sets
  | bare tables nothing followed =>
      exact same (followed.sets.trans ((sets_follow _ thread).trans tables.sets))
  | @copied before _ model points tables given copied followed =>
      have sets : before.sets = session.sets := tables.sets
      rw [tableOf_congr (followed.sets.trans (sets_follow _ thread))]
      by_cases here : other = points.thread
      · subst here
        have sound : session.Sound := sound.congr rfl rfl
        have pattern := tableOf_of_get? (sound.get?_of_mem (mem_of_pattern? given))
          session.capabilities.1 bank
        have copies : tableOf { before with sets := before.sets.insert points }
            session.capabilities.1 points.thread bank = points.table bank :=
          tableOf_of_get? (ThreadSets.get?_insert_self _ points) _ bank
        refine ⟨model.thread, ?_⟩
        rw [pattern, copies]
        exact copied.tables bank
      · rw [tableOf_insert_of_ne here]
        exact same sets

omit [Kernel κ] in
/-- A thread that is forgotten has empty tables, and the others keep theirs. -/
theorem tableOf_forget (session : Session κ) (thread other : ThreadId) (caps : Capabilities)
    (bank : RegisterBank) :
    (session.forget thread).tableOf caps other bank = .empty bank (caps.slots bank) ∨
      (session.forget thread).tableOf caps other bank = session.tableOf caps other bank := by
  by_cases here : other = thread
  · subst here
    exact .inl (tableOf_of_none (ThreadSets.get?_erase_self session.sets other) caps bank)
  · exact .inr (congrFun (tableOf_forget_of_ne here session caps) bank)

end Threads

structure Steady (caps : Capabilities) (session : Session κ) : Prop where
  sound : session.Sound
  orderly : ∀ thread bank, (session.tableOf caps thread bank).Orderly bank (caps.slots bank)

namespace Steady

theorem change (steady : session.Steady caps) (sound : after.Sound)
    (tables : after.tableOf caps = session.tableOf caps) : after.Steady caps :=
  ⟨sound, fun thread bank => tables ▸ steady.orderly thread bank⟩

theorem congr (steady : session.Steady caps) (sets : after.sets = session.sets)
    (threads : after.threads = session.threads) : after.Steady caps :=
  steady.change (steady.sound.congr sets threads) (tableOf_congr sets caps)

theorem puts (steady : session.Steady caps) (sound : after.Sound) {placement : Placement}
    {table : SlotTable} (puts : session.Puts caps placement table after)
    (orderly : table.Orderly placement.point.kind.bank (caps.slots placement.point.kind.bank)) :
    after.Steady caps where
  sound
  orderly thread bank := by
    by_cases here : thread = placement.thread ∧ bank = placement.point.kind.bank
    · obtain ⟨rfl, rfl⟩ := here
      exact puts.here ▸ orderly
    · exact puts.elsewhere thread bank here ▸ steady.orderly thread bank

theorem start (kernel : κ) (leader : ThreadId) (settings : Settings)
    (capabilities? : Option Capabilities) (caps : Capabilities) :
    (Session.start kernel leader settings capabilities?).Steady caps where
  sound := sound_start kernel leader settings capabilities?
  orderly thread bank := by
    rw [tableOf_of_none rfl]
    exact SlotTable.orderly_empty bank (caps.slots bank)

section Changes

variable [Kernel κ] {placement : Placement}

theorem install (steady : session.Steady caps) (tracked : placement.thread ∈ session.threads) :
    (install caps session placement).2.Steady caps := by
  have sound := install_sound caps steady.sound tracked
  cases outcome : Session.install caps session placement with
  | mk result after =>
      rw [outcome] at sound
      cases result with
      | error error => exact steady.change sound (install_error outcome).1
      | ok =>
          obtain ⟨_, _, _, _, _, inserted, _, _, _, puts⟩ := install_ok outcome
          exact steady.puts sound puts (inserted.orderly (steady.orderly _ _) rfl)

theorem uninstall (steady : session.Steady caps) (tracked : placement.thread ∈ session.threads) :
    (uninstall caps session placement).2.Steady caps := by
  have sound := uninstall_sound caps steady.sound tracked
  cases outcome : Session.uninstall caps session placement with
  | mk result after =>
      rw [outcome] at sound
      cases result with
      | error error => exact steady.change sound (uninstall_error outcome).1
      | ok found =>
          cases found with
          | true =>
              obtain ⟨_, _, _, _, removed, _, _, _, puts⟩ := uninstall_true outcome
              exact steady.puts sound puts (removed.orderly (steady.orderly _ _))
          | false => exact (uninstall_false outcome).1 ▸ steady

theorem keptByChanges (caps : Capabilities) :
    KeptByChanges caps fun session : Session κ => session.Steady caps where
  quiet steady _ := steady.congr rfl rfl
  ensure {session} steady {thread} tracked :=
    steady.change (steady.sound.ensure tracked caps) (tableOf_ensure session caps thread)
  install steady _ tracked := steady.install tracked
  uninstall steady _ tracked := steady.uninstall tracked

theorem insertDemand (steady : session.capabilities.2.Steady session.capabilities.1)
    (demand : Demand) : (session.insertDemand demand).2.Steady session.capabilities.1 :=
  insertDemand_keeps (keptByChanges _) steady demand

theorem removeDemand (steady : session.capabilities.2.Steady session.capabilities.1)
    (demand : Demand) : (session.removeDemand demand).2.Steady session.capabilities.1 :=
  removeDemand_keeps (keptByChanges _) steady demand

end Changes

section Threads

theorem addThread [Kernel κ] (steady : session.capabilities.2.Steady session.capabilities.1)
    (thread : ThreadId) : (session.addThread thread).2.Steady session.capabilities.1 where
  sound := steady.sound.addThread thread
  orderly other bank := by
    obtain ⟨model, same⟩ := tableOf_addThread steady.sound thread other bank
    exact (steady.orderly model bank).samePoints same

theorem forget [Kernel κ] (steady : session.Steady caps) (thread : ThreadId) :
    (session.forget thread).Steady caps where
  sound := steady.sound.forget thread
  orderly other bank := by
    rcases tableOf_forget session thread other caps bank with empty | same
    · exact empty ▸ SlotTable.orderly_empty bank (caps.slots bank)
    · exact same ▸ steady.orderly other bank

end Threads

end Steady

/-- The tables are in good order, unless banks are written late. Without knowing
the capabilities there are no tables. -/
structure InOrder (session : Session κ) : Prop where
  sound : session.Sound
  bare : session.capabilities? = none → session.sets.toList = []
  steady : ∀ caps, session.capabilities? = some caps → caps.interface ≠ .registerArray →
    session.Steady caps

namespace InOrder

theorem change (ordered : session.InOrder) (capabilities? : after.capabilities? = session.capabilities?)
    (sets : after.sets = session.sets) (threads : after.threads = session.threads) :
    after.InOrder where
  sound := ordered.sound.congr sets threads
  bare unknown := sets ▸ ordered.bare (capabilities?.symm.trans unknown)
  steady caps known late :=
    (ordered.steady caps (capabilities?.symm.trans known) late).congr sets threads

variable [Kernel κ]

theorem probed (ordered : session.InOrder)
    (immediate : session.capabilities.1.interface ≠ .registerArray) :
    session.capabilities.2.Steady session.capabilities.1 := by
  cases known : session.capabilities? with
  | some caps =>
      rw [capabilities_of_known known] at immediate ⊢
      exact ordered.steady caps known immediate
  | none =>
      have steady : session.Steady session.capabilities.1 := by
        refine ⟨ordered.sound, fun thread bank => ?_⟩
        rw [tableOf_of_bare (ordered.bare known)]
        exact SlotTable.orderly_empty bank _
      exact steady.congr rfl rfl

theorem operated (basis : session.capabilities.2.SameBasis after) (sound : after.Sound)
    (steady : session.capabilities.1.interface ≠ .registerArray →
      after.Steady session.capabilities.1) : after.InOrder := by
  have found : after.capabilities? = some session.capabilities.1 := basis.capabilities?
  refine ⟨sound, fun unknown => ?_, fun caps known immediate => ?_⟩
  · rw [found] at unknown
    cases unknown
  · rw [found] at known
    cases known
    exact steady immediate

end InOrder

theorem inOrder_start (kernel : κ) (leader : ThreadId) (settings : Settings)
    (capabilities? : Option Capabilities) :
    (Session.start kernel leader settings capabilities?).InOrder where
  sound := sound_start kernel leader settings capabilities?
  bare _ := rfl
  steady caps _ _ := .start kernel leader settings capabilities? caps

theorem keptByEvents_inOrder :
    KeptByEvents fun session : Session SimulatedKernel => session.InOrder where
  probe ordered := .operated (.refl _) (keptByEvents_sound.probe ordered.sound) ordered.probed
  quiet ordered _ := ordered.change rfl rfl rfl
  insertDemand {session} ordered demand :=
    .operated (insertDemand_sameProcess session demand).sameBasis
      (keptByEvents_sound.insertDemand ordered.sound demand)
      fun immediate => (ordered.probed immediate).insertDemand demand
  removeDemand {session} ordered demand :=
    .operated (removeDemand_sameProcess session demand).sameBasis
      (keptByEvents_sound.removeDemand ordered.sound demand)
      fun immediate => (ordered.probed immediate).removeDemand demand
  addThread {session} ordered thread :=
    .operated (addThread_basis session thread) (keptByEvents_sound.addThread ordered.sound thread)
      fun immediate => (ordered.probed immediate).addThread thread
  removeThread {session} ordered thread := by
    have same := removeThread_sameTables session thread
    have forgotten : (session.forget thread).InOrder := by
      refine ⟨ordered.sound.forget thread, fun unknown => ?_, fun caps known immediate =>
        (ordered.steady caps known immediate).forget thread⟩
      change (session.sets.erase thread).toList = []
      simp [ThreadSets.erase, ordered.bare unknown]
    exact forgotten.change same.capabilities? same.sets same.threads
  prepareToResume {session} ordered thread := by
    refine .operated (prepareToResume_basis session thread).1
      (keptByEvents_sound.prepareToResume ordered.sound thread) fun immediate => ?_
    rw [prepareToResume_of_immediate immediate]
    exact ordered.probed immediate
  stoppedAt {session} ordered thread := by
    obtain ⟨same, _⟩ := stoppedAt_sameTables session thread
    exact .operated same.sameBasis (keptByEvents_sound.stoppedAt ordered.sound thread)
      fun immediate => (ordered.probed immediate).congr same.sets same.threads
  control ordered _ _ := ordered.change rfl rfl rfl

end Session

end DebugRegisters
