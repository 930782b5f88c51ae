import DebugRegisters.Proofs.Session.Alike
import DebugRegisters.Proofs.Session.Steady
import DebugRegisters.Proofs.Session.Taking

/-!
# Slots and the data breakpoint register

A kernel with nothing but the data breakpoint register keeps one value for each
thread, and a session has one slot for it. While points are inserted and removed,
the register of every tracked thread has the value of the point in its slot, and
zero while the slot is free; and some thread has the value that the session
remembers as the last one written.
-/

set_option autoImplicit false

namespace DebugRegisters

def Slot.breakpointValue (isBookE : Bool) (slot : Slot) : UInt64 :=
  match slot.point with
  | none => 0
  | some point => Power.dataBreakpointValue point.address point.kind isBookE

namespace Slot

variable {slot other : Slot} {bank : RegisterBank}

theorem breakpointValue_congr (same : other.point = slot.point) (isBookE : Bool) :
    other.breakpointValue isBookE = slot.breakpointValue isBookE := by
  rw [breakpointValue, same, breakpointValue]

/-- What a slot counts for tells which point it holds. -/
theorem point_eq_of_contents (kept : slot.IsKept bank) (also : other.IsKept bank)
    (same : other.contents = slot.contents) : other.point = slot.point := by
  have holder : ∀ {first second : Slot} {point : EncodedPoint}, second.contents = first.contents →
      first.point = some point → 0 < first.references → second.point = some point := by
    intro first second point same holds counted
    have member : point ∈ second.contents := by
      rw [same, SlotTable.contents_of_holds holds]
      exact Multiset.mem_replicate.mpr ⟨Nat.ne_of_gt counted, rfl⟩
    cases found : second.point with
    | none =>
        rw [SlotTable.contents_of_unoccupied found] at member
        exact absurd member (Multiset.notMem_zero point)
    | some held =>
        rw [SlotTable.contents_of_holds found] at member
        rw [Multiset.eq_of_mem_replicate member]
  rcases kept with rfl | ⟨point, holds, _, counted⟩
  · rcases also with rfl | ⟨point, holds, _, counted⟩
    · rfl
    · exact holds.trans (holder same.symm holds counted).symm
  · exact (holder same holds counted).trans holds.symm

theorem breakpointValue_of_contents (kept : slot.IsKept bank) (nothing : slot.contents = 0)
    (isBookE : Bool) : slot.breakpointValue isBookE = 0 :=
  breakpointValue_congr (point_eq_of_contents (.inl rfl : Slot.free.IsKept bank) kept nothing) isBookE

end Slot

theorem SlotTable.slots_modify_single {table : SlotTable} {index : Nat} {slot only : Slot}
    (single : table.slots = [only]) (there : table.get? index = some slot) (change : Slot → Slot) :
    (table.modify index change).slots = [change slot] := by
  change table.slots[index]? = some slot at there
  change table.slots.modify index change = [change slot]
  rw [single] at there ⊢
  cases index with
  | zero =>
      cases there
      rfl
  | succ index => cases there

namespace KernelSide

variable {caps : Capabilities} {thread : ThreadId} {threads : List ThreadId}
  {side : KernelSide SimulatedKernel}

def IsNoted (threads : List ThreadId) (side : KernelSide SimulatedKernel) : Prop :=
  ∃ thread ∈ threads, (side.kernel.threads thread).legacy = side.legacyValue

theorem IsNoted.takeSlot (noted : side.IsNoted threads) (legacy : caps.interface = .legacy)
    (listed : thread ∈ threads) (point : EncodedPoint) :
    (takeSlot caps thread side point).2.IsNoted threads := by
  have taken := takes caps thread side point
  generalize KernelSide.takeSlot caps thread side point = outcome at taken
  cases taken with
  | deferred later => exact noted
  | registered handles | unregistered handles =>
      rw [legacy] at handles
      cases handles
  | written _ begun => exact ⟨thread, listed, SimulatedKernel.legacy_withLegacy _ _ thread⟩
  | unwritten _ begun =>
      unfold IsNoted
      rw [begun.threads]
      exact noted

theorem IsNoted.giveUpSlot (noted : side.IsNoted threads) (legacy : caps.interface = .legacy)
    (listed : thread ∈ threads) (handle : Option SlotHandle) :
    (giveUpSlot caps thread side handle).2.1.IsNoted threads := by
  have given := givesUp caps thread side handle
  generalize KernelSide.giveUpSlot caps thread side handle = outcome at given
  cases given with
  | apart other => exact noted
  | dropped handles | gone handles | undropped handles =>
      rw [legacy] at handles
      cases handles
  | cleared _ begun => exact ⟨thread, listed, SimulatedKernel.legacy_withLegacy _ _ thread⟩
  | uncleared _ begun =>
      unfold IsNoted
      rw [begun.threads]
      exact noted

end KernelSide

namespace Session

variable {architecture : Architecture} {session after : Session SimulatedKernel}
  {thread : ThreadId} {placement : Placement}

def NotesValue (session : Session SimulatedKernel) : Prop :=
  session.threads ≠ [] →
    KernelSide.IsNoted session.threads ⟨session.kernel, session.legacyValue⟩

theorem keptByChanges_notesValue {caps : Capabilities} (legacy : caps.interface = .legacy) :
    KeptByChanges caps NotesValue where
  quiet noted _ := noted
  ensure noted _ _ := noted
  install {session} noted {placement} tracked some := by
    have before := noted (List.ne_nil_of_mem tracked)
    have taken : ∀ (side : KernelSide SimulatedKernel) (point : EncodedPoint),
        side.IsNoted session.threads →
        (KernelSide.takeSlot caps placement.thread side point).2.IsNoted session.threads :=
      fun side point noted => noted.takeSlot legacy tracked point
    have paused : ∀ {answer kernel}, Kernel.pause session.kernel placement.thread = (answer, kernel) →
        KernelSide.IsNoted session.threads ⟨kernel, session.legacyValue⟩ := by
      intro answer kernel answered
      have keeps := session.kernel.pause_keeps placement.thread
      rw [answered] at keeps
      unfold KernelSide.IsNoted
      rw [keeps.threads]
      exact before
    have installed := installs caps session placement
    generalize Session.install caps session placement = outcome at installed
    cases installed with
    | running answered => exact paused answered
    | refused answered inserted => exact inserted.keeps_side taken (paused answered)
    | held _ answered inserted | marked _ answered inserted =>
        exact inserted.keeps_side taken (paused answered)
  uninstall {session} noted {placement} tracked some := by
    have before := noted (List.ne_nil_of_mem tracked)
    have given : ∀ (state : KernelSide SimulatedKernel × List Notice) (handle : Option SlotHandle),
        state.1.IsNoted session.threads →
        (giveUp caps placement.thread state handle).2.1.IsNoted session.threads :=
      fun state handle noted => noted.giveUpSlot legacy tracked handle
    have uninstalled := uninstalls caps session placement
    generalize Session.uninstall caps session placement = outcome at uninstalled
    cases uninstalled with
    | absent missing => exact before
    | refused _ there present removed => exact removed.keeps_side given before
    | dropped _ there removed | marked _ there removed => exact removed.keeps_side given before

def Shown (architecture : Architecture) (session : Session SimulatedKernel) (thread : ThreadId) :
    Prop :=
  ∀ slot ∈ (session.tableOf (.legacy architecture) thread .watchpoints).slots,
    (session.kernel.threads thread).legacy = slot.breakpointValue architecture.isBookE

theorem Shown.congr (shown : session.Shown architecture thread)
    (tables : after.tableOf (.legacy architecture) thread =
      session.tableOf (.legacy architecture) thread)
    (register : (after.kernel.threads thread).legacy = (session.kernel.threads thread).legacy) :
    after.Shown architecture thread := by
  intro slot member
  rw [register]
  exact shown slot (tables ▸ member)

theorem Steady.exists_slot (steady : session.Steady (.legacy architecture)) (thread : ThreadId) :
    ∃ slot, (session.tableOf (.legacy architecture) thread .watchpoints).slots = [slot] :=
  List.length_eq_one_iff.mp (steady.orderly thread .watchpoints).sized

/-- The one slot tells what a thread holds. -/
theorem Steady.held_of_slot (steady : session.Steady (.legacy architecture)) {slot : Slot}
    (member : slot ∈ (session.tableOf (.legacy architecture) thread .watchpoints).slots) :
    session.held thread = slot.contents := by
  have none : (session.tableOf (.legacy architecture) thread .breakpoints).slots = [] :=
    List.length_eq_zero_iff.mp (steady.orderly thread .breakpoints).sized
  obtain ⟨only, single⟩ := steady.exists_slot thread
  rw [single, List.mem_singleton] at member
  subst member
  rw [held_eq session (.legacy architecture) thread]
  change (session.tableOf (.legacy architecture) thread .breakpoints).contents +
    (session.tableOf (.legacy architecture) thread .watchpoints).contents = slot.contents
  unfold SlotTable.contents
  rw [none, single]
  simp

structure Shows (architecture : Architecture) (session : Session SimulatedKernel) : Prop where
  steady : session.Steady (.legacy architecture)
  shown : ∀ thread ∈ session.threads, session.Shown architecture thread

namespace Shows

theorem congr (shows : session.Shows architecture) (steady : after.Steady (.legacy architecture))
    (threads : after.threads = session.threads)
    (tables : after.tableOf (.legacy architecture) = session.tableOf (.legacy architecture))
    (registers : ∀ thread, (after.kernel.threads thread).legacy =
      (session.kernel.threads thread).legacy) : after.Shows architecture where
  steady
  shown thread tracked :=
    (shows.shown thread (threads ▸ tracked)).congr (congrFun tables thread) (registers thread)

/-- A slot is shown by each tracked thread that holds the same as the slot's own. -/
theorem value_of_same (shows : session.Shows architecture) (tracked : thread ∈ session.threads)
    (steady : after.Steady (.legacy architecture)) {other : ThreadId}
    (same : after.held other = session.held thread) {slot : Slot}
    (member : slot ∈ (after.tableOf (.legacy architecture) other .watchpoints).slots) :
    (session.kernel.threads thread).legacy = slot.breakpointValue architecture.isBookE := by
  obtain ⟨shown, single⟩ := shows.steady.exists_slot thread
  have there : shown ∈ (session.tableOf (.legacy architecture) thread .watchpoints).slots :=
    single ▸ List.mem_singleton_self shown
  rw [shows.steady.held_of_slot there, steady.held_of_slot member] at same
  have point := Slot.point_eq_of_contents ((steady.orderly other .watchpoints).kept slot member)
    ((shows.steady.orderly thread .watchpoints).kept shown there) same.symm
  exact (shows.shown thread tracked shown there).trans (Slot.breakpointValue_congr point _)

section Changes

variable {index : Nat} {slot : Slot}

/-- There are slots for watchpoints only. -/
theorem bank_of_target (shows : session.Shows architecture)
    (there : (session.target (.legacy architecture) placement).get? index = some slot) :
    placement.point.kind.bank = .watchpoints := by
  cases bank : placement.point.kind.bank with
  | watchpoints => rfl
  | breakpoints =>
      have none : (session.tableOf (.legacy architecture) placement.thread .breakpoints).slots = [] :=
        List.length_eq_zero_iff.mp (shows.steady.orderly _ .breakpoints).sized
      rw [target, bank] at there
      change (session.tableOf _ placement.thread .breakpoints).slots[index]? = some slot at there
      rw [none] at there
      cases there

theorem value_of_target (shows : session.Shows architecture)
    (tracked : placement.thread ∈ session.threads)
    (there : (session.target (.legacy architecture) placement).get? index = some slot) :
    (session.kernel.threads placement.thread).legacy =
      slot.breakpointValue architecture.isBookE := by
  have bank := shows.bank_of_target there
  rw [target, bank] at there
  exact shows.shown placement.thread tracked slot (List.mem_of_getElem? there)

/-- A slot is edited, and its thread shows what it became. -/
theorem edit (shows : session.Shows architecture) (steady : after.Steady (.legacy architecture))
    (threads : after.threads = session.threads) {change : Slot → Slot}
    (there : (session.target (.legacy architecture) placement).get? index = some slot)
    (puts : session.Puts (.legacy architecture) placement
      ((session.target (.legacy architecture) placement).modify index change) after)
    (here : (after.kernel.threads placement.thread).legacy =
      (change slot).breakpointValue architecture.isBookE)
    (elsewhere : ∀ other ≠ placement.thread,
      (after.kernel.threads other).legacy = (session.kernel.threads other).legacy) :
    after.Shows architecture where
  steady
  shown thread tracked := by
    by_cases same : thread = placement.thread
    · subst same
      have edited := puts.here
      have bank := shows.bank_of_target there
      obtain ⟨only, single⟩ := shows.steady.exists_slot placement.thread
      unfold target at there edited
      rw [bank] at there edited
      intro other member
      rw [edited, SlotTable.slots_modify_single single there, List.mem_singleton] at member
      rw [member, here]
    · refine (shows.shown thread (threads ▸ tracked)).congr ?_ (elsewhere thread same)
      funext bank
      exact puts.elsewhere thread bank fun both => same both.1

theorem takes (shows : session.Shows architecture) (steady : after.Steady (.legacy architecture))
    (threads : after.threads = session.threads) (tracked : placement.thread ∈ session.threads)
    (taken : session.Takes (.legacy architecture) placement after) : after.Shows architecture := by
  cases taken with
  | @joined index slot paused there holds puts =>
      refine shows.edit steady threads there puts ?_ fun other _ => by rw [paused.threads]
      rw [paused.threads, shows.value_of_target tracked there]
      exact (Slot.breakpointValue_congr rfl _).symm
  | marked later => rcases later with later | later <;> cases later
  | registered handles => cases handles
  | written _ paused begun made there isFree absent puts =>
      refine shows.edit steady threads there puts ?_ fun other different => ?_
      · rw [made, SimulatedKernel.legacy_withLegacy]
        rfl
      · rw [made, SimulatedKernel.threads_withLegacy_of_ne _ _ different, begun.threads,
          paused.threads]

theorem givesUp (shows : session.Shows architecture) (steady : after.Steady (.legacy architecture))
    (threads : after.threads = session.threads) (tracked : placement.thread ∈ session.threads)
    (given : session.GivesUp (.legacy architecture) placement after) : after.Shows architecture := by
  cases given with
  | left same there holds more puts =>
      refine shows.edit steady threads there puts ?_ fun other _ => by rw [same]
      rw [same, shows.value_of_target tracked there]
      exact (Slot.breakpointValue_congr rfl _).symm
  | apart _ other => exact absurd rfl other
  | dropped handles | gone handles => cases handles
  | cleared _ begun made there holds puts =>
      refine shows.edit steady threads there puts ?_ fun other different => ?_
      · rw [made, SimulatedKernel.legacy_withLegacy]
        rfl
      · rw [made, SimulatedKernel.threads_withLegacy_of_ne _ _ different, begun.threads]

theorem keptByChanges (architecture : Architecture) :
    KeptByChanges (.legacy architecture) (Shows architecture) where
  quiet shows _ := shows.congr (shows.steady.congr rfl rfl) rfl (tableOf_congr rfl _) fun _ => rfl
  ensure {session} shows {thread} tracked :=
    shows.congr ((Steady.keptByChanges _).ensure shows.steady tracked) rfl
      (tableOf_ensure session (.legacy architecture) thread) fun _ => rfl
  install {session} shows {placement} tracked := by
    have steady := shows.steady.install tracked
    have process := install_sameProcess (.legacy architecture) session placement
    cases outcome : Session.install (.legacy architecture) session placement with
    | mk result after =>
        rw [outcome] at steady process
        cases result with
        | ok => exact shows.takes steady process.threads tracked (takes_of_install outcome)
        | error error =>
            have idles := idles_of_install_error outcome
            exact shows.congr steady process.threads (install_error outcome).1 fun thread => by
              rw [idles.threads]
  uninstall {session} shows {placement} tracked := by
    have steady := shows.steady.uninstall tracked
    have process := uninstall_sameProcess (.legacy architecture) session placement
    cases outcome : Session.uninstall (.legacy architecture) session placement with
    | mk result after =>
        rw [outcome] at steady process
        cases result with
        | error error =>
            obtain ⟨_, _, entered, _⟩ := fails_of_uninstall_error outcome
            exact shows.congr steady process.threads (uninstall_error outcome).1 fun thread => by
              rw [entered.threads]
        | ok found =>
            cases found with
            | true => exact shows.givesUp steady process.threads tracked (givesUp_of_uninstall outcome)
            | false => exact (uninstall_false outcome).1 ▸ shows

end Changes

end Shows

end Session

end DebugRegisters
