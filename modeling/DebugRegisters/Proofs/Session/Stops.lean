import DebugRegisters.Proofs.Encoding.Reach
import DebugRegisters.Proofs.Session.Conforming

/-!
# Where a stop is reported

With register arrays a trap is reported by the highest of all slots that it can come
from, which need not be the one whose byte was touched: points that watch different
bytes of one window keep slots of their own, and a trap on any of these bytes can come
from each of them. So a trap on a watched byte is always reported, but at that byte
only if the highest slot watches it too. What is reported is a watched byte in any case,
as long as no watch is cut off at the end of the address space.
-/

set_option autoImplicit false

namespace DebugRegisters

namespace Event

def InsertsBelow : Event → Prop
  | .insert (.plain request) => request.EndsBelow
  | _ => True

instance : DecidablePred InsertsBelow
  | .insert (.plain request) => inferInstanceAs (Decidable request.EndsBelow)
  | .insert (.masked _ _ _) | .remove _ | .newThread _ | .exit _ | .resume _ | .stop _ | .probe
  | .askRange _ _ | .askMask _ _ | .fail _ | .vanish _ | .trap _ _ | .trigger _ _ _
  | .clearRecords => .isTrue trivial

end Event

namespace SlotTable

/-- The point of the highest slot among those that a trap at the address can come from. -/
def LastReached (table : SlotTable) (window : UInt64) (address : Address) (point : EncodedPoint) :
    Prop :=
  ∃ lower slot higher, table.slots = lower ++ slot :: higher ∧ slot.point = some point ∧
    point.Reaches window address ∧
    ∀ other ∈ higher, ∀ later, other.point = some later → ¬later.Reaches window address

variable {table : SlotTable} {window : UInt64} {address : Address} {point : EncodedPoint}

theorem decide_reaches_iff :
    (point.address.alignDown window ≤ address && address < (point.hardwareRange window).stop) =
      true ↔ point.Reaches window address := by
  simp [EncodedPoint.Reaches, Address.le_iff_toNat_le, Address.lt_iff_toNat_lt]

/-- The search goes from the highest slot down. -/
theorem trapped?_eq_some_iff :
    table.trapped? window address = some point ↔ table.LastReached window address point := by
  unfold trapped? LastReached
  simp only [List.find?_eq_some_iff_append, decide_reaches_iff, List.reverse_eq_append_iff,
    List.reverse_cons, List.append_assoc, List.singleton_append, Bool.not_eq_true']
  constructor
  · rintro ⟨reaches, later, earlier, shape, free⟩
    obtain ⟨low, high, slots, _, above⟩ := List.filterMap_eq_append_iff.mp shape
    obtain ⟨vacant, slot, higher, rfl, _, holds, same⟩ := List.filterMap_eq_cons_iff.mp above
    refine ⟨low ++ vacant, slot, higher, by simp [slots], holds, reaches, ?_⟩
    intro other member further held reached
    have listed : further ∈ higher.filterMap Slot.point := List.mem_filterMap.mpr ⟨other, member, held⟩
    rw [same, List.mem_reverse] at listed
    have out := free further listed
    rw [decide_reaches_iff.mpr reached] at out
    cases out
  · rintro ⟨lower, slot, higher, slots, holds, reaches, free⟩
    refine ⟨reaches, (higher.filterMap Slot.point).reverse, (lower.filterMap Slot.point).reverse,
      by simp [slots, holds], ?_⟩
    intro later listed
    rw [List.mem_reverse] at listed
    obtain ⟨other, member, held⟩ := List.mem_filterMap.mp listed
    have out := free other member later held
    rwa [← decide_reaches_iff, Bool.not_eq_true] at out

theorem trapped?_eq_none_iff :
    table.trapped? window address = none ↔
      ∀ slot ∈ table.slots, ∀ point, slot.point = some point → ¬point.Reaches window address := by
  unfold trapped?
  simp only [List.find?_eq_none, decide_reaches_iff, List.mem_reverse, List.mem_filterMap]
  constructor
  · exact fun free slot there point holds => free point ⟨slot, there, holds⟩
  · rintro free point ⟨slot, there, holds⟩
    exact free slot there point holds

theorem trapped?_empty {bank : RegisterBank} {capacity : Nat} :
    (empty bank capacity).trapped? window address = none := by
  rw [trapped?_eq_none_iff]
  intro slot there point holds
  obtain ⟨index, found⟩ := List.mem_iff_getElem?.mp there
  rw [get?_empty found] at holds
  cases holds

/-- If the trap can come from some slot, there is a highest one. -/
theorem exists_lastReached {slot : Slot} (there : slot ∈ table.slots)
    (holds : slot.point = some point) (reaches : point.Reaches window address) :
    ∃ last, table.LastReached window address last := by
  simp only [← trapped?_eq_some_iff, ← Option.isSome_iff_exists]
  unfold trapped?
  rw [List.find?_isSome]
  refine ⟨point, ?_, decide_reaches_iff.mpr reaches⟩
  rw [List.mem_reverse]
  exact List.mem_filterMap.mpr ⟨slot, there, holds⟩

end SlotTable

namespace Session

/-- With register arrays, a trap is reported by the point of the highest slot it can
come from. -/
theorem stoppedAt_of_trap {session : Session SimulatedKernel}
    (arrays : session.capabilities.1.interface = .registerArray) {thread : ThreadId}
    {points : ThreadPoints} (tracked : session.sets.get? thread = some points) {trap : Trap}
    {after : SimulatedKernel}
    (asked : Kernel.lastTrap session.capabilities.2.kernel thread = (.ok (some trap), after))
    (hardware : trap.isHardware = true) :
    (session.stoppedAt thread).1 =
      .ok (((points.table .watchpoints).trapped? session.capabilities.1.alignment
        trap.address).map fun point => point.watched.clamp trap.address) := by
  have same : session.capabilities.2.sets.get? thread = some points := tracked
  unfold stoppedAt
  simp only [asked, Option.filter, hardware, arrays, same, if_true]
  rfl

namespace HoldsOn

variable {breakpoints watchpoints : UInt32} {rule : Restriction → EncodedPoint → Prop}
  {masks : MaskTable} {session : Session SimulatedKernel} {thread : ThreadId}

theorem window_of_arrays
    (all : session.HoldsOn (.arrays breakpoints watchpoints) (ConformingTo rule masks))
    (arrays : session.capabilities.1.interface = .registerArray) :
    session.capabilities.1.alignment = Arm.watchWindow := by
  obtain ⟨architecture, first, second, found⟩ := all.supported.words_of_arrays arrays
  rw [found]
  rfl

theorem slots_of_unavailable
    (all : session.HoldsOn (.arrays breakpoints watchpoints) (ConformingTo rule masks))
    (unavailable : session.capabilities.1.interface = .unavailable) (bank : RegisterBank) :
    (session.tableOf session.capabilities.1 thread bank).slots = [] := by
  have sized := (all.found.current.conforms thread bank).sized
  rw [all.supported.slots_of_unavailable unavailable] at sized
  exact List.eq_nil_of_length_eq_zero sized

/-- Where there are slots at all, the registers were found, and their windows are of one
size. -/
theorem window_of_slot
    (all : session.HoldsOn (.arrays breakpoints watchpoints) (ConformingTo rule masks))
    {bank : RegisterBank} {slot : Slot}
    (there : slot ∈ (session.tableOf session.capabilities.1 thread bank).slots) :
    session.capabilities.1.interface = .registerArray ∧
      session.capabilities.1.alignment = Arm.watchWindow := by
  rcases all.supported.deferred with arrays | unavailable
  · exact ⟨arrays, all.window_of_arrays arrays⟩
  · rw [all.slots_of_unavailable unavailable] at there
    cases there

/-- A trap is reported by its highest point on every thread, whether it has points or not.
Where no registers are found there are no points that a trap can come from. -/
theorem stoppedAt_eq
    (all : session.HoldsOn (.arrays breakpoints watchpoints) (ConformingTo rule masks))
    {trap : Trap} {after : SimulatedKernel}
    (asked : Kernel.lastTrap session.capabilities.2.kernel thread = (.ok (some trap), after))
    (hardware : trap.isHardware = true) :
    (session.stoppedAt thread).1 =
      .ok (((session.tableOf session.capabilities.1 thread .watchpoints).trapped?
        Arm.watchWindow trap.address).map fun point => point.watched.clamp trap.address) := by
  have same : session.capabilities.2.sets.get? thread = session.sets.get? thread := rfl
  rcases all.supported.deferred with arrays | unavailable
  · cases tracked : session.sets.get? thread with
    | none =>
        rw [tableOf_of_none tracked, SlotTable.trapped?_empty]
        unfold stoppedAt
        simp only [asked, Option.filter, hardware, arrays, same, tracked, if_true, Option.map_none]
    | some points =>
        rw [tableOf_of_get? tracked, ← all.window_of_arrays arrays]
        exact stoppedAt_of_trap arrays tracked asked hardware
  · have nothing : (session.tableOf session.capabilities.1 thread .watchpoints).trapped?
        Arm.watchWindow trap.address = none := by
      rw [SlotTable.trapped?_eq_none_iff, all.slots_of_unavailable unavailable]
      exact nofun
    rw [nothing]
    unfold stoppedAt
    simp only [asked, Option.filter, hardware, unavailable, if_true, Option.map_none]

end HoldsOn

/-- Whatever happened before, with register arrays a trap on a watched byte is reported
by the highest slot that it can come from, at the byte nearest to the trap that this slot
watches. So the trap is reported where it was just if that slot watches the byte. -/
theorem stops_are_reported_by_highest_slot {kernel : SimulatedKernel}
    {breakpoints watchpoints : UInt32} {leader : ThreadId} {settings : Settings}
    {capabilities? : Option Capabilities} (valid : settings.maskTable.IsValid)
    (arrays : kernel.facility = .arrays breakpoints watchpoints)
    (preset : ∀ caps, capabilities? = some caps → kernel.facility.Supports caps) {history : History}
    (reached : History.Leads (fun _ _ => True)
      (.ofSession (.start kernel leader settings capabilities?)) history)
    {thread : ThreadId} {points : ThreadPoints}
    (tracked : history.session.sets.get? thread = some points) {trap : Trap}
    {after : SimulatedKernel}
    (asked : Kernel.lastTrap history.session.capabilities.2.kernel thread =
      (.ok (some trap), after))
    (hardware : trap.isHardware = true) {slot : Slot}
    (there : slot ∈ (points.table .watchpoints).slots) {point : EncodedPoint}
    (holds : slot.point = some point) (watched : point.watched.contains trap.address = true) :
    ∃ last, (points.table .watchpoints).LastReached Arm.watchWindow trap.address last ∧
      (history.session.stoppedAt thread).1 = .ok (some (last.watched.clamp trap.address)) ∧
      ((history.session.stoppedAt thread).1 = .ok (some trap.address) ↔
        last.watched.contains trap.address = true) := by
  have all := ConformingTo.holdsOn_of_leads Encoding.upholds_framed valid arrays preset reached
  have conforms := all.found.current.conforms thread .watchpoints
  have table := tableOf_of_get? tracked history.session.capabilities.1 .watchpoints
  obtain ⟨interface, window⟩ := all.window_of_slot (table ▸ there)
  rw [table] at conforms
  have framed := conforms.permitted_of_slot there holds
  obtain ⟨last, lastReached⟩ := SlotTable.exists_lastReached there holds (framed.reaches watched)
  have stopped := stoppedAt_of_trap interface tracked asked hardware
  rw [window, SlotTable.trapped?_eq_some_iff.mpr lastReached] at stopped
  refine ⟨last, lastReached, stopped, ?_⟩
  obtain ⟨lower, highest, higher, slots, held, reaches, _⟩ := lastReached
  have lastFramed : last.Framed := conforms.permitted_of_slot (by simp [slots]) held
  rw [stopped, ← lastFramed.clamp_eq_iff reaches]
  simp

/-- A watch over two windows, with a trap in its second part, and a watch on the rest of
the first window. -/
theorem stops_are_reported_by_highest_slot_fragment :
    let history := (History.ofSession (.start (.withArrays 2 4) ⟨1⟩ .standard none)).afterAll
      [.insert (.plain (.watch .write ⟨0x1004⟩ 8)), .insert (.plain (.watch .write ⟨0x1000⟩ 4)),
        .trap ⟨1⟩ ⟨true, ⟨0x1009⟩, none⟩]
    ∃ points, history.session.sets.get? ⟨1⟩ = some points ∧
      (history.session.stoppedAt ⟨1⟩).1 = .ok (some ⟨0x1009⟩) ∧
      ∃ last, (points.table .watchpoints).LastReached Arm.watchWindow ⟨0x1009⟩ last ∧
        last.watched.contains ⟨0x1009⟩ = true := by
  intro history
  let points := (history.session.sets.get? ⟨1⟩).getD (.empty ⟨1⟩ (.unavailable .aarch64))
  let second : EncodedPoint :=
    ⟨.write, ⟨0x1008⟩, .bytes ⟨0x0f⟩, none, ⟨⟨0x1008⟩, ⟨0x100c⟩⟩, 1⟩
  have tracked : history.session.sets.get? ⟨1⟩ = some points := by decide +kernel
  have answered : (history.session.stoppedAt ⟨1⟩).1 = .ok (some ⟨0x1009⟩) := by decide +kernel
  have asked : (Kernel.lastTrap history.session.capabilities.2.kernel ⟨1⟩).1 =
      .ok (some ⟨true, ⟨0x1009⟩, none⟩) := by decide +kernel
  obtain ⟨last, lastReached, _, precise⟩ :=
    @stops_are_reported_by_highest_slot (.withArrays 2 4) _ _ ⟨1⟩ .standard none
      ⟨[0x01, 0x03, 0x0f, 0xff], by decide⟩ rfl nofun _ (History.leads_afterAll .start (by decide))
      ⟨1⟩ points tracked _ _ (Prod.ext asked rfl) rfl ⟨some second, 1, none⟩ (by decide +kernel)
      second rfl (by decide)
  exact ⟨points, tracked, answered, last, lastReached, precise.mp answered⟩

/-- Two watches share a window. A trap on the first byte of the first is reported at the
first byte of the second. -/
theorem later_watch_takes_over_stop :
    let history := (History.ofSession (.start (.withArrays 2 2) ⟨1⟩ .standard none)).afterAll
      [.insert (.plain (.watch .write ⟨0x1000⟩ 4)), .insert (.plain (.watch .write ⟨0x1004⟩ 4)),
        .trap ⟨1⟩ ⟨true, ⟨0x1000⟩, none⟩]
    (∃ points, history.session.sets.get? ⟨1⟩ = some points ∧
      ∃ slot ∈ (points.table .watchpoints).slots, ∃ point, slot.point = some point ∧
        point.watched.contains ⟨0x1000⟩ = true) ∧
    (history.session.stoppedAt ⟨1⟩).1 = .ok (some ⟨0x1004⟩) := by
  intro history
  let points := (history.session.sets.get? ⟨1⟩).getD (.empty ⟨1⟩ (.unavailable .aarch64))
  let point : EncodedPoint := ⟨.write, ⟨0x1000⟩, .bytes ⟨0x0f⟩, none, ⟨⟨0x1000⟩, ⟨0x1004⟩⟩, 1⟩
  exact ⟨⟨points, by decide +kernel, ⟨some point, 1, none⟩, by decide +kernel, point, rfl,
    by decide⟩, by decide +kernel⟩

/-- The byte that is reported for a trap is one that some watchpoint of the thread stands
for, and the trap can come from this watchpoint. Nothing is reported only if the hardware
watches the address for none of them. This holds in every state that is reached without a
watch beyond the end of the address space, whether masks are restricted or not. -/
theorem reported_bytes_are_watched {kernel : SimulatedKernel} {breakpoints watchpoints : UInt32}
    {leader : ThreadId} {settings : Settings} {capabilities? : Option Capabilities}
    (valid : settings.maskTable.IsValid)
    (arrays : kernel.facility = .arrays breakpoints watchpoints)
    (preset : ∀ caps, capabilities? = some caps → kernel.facility.Supports caps) {history : History}
    (reached : History.Leads (fun _ event => event.InsertsBelow)
      (.ofSession (.start kernel leader settings capabilities?)) history)
    {thread : ThreadId} {trap : Trap} {after : SimulatedKernel}
    (asked : Kernel.lastTrap history.session.capabilities.2.kernel thread =
      (.ok (some trap), after))
    (hardware : trap.isHardware = true) :
    let slots :=
      (history.session.tableOf history.session.capabilities.1 thread .watchpoints).slots
    ∃ answer, (history.session.stoppedAt thread).1 = .ok answer ∧
      (∀ byte, answer = some byte → ∃ slot ∈ slots, ∃ point, slot.point = some point ∧
        point.watched.contains byte = true ∧ point.Reaches Arm.watchWindow trap.address) ∧
      (answer = none → ∀ slot ∈ slots, ∀ point, slot.point = some point →
        (point.hardwareRange Arm.watchWindow).contains trap.address = false) := by
  intro slots
  have all := ConformingTo.holdsOn_of_leads Encoding.upholds_framed valid arrays preset reached
  have below := ConformingTo.holdsOn_of_leads_asking Encoding.upholds_some valid arrays preset
    id reached
  have conforms := all.found.current.conforms thread .watchpoints
  have standing := below.found.current.conforms thread .watchpoints
  refine ⟨_, all.stoppedAt_eq asked hardware, fun byte told => ?_, fun nothing => ?_⟩
  · obtain ⟨point, found, rfl⟩ := Option.map_eq_some_iff.mp told
    obtain ⟨lower, slot, higher, shape, holds, reaches, _⟩ :=
      SlotTable.trapped?_eq_some_iff.mp found
    have there : slot ∈ slots := by
      rw [show slots = _ from shape]
      simp
    exact ⟨slot, there, point, holds,
      AddressRange.contains_clamp (standing.permitted_of_slot there holds), reaches⟩
  · intro slot there point holds
    have free := SlotTable.trapped?_eq_none_iff.mp (Option.map_eq_none_iff.mp nothing) slot there
      point holds
    have framed : point.Framed := conforms.permitted_of_slot there holds
    rw [← Bool.not_eq_true]
    exact mt (framed.reaches_of_hardwareRange (standing.permitted_of_slot there holds)) free

/-- The kernel takes no mask for the last two bytes of a window only, so the watch has to do
with the mask of the whole window. A trap on its second byte is reported at the byte that
is watched. -/
theorem reported_bytes_are_watched_degraded :
    let kernel := { SimulatedKernel.withArrays 2 2 with maskTable := some .standard }
    let history := (History.ofSession (.start kernel ⟨1⟩ .standard none)).afterAll
      [.insert (.plain (.watch .write ⟨0x1006⟩ 2)), .resume ⟨1⟩, .trap ⟨1⟩ ⟨true, ⟨0x1001⟩, none⟩]
    history.session.restriction.state = .degraded ∧
    (history.session.stoppedAt ⟨1⟩).1 = .ok (some ⟨0x1006⟩) ∧
    ∃ slot ∈ (history.session.tableOf history.session.capabilities.1 ⟨1⟩ .watchpoints).slots,
      ∃ point, slot.point = some point ∧ point.watched.contains ⟨0x1006⟩ = true ∧
        point.Reaches Arm.watchWindow ⟨0x1001⟩ := by
  intro kernel history
  have answered : (history.session.stoppedAt ⟨1⟩).1 = .ok (some ⟨0x1006⟩) := by decide +kernel
  have asked : (Kernel.lastTrap history.session.capabilities.2.kernel ⟨1⟩).1 =
      .ok (some ⟨true, ⟨0x1001⟩, none⟩) := by decide +kernel
  obtain ⟨answer, stopped, watched, _⟩ :=
    @reported_bytes_are_watched kernel _ _ ⟨1⟩ .standard none
      ⟨[0x01, 0x03, 0x0f, 0xff], by decide⟩ rfl nofun history
      (History.leads_afterAll .start (by decide)) ⟨1⟩ _ _ (Prod.ext asked rfl) rfl
  rw [answered, Except.ok.injEq] at stopped
  exact ⟨by decide +kernel, answered, watched ⟨0x1006⟩ stopped.symm⟩

end Session

end DebugRegisters
