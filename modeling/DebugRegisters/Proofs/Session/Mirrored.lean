import DebugRegisters.Proofs.Kernel.Placing
import DebugRegisters.Proofs.Session.Steady
import DebugRegisters.Proofs.Session.Taking
import DebugRegisters.Proofs.SlotTable.Mirror

/-!
# Sessions that mirror their kernel

On a kernel with handles the slots of every thread and its live registrations
mirror each other, as long as the kernel only fails to stop threads and to
register points. Taking points and giving them up keeps it so.
-/

set_option autoImplicit false

namespace DebugRegisters

open SimulatedKernel

/-- The kernel has handles, and no fewer registers than the capabilities tell.
What cannot be used has no slots. -/
structure Facility.Grants (facility : Facility) (caps : Capabilities) : Prop where
  handles : ∃ reply, facility = .handles reply
  interface : caps.interface = .handles ∨
    caps.interface = .unavailable ∧ ∀ bank, caps.slots bank = 0
  slots : ∀ bank, caps.slots bank ≤ facility.bankSize bank

/-- Where there is room for a point, a slot that cannot be taken costs no handle. -/
theorem KernelSide.answers_of_takeSlot {caps : Capabilities} {thread : ThreadId}
    {point : EncodedPoint} {side left : KernelSide SimulatedKernel} {error : PointError}
    (handles : ∃ reply, side.kernel.facility = .handles reply)
    (room : (side.kernel.threads thread).used point.kind.bank + point.cost ≤
      side.kernel.facility.bankSize point.kind.bank)
    (refused : takeSlot caps thread side point = (.error error, left)) :
    side.kernel.Answers left.kernel := by
  have outcome := takes caps thread side point
  rw [refused] at outcome
  cases outcome with
  | unregistered _ registered =>
      cases registered with
      | refused entered => exact entered.answers (.inr nofun)
      | full _ crowded => exact absurd room (Nat.not_le_of_lt crowded)
      | foreign _ other =>
          obtain ⟨reply, same⟩ := handles
          exact absurd same (other reply)
  | unwritten _ begun => exact begun.answers (.inr nofun)

namespace Session

/-- Slots and registrations mirror each other on all threads. Those that `fired`
may be gone. -/
structure Mirrored (caps : Capabilities) (fired : ThreadId → Int → Prop)
    (session : Session SimulatedKernel) : Prop where
  steady : session.Steady caps
  granted : session.kernel.facility.Grants caps
  reliable : session.kernel.OnlyPlacingFails
  distinct : session.kernel.IsDistinct
  mirrors : ∀ thread, Mirrors (session.tableOf caps thread)
    (session.kernel.threads thread).registrations (fired thread) session.kernel.nextHandle

structure ChangesWith (caps : Capabilities) (fired : ThreadId → Int → Prop) (thread : ThreadId)
    (session after : Session SimulatedKernel) : Prop where
  changes : session.kernel.ChangesOn thread after.kernel
  tables : ∀ other ≠ thread, after.tableOf caps other = session.tableOf caps other
  mirrors : Mirrors (after.tableOf caps thread) (after.kernel.threads thread).registrations
    (fired thread) after.kernel.nextHandle

variable {caps : Capabilities} {fired : ThreadId → Int → Prop}
  {session after : Session SimulatedKernel} {placement : Placement} {index : Nat}
  {edit : Slot → Slot}

theorem Puts.tableOf_self
    (puts : session.Puts caps placement ((session.target caps placement).modify index edit) after) :
    after.tableOf caps placement.thread =
      editSlot (session.tableOf caps placement.thread) placement.point.kind.bank index edit := by
  funext bank
  unfold editSlot
  split
  · next here =>
      subst here
      exact puts.here
  · next other => exact puts.elsewhere _ bank fun here => other here.2

theorem Puts.tableOf_of_ne {table : SlotTable} (puts : session.Puts caps placement table after)
    {thread : ThreadId} (different : thread ≠ placement.thread) :
    after.tableOf caps thread = session.tableOf caps thread := by
  funext bank
  exact puts.elsewhere thread bank fun here => different here.1

theorem Takes.changesOn (taken : session.Takes caps placement after) :
    session.kernel.ChangesOn placement.thread after.kernel := by
  cases taken with
  | joined paused | marked _ paused => exact paused.changesOn (.inl (by decide))
  | registered _ paused begun made =>
      rw [made]
      exact (paused.changesOn (.inl (by decide))).trans (begun.changesOn_withRegistration _)
  | written _ paused begun made =>
      rw [made]
      exact (paused.changesOn (.inl (by decide))).trans (begun.changesOn_withLegacy _)

theorem GivesUp.changesOn (given : session.GivesUp caps placement after) :
    session.kernel.ChangesOn placement.thread after.kernel := by
  cases given with
  | left same | apart same =>
      rw [same]
      exact .refl _ _
  | dropped _ _ begun made =>
      rw [made]
      exact begun.changesOn_withoutRegistration _
  | gone _ _ _ refused =>
      cases refused with
      | refused entered | unknown entered => exact entered.changesOn (.inl (by decide))
  | cleared _ begun made =>
      rw [made]
      exact begun.changesOn_withLegacy 0

namespace Mirrored

theorem idles (mirrored : session.Mirrored caps fired) (steady : after.Steady caps)
    (tables : after.tableOf caps = session.tableOf caps)
    (follows : session.kernel.Follows after.kernel) (idle : session.kernel.Idles after.kernel) :
    after.Mirrored caps fired where
  steady
  granted := follows.facility.symm ▸ mirrored.granted
  reliable := mirrored.reliable.follows follows
  distinct := mirrored.distinct.fewer idle.nextHandle fun _ => idle.threads ▸ List.Sublist.refl _
  mirrors thread := by
    rw [tables, idle.threads, idle.nextHandle]
    exact mirrored.mirrors thread

theorem change {thread : ThreadId} (mirrored : session.Mirrored caps fired)
    (steady : after.Steady caps) (changed : ChangesWith caps fired thread session after) :
    after.Mirrored caps fired where
  steady
  granted := changed.changes.follows.facility.symm ▸ mirrored.granted
  reliable := mirrored.reliable.follows changed.changes.follows
  distinct := changed.changes.distinct mirrored.distinct
  mirrors other := by
    by_cases same : other = thread
    · exact same ▸ changed.mirrors
    · rw [changed.tables other same, changed.changes.elsewhere other same]
      exact (mirrored.mirrors other).later changed.changes.answers.next

/-- Where nothing can be used of the kernel, there are no slots. -/
theorem handles_of_slot (mirrored : session.Mirrored caps fired) {thread : ThreadId}
    {bank : RegisterBank} {slot : Slot}
    (there : (session.tableOf caps thread bank).get? index = some slot) :
    caps.interface = .handles := by
  rcases mirrored.granted.interface with handles | ⟨_, none⟩
  · exact handles
  · have inside := SlotTable.lt_capacity_of_get? there
    rw [(mirrored.steady.orderly thread bank).sized, none] at inside
    cases inside

/-- The kernel has room for what the table has room for. -/
theorem room (mirrored : session.Mirrored caps fired) {thread : ThreadId} {point : EncodedPoint}
    (fits : point.cost ≤ (session.tableOf caps thread point.kind.bank).available) :
    (session.kernel.threads thread).used point.kind.bank + point.cost ≤
      session.kernel.facility.bankSize point.kind.bank := by
  have orderly := mirrored.steady.orderly thread
  have fewer := (mirrored.mirrors thread).used_le orderly (mirrored.distinct.distinct thread)
    point.kind.bank
  have slots := mirrored.granted.slots point.kind.bank
  have sized := (orderly point.kind.bank).sized
  have taken := (orderly point.kind.bank).fits
  unfold SlotTable.available at fits
  omega

theorem takes (mirrored : session.Mirrored caps fired) (steady : after.Steady caps)
    (taken : session.Takes caps placement after) : after.Mirrored caps fired := by
  have changes := taken.changesOn
  cases taken with
  | joined paused there holds puts =>
      refine mirrored.change steady ⟨changes, fun _ => puts.tableOf_of_ne, ?_⟩
      rw [puts.tableOf_self, paused.threads, paused.nextHandle]
      apply (mirrored.mirrors _).edit <;> exact fun _ => rfl
  | marked later _ there =>
      have handles := mirrored.handles_of_slot there
      rw [handles] at later
      rcases later with other | other <;> cases other
  | written legacy _ _ _ there =>
      have handles := mirrored.handles_of_slot there
      rw [handles] at legacy
      cases legacy
  | @registered _ _ _ entered handles paused begun made there isFree absent puts =>
      have idle := (paused.idles (.inl (by decide))).trans (begun.idles (.inl (by decide)))
      have next : after.kernel.nextHandle = session.kernel.nextHandle + 1 := by
        rw [made, ← idle.nextHandle]
        rfl
      refine mirrored.change steady ⟨changes, fun _ => puts.tableOf_of_ne, ?_⟩
      rw [puts.tableOf_self]
      refine (mirrored.mirrors _).occupy there isFree (fun entry => ?_) (by omega)
      rw [made, mem_registrations_withRegistration, idle.threads, idle.nextHandle]
      simp

theorem givesUp (mirrored : session.Mirrored caps fired) (steady : after.Steady caps)
    (given : session.GivesUp caps placement after) : after.Mirrored caps fired := by
  have changes := given.changesOn
  cases given with
  | left same there holds more puts =>
      refine mirrored.change steady ⟨changes, fun _ => puts.tableOf_of_ne, ?_⟩
      rw [puts.tableOf_self, same]
      apply (mirrored.mirrors _).edit <;> exact fun _ => rfl
  | apart same other bare there holds puts =>
      have handles := mirrored.handles_of_slot there
      obtain ⟨number, kept, _⟩ := (mirrored.mirrors _).registered _ _ _ _ there holds
      rw [bare handles] at kept
      cases kept
  | cleared legacy _ _ there =>
      have handles := mirrored.handles_of_slot there
      rw [handles] at legacy
      cases legacy
  | @dropped _ _ held entered _ kept begun made there _ puts =>
      refine mirrored.change steady ⟨changes, fun _ => puts.tableOf_of_ne, ?_⟩
      have next : after.kernel.nextHandle = session.kernel.nextHandle := by
        rw [made]
        exact begun.nextHandle
      rw [puts.tableOf_self, next]
      refine (mirrored.mirrors _).free there fun entry => ?_
      rw [made, mem_registrations_withoutRegistration, begun.threads, kept]
      obtain ⟨number⟩ := held
      simp [eq_comm]
  | @gone _ slot held _ _ kept _ refused there _ puts =>
      cases refused with
      | refused entered refuses => exact absurd refuses mirrored.reliable.not_refuses_deregister
      | unknown entered absent =>
          refine mirrored.change steady ⟨changes, fun _ => puts.tableOf_of_ne, ?_⟩
          rw [puts.tableOf_self, entered.threads, entered.nextHandle]
          refine (mirrored.mirrors _).free there fun entry => ⟨fun live => ⟨live, ?_⟩, And.left⟩
          rw [kept]
          rintro ⟨rfl⟩
          simp only [ThreadRegisters.isRegistered, List.any_eq_false, decide_eq_true_eq] at absent
          exact absent entry live rfl

theorem answers_of_install_error (mirrored : session.Mirrored caps fired) {error : PointError}
    (refused : install caps session placement = (.error error, after)) :
    session.kernel.Answers after.kernel := by
  have admitted := admits_pause session.kernel placement.thread
  obtain ⟨_, _, ⟨cause, paused, _⟩ | ⟨kernel, table, side, paused, inserted, same⟩⟩ :=
    install_error refused
  · rw [paused] at admitted
    cases admitted with
    | refused entered => exact entered.answers (.inl (by decide))
  · rw [paused] at admitted
    rw [same]
    cases admitted with
    | admitted entered =>
        refine (entered.answers (.inl (by decide))).trans ?_
        cases inserted with
        | full => exact .refl _
        | refused _ registered fits =>
            apply KernelSide.answers_of_takeSlot _ _ registered
            · exact entered.facility.symm ▸ mirrored.granted.handles
            · dsimp only
              rw [entered.threads, entered.facility]
              exact mirrored.room fits

theorem keptByChanges (caps : Capabilities) (fired : ThreadId → Int → Prop)
    (origin : SimulatedKernel) :
    KeptByChanges caps fun session : Session SimulatedKernel =>
      session.Mirrored caps fired ∧ origin.Answers session.kernel where
  quiet := by
    intro session ⟨mirrored, answers⟩ reports
    exact ⟨mirrored.idles ((Steady.keptByChanges caps).quiet mirrored.steady reports) rfl
      (.refl _) (.refl _), answers⟩
  ensure := by
    intro session ⟨mirrored, answers⟩ thread tracked
    exact ⟨mirrored.idles ((Steady.keptByChanges caps).ensure mirrored.steady tracked)
      (tableOf_ensure session caps thread) (.refl _) (.refl _), answers⟩
  install := by
    intro session ⟨mirrored, answers⟩ placement tracked
    have steady := mirrored.steady.install tracked
    have follows := acrossCalls_follows.install caps session placement
    cases outcome : Session.install caps session placement with
    | mk result after =>
        rw [outcome] at steady follows
        cases result with
        | ok =>
            have taken := takes_of_install outcome
            exact ⟨mirrored.takes steady taken, answers.trans taken.changesOn.answers⟩
        | error error =>
            have idle := idles_of_install_error outcome
            exact ⟨mirrored.idles steady (install_error outcome).1 follows idle,
              answers.trans (mirrored.answers_of_install_error outcome)⟩
  uninstall := by
    intro session ⟨mirrored, answers⟩ placement tracked
    have steady := mirrored.steady.uninstall tracked
    have follows := acrossCalls_follows.uninstall caps session placement
    cases outcome : Session.uninstall caps session placement with
    | mk result after =>
        rw [outcome] at steady follows
        cases result with
        | ok found =>
            cases found with
            | true =>
                have given := givesUp_of_uninstall outcome
                exact ⟨mirrored.givesUp steady given, answers.trans given.changesOn.answers⟩
            | false => exact (uninstall_false outcome).1 ▸ ⟨mirrored, answers⟩
        | error error =>
            obtain ⟨call, cause, entered, _⟩ := fails_of_uninstall_error outcome
            exact ⟨mirrored.idles steady (uninstall_error outcome).1 follows
              (entered.idles (.inr nofun)), answers.trans (entered.answers (.inr nofun))⟩

theorem insertDemand
    (mirrored : session.capabilities.2.Mirrored session.capabilities.1 fired) (demand : Demand) :
    (session.insertDemand demand).2.Mirrored session.capabilities.1 fired ∧
      session.capabilities.2.kernel.Answers (session.insertDemand demand).2.kernel :=
  insertDemand_keeps (keptByChanges session.capabilities.1 fired session.capabilities.2.kernel)
    ⟨mirrored, .refl session.capabilities.2.kernel⟩ demand

theorem removeDemand
    (mirrored : session.capabilities.2.Mirrored session.capabilities.1 fired) (demand : Demand) :
    (session.removeDemand demand).2.Mirrored session.capabilities.1 fired ∧
      session.capabilities.2.kernel.Answers (session.removeDemand demand).2.kernel :=
  removeDemand_keeps (keptByChanges session.capabilities.1 fired session.capabilities.2.kernel)
    ⟨mirrored, .refl session.capabilities.2.kernel⟩ demand

end Mirrored

end Session

end DebugRegisters
