import DebugRegisters.Proofs.Session.Mirrored
import DebugRegisters.Proofs.Session.Renewal

/-!
# Handles of one thread

On a kernel with handles, whatever calls fail, the handle of an occupied slot was
given out for the thread of the slot, and no other thread has a live registration
with its number. A thread that takes over the points of another holds their
handles only until it has registered the points for itself.
-/

set_option autoImplicit false

namespace DebugRegisters

open SimulatedKernel

/-- On a kernel with handles either these are used, or nothing is. -/
theorem Facility.Supports.handles_or_unavailable {reply : Power.HardwareReply} {caps : Capabilities}
    (supported : (Facility.handles reply).Supports caps) :
    caps.interface = .handles ∨ caps.interface = .unavailable := by
  cases supported with
  | reply _ useful => exact .inl (interface_of_reply useful)
  | unavailable => exact .inr rfl

theorem threads_dropRegistrations_of_absent {thread : ThreadId}
    (report : SlotHandle → KernelError → Notice) (session : Session SimulatedKernel)
    {handles : List SlotHandle}
    (absent : ∀ handle ∈ handles,
      (session.kernel.threads thread).isRegistered handle.number = false) :
    (Session.dropRegistrations report session thread handles).kernel.threads =
      session.kernel.threads := by
  induction handles generalizing session with
  | nil => rfl
  | cons handle rest ih =>
      have kept := threads_deregister_of_absent (absent handle List.mem_cons_self)
      unfold Session.dropRegistrations
      split
      all_goals
        next answered =>
          rw [answered] at kept
          refine (ih _ fun other member => ?_).trans kept
          exact kept ▸ absent other (List.mem_cons_of_mem _ member)

section Stale

variable {origin : SimulatedKernel} {thread owner : ThreadId} {registered : List SlotHandle}
  {session : Session SimulatedKernel} {stale : Option SlotHandle}

/-- A handle that a slot was copied with is another thread's, and dropping it here
changes nothing. -/
theorem SimulatedKernel.Adds.threads_dropStale
    (adds : Adds origin thread registered session.kernel) (foreign : thread ≠ owner)
    (owns : ∀ number, stale = some ⟨number⟩ → origin.Owns owner number) :
    (session.dropStale thread stale).kernel.threads = session.kernel.threads := by
  refine threads_dropRegistrations_of_absent _ session fun handle member => ?_
  exact adds.isRegistered_of_owns foreign (owns handle.number (Option.mem_toList.mp member))

theorem SimulatedKernel.Adds.dropStale (adds : Adds origin thread registered session.kernel)
    (foreign : thread ≠ owner)
    (owns : ∀ number, stale = some ⟨number⟩ → origin.Owns owner number) :
    Adds origin thread registered (session.dropStale thread stale).kernel := by
  have issues := (acrossCalls_issues.registrations thread).dropRegistrations
    (.staleNotReleased thread) session stale.toList
  exact adds.same issues fun _ => by rw [adds.threads_dropStale foreign owns]

end Stale

namespace Session

section Gaining

variable {origin : SimulatedKernel} {thread owner : ThreadId} {registered handles : List SlotHandle}
  {session after broken : Session SimulatedKernel} {slots : List Slot} {cause : KernelError}

/-- A point that is registered anew adds its handle. -/
theorem adds_of_registered {slot : Slot} {point : EncodedPoint} {handle : SlotHandle}
    {kernel : SimulatedKernel}
    (answered : Kernel.register (session.dropStale thread slot.handle).kernel thread point =
      (.ok handle, kernel))
    (adds : Adds origin thread registered session.kernel) (foreign : thread ≠ owner)
    (owns : ∀ number, slot.handle = some ⟨number⟩ → origin.Owns owner number) :
    Adds origin thread (registered ++ [handle]) kernel := by
  have dropped := adds.dropStale foreign owns
  have outcome := registers (session.dropStale thread slot.handle).kernel thread point
  rw [answered] at outcome
  cases outcome with
  | registered begun => exact dropped.register begun point

theorem Renews.adds (renews : Renews thread session slots handles after)
    (adds : Adds origin thread registered session.kernel) (foreign : thread ≠ owner)
    (owns : ∀ slot ∈ slots, ∀ number, slot.handle = some ⟨number⟩ → origin.Owns owner number) :
    Adds origin thread (registered ++ handles) after.kernel := by
  induction renews generalizing registered with
  | done => exact (List.append_nil registered).symm ▸ adds
  | @next session after slot rest point handle handles kernel holds answered later ih =>
      have next := adds_of_registered answered adds foreign (owns slot List.mem_cons_self)
      have all := ih next fun slot member => owns slot (List.mem_cons_of_mem _ member)
      rwa [List.append_assoc] at all

theorem RefusedAt.adds (refused : RefusedAt thread session slots cause handles broken)
    (adds : Adds origin thread registered session.kernel) (foreign : thread ≠ owner)
    (owns : ∀ slot ∈ slots, ∀ number, slot.handle = some ⟨number⟩ → origin.Owns owner number) :
    Adds origin thread (registered ++ handles) broken.kernel := by
  induction refused generalizing registered with
  | @here session slot rest point cause kernel holds answered =>
      have dropped := adds.dropStale foreign (owns slot List.mem_cons_self)
      have outcome := registers (session.dropStale thread slot.handle).kernel thread point
      rw [answered] at outcome
      rw [List.append_nil]
      cases outcome with
      | refused entered | full entered | foreign entered => exact dropped.enters entered
  | @later session broken slot rest point handle handles cause kernel holds answered refused ih =>
      have next := adds_of_registered answered adds foreign (owns slot List.mem_cons_self)
      have all := ih next fun slot member => owns slot (List.mem_cons_of_mem _ member)
      rwa [List.append_assoc] at all

/-- Up to where it breaks off, a thread has added what was registered for it. -/
theorem BreaksOff.adds {pattern : ThreadPoints} {call : KernelCall}
    (breaks : session.BreaksOff thread pattern call cause handles broken) (foreign : thread ≠ owner)
    (owns : ∀ slot ∈ pattern.occupiedSlots RegisterBank.all, ∀ number,
      slot.handle = some ⟨number⟩ → session.kernel.Owns owner number) :
    Adds session.kernel thread handles broken.kernel := by
  have begun := Adds.start session.kernel thread
  have admitted := admits_pause session.kernel thread
  cases breaks with
  | running refused =>
      rw [refused] at admitted
      cases admitted with
      | refused entered => exact begun.enters entered
  | unregistered paused refused =>
      rw [paused] at admitted
      cases admitted with
      | admitted entered => exact refused.adds (begun.enters entered) foreign owns

end Gaining

variable {session after broken : Session SimulatedKernel} {caps : Capabilities}
  {placement : Placement} {thread : ThreadId} {number : Int}

def HoldsHandle (session : Session SimulatedKernel) (thread : ThreadId) (number : Int) : Prop :=
  ∃ points, session.sets.get? thread = some points ∧
    ∃ bank index slot, (points.table bank).get? index = some slot ∧ slot.isOccupied = true ∧
      slot.handle = some ⟨number⟩

theorem HoldsHandle.congr (holds : after.HoldsHandle thread number)
    (sets : after.sets = session.sets) : session.HoldsHandle thread number := by
  obtain ⟨points, there, found⟩ := holds
  exact ⟨points, sets ▸ there, found⟩

/-- Threads without a set have nothing in their slots. -/
theorem holdsHandle_iff (caps : Capabilities) :
    session.HoldsHandle thread number ↔
      ∃ bank index slot, (session.tableOf caps thread bank).get? index = some slot ∧
        slot.isOccupied = true ∧ slot.handle = some ⟨number⟩ := by
  constructor
  · rintro ⟨points, there, bank, index, slot, found, occupied, kept⟩
    exact ⟨bank, index, slot, tableOf_of_get? there caps bank ▸ found, occupied, kept⟩
  · rintro ⟨bank, index, slot, found, occupied, kept⟩
    cases there : session.sets.get? thread with
    | none =>
        rw [tableOf_of_none there] at found
        rw [SlotTable.get?_empty found] at occupied
        cases occupied
    | some points =>
        rw [tableOf_of_get? there] at found
        exact ⟨points, there, bank, index, slot, found, occupied, kept⟩

/-- After one slot has changed, handles are held as before or by that slot. -/
theorem HoldsHandle.of_puts {index : Nat} {change : Slot → Slot} {slot : Slot}
    (holds : after.HoldsHandle thread number)
    (puts : session.Puts caps placement ((session.target caps placement).modify index change) after)
    (there : (session.target caps placement).get? index = some slot) :
    session.HoldsHandle thread number ∨
      thread = placement.thread ∧ (change slot).isOccupied = true ∧
        (change slot).handle = some ⟨number⟩ := by
  obtain ⟨bank, position, twin, found, occupied, kept⟩ := (holdsHandle_iff caps).mp holds
  by_cases here : thread = placement.thread
  · subst here
    rw [puts.tableOf_self] at found
    rcases get?_editSlot_cases found with ⟨_, _, before, held, rfl⟩ | ⟨_, held⟩
    · cases there.symm.trans held
      exact .inr ⟨rfl, occupied, kept⟩
    · exact .inl ((holdsHandle_iff caps).mpr ⟨bank, position, twin, held, occupied, kept⟩)
  · rw [puts.tableOf_of_ne here] at found
    exact .inl ((holdsHandle_iff caps).mpr ⟨bank, position, twin, found, occupied, kept⟩)

/-- Where a thread is given a set, it holds what is in that set. -/
theorem HoldsHandle.of_insert {points : ThreadPoints} (holds : after.HoldsHandle thread number)
    (inserted : after.sets = session.sets.insert points) :
    session.HoldsHandle thread number ∨
      thread = points.thread ∧ ∃ bank index slot, (points.table bank).get? index = some slot ∧
        slot.isOccupied = true ∧ slot.handle = some ⟨number⟩ := by
  obtain ⟨held, there, found⟩ := holds
  rw [inserted] at there
  by_cases here : thread = points.thread
  · rw [here, ThreadSets.get?_insert_self] at there
    cases there
    exact .inr ⟨here, found⟩
  · rw [ThreadSets.get?_insert_of_ne _ points here] at there
    exact .inl ⟨held, there, found⟩

/-- A thread that is forgotten takes away no handle of another. -/
theorem HoldsHandle.of_forget {other : ThreadId}
    (holds : (session.forget thread).HoldsHandle other number) : session.HoldsHandle other number := by
  obtain ⟨points, there, found⟩ := holds
  change (session.sets.erase thread).get? other = some points at there
  by_cases here : other = thread
  · rw [here, ThreadSets.get?_erase_self] at there
    cases there
  · rw [ThreadSets.get?_erase_of_ne _ here] at there
    exact ⟨points, there, found⟩

structure OwnsHandles (session : Session SimulatedKernel) : Prop where
  distinct : session.kernel.IsDistinct
  own : ∀ thread number, session.HoldsHandle thread number → session.kernel.Owns thread number

namespace OwnsHandles

theorem change (owning : session.OwnsHandles) (issues : session.kernel.Issues after.kernel)
    (held : ∀ thread number, after.HoldsHandle thread number →
      session.HoldsHandle thread number ∨ after.kernel.Owns thread number) : after.OwnsHandles where
  distinct := issues.distinct owning.distinct
  own thread number holds := by
    rcases held thread number holds with before | owned
    · exact (owning.own thread number before).later issues
    · exact owned

theorem congr (owning : session.OwnsHandles) (issues : session.kernel.Issues after.kernel)
    (sets : after.sets = session.sets) : after.OwnsHandles :=
  owning.change issues fun _ _ holds => .inl (holds.congr sets)

theorem takes (owning : session.OwnsHandles) (issues : session.kernel.Issues after.kernel)
    (taken : session.Takes caps placement after) : after.OwnsHandles := by
  refine owning.change issues fun thread number holds => ?_
  cases taken with
  | joined _ there point puts =>
      rcases holds.of_puts puts there with before | ⟨rfl, occupied, kept⟩
      · exact .inl before
      · exact .inl ((holdsHandle_iff caps).mpr ⟨_, _, _, there, occupied, kept⟩)
  | marked _ _ there _ _ puts | written _ _ _ _ there _ _ puts =>
      rcases holds.of_puts puts there with before | ⟨_, _, kept⟩
      · exact .inl before
      · cases kept
  | @registered _ _ _ entered _ paused begun made there _ _ puts =>
      rcases holds.of_puts puts there with before | ⟨rfl, _, kept⟩
      · exact .inl before
      · cases kept
        have idle : entered.nextHandle = session.kernel.nextHandle :=
          begun.nextHandle.trans paused.nextHandle
        have distinct := begun.issues.distinct (paused.issues.distinct owning.distinct)
        have owned := owns_withRegistration distinct placement.thread placement.point
        rw [made, ← idle]
        exact .inr owned

theorem givesUp (owning : session.OwnsHandles) (issues : session.kernel.Issues after.kernel)
    (given : session.GivesUp caps placement after) : after.OwnsHandles := by
  refine owning.change issues fun thread number holds => ?_
  cases given with
  | left _ there _ _ puts =>
      rcases holds.of_puts puts there with before | ⟨rfl, occupied, kept⟩
      · exact .inl before
      · exact .inl ((holdsHandle_iff caps).mpr ⟨_, _, _, there, occupied, kept⟩)
  | apart _ _ _ there _ puts | dropped _ _ _ _ there _ puts | gone _ _ _ _ there _ puts
  | cleared _ _ _ there _ puts =>
      rcases holds.of_puts puts there with before | ⟨_, occupied, _⟩
      · exact .inl before
      · cases occupied

theorem of_tables (owning : session.OwnsHandles) (issues : session.kernel.Issues after.kernel)
    (tables : after.tableOf caps = session.tableOf caps) : after.OwnsHandles := by
  refine owning.change issues fun thread number holds => .inl ?_
  rw [holdsHandle_iff caps, tables] at holds
  exact (holdsHandle_iff caps).mpr holds

theorem keptByChanges (caps : Capabilities) :
    KeptByChanges caps fun session : Session SimulatedKernel => session.OwnsHandles where
  quiet owning _ := owning.congr (.refl _) rfl
  ensure {session} owning thread _ :=
    owning.of_tables (.refl _) (tableOf_ensure session caps thread)
  install {session} owning {placement} _ := by
    have issues := acrossCalls_issues.install caps session placement
    cases outcome : Session.install caps session placement with
    | mk result after =>
        rw [outcome] at issues
        cases result with
        | ok => exact owning.takes issues (takes_of_install outcome)
        | error error => exact owning.of_tables issues (install_error outcome).1
  uninstall {session} owning {placement} _ := by
    have issues := acrossCalls_issues.uninstall caps session placement
    cases outcome : Session.uninstall caps session placement with
    | mk result after =>
        rw [outcome] at issues
        cases result with
        | error error => exact owning.of_tables issues (uninstall_error outcome).1
        | ok found =>
            cases found with
            | true => exact owning.givesUp issues (givesUp_of_uninstall outcome)
            | false => exact (uninstall_false outcome).1 ▸ owning

/-- The slots that a new thread takes its points from have handles of another thread. -/
theorem owns_pattern (owning : session.OwnsHandles) (sound : session.Sound) {pattern : ThreadPoints}
    (given : session.pattern? thread = some pattern) :
    thread ≠ pattern.thread ∧
      ∀ slot ∈ pattern.occupiedSlots RegisterBank.all, ∀ number, slot.handle = some ⟨number⟩ →
        session.kernel.Owns pattern.thread number := by
  obtain ⟨_, foreign⟩ := Option.filter_eq_some_iff.mp given
  refine ⟨fun same => by simp [same] at foreign, fun slot member number kept => ?_⟩
  obtain ⟨bank, _, index, found, occupied⟩ := ThreadPoints.mem_occupiedSlots_iff.mp member
  exact owning.own pattern.thread number
    ⟨pattern, sound.get?_of_mem (mem_of_pattern? given), bank, index, slot, found, occupied, kept⟩

end OwnsHandles

structure Owning (session : Session SimulatedKernel) : Prop where
  handles : ∃ reply, session.kernel.facility = .handles reply
  supported : ∀ caps, session.capabilities? = some caps → session.kernel.facility.Supports caps
  sound : session.Sound
  owns : session.OwnsHandles

namespace Owning

theorem interface (owning : session.Owning) :
    session.capabilities.1.interface = .handles ∨ session.capabilities.1.interface = .unavailable := by
  obtain ⟨reply, handles⟩ := owning.handles
  have supported := capabilities_supported owning.supported
  rw [handles] at supported
  exact supported.handles_or_unavailable

theorem probed (owning : session.Owning) : session.capabilities.2.OwnsHandles :=
  owning.owns.congr (acrossCalls_issues.capabilities session) rfl

theorem threads_announce (owning : session.Owning) (thread : ThreadId) :
    (session.announce thread).kernel.threads = session.kernel.threads := by
  obtain ⟨_, handles⟩ := owning.handles
  have other_than_legacy : session.kernel.facility ≠ .legacy := by
    rw [handles]
    nofun
  exact (capabilities_keeps other_than_legacy).threads

theorem operated (owning : session.Owning) (basis : session.capabilities.2.SameBasis after)
    (follows : session.kernel.Follows after.kernel) (sound : after.Sound) (owns : after.OwnsHandles) :
    after.Owning where
  handles := follows.facility.symm ▸ owning.handles
  supported caps known := by
    have found : after.capabilities? = some session.capabilities.1 := basis.capabilities?
    rw [found] at known
    cases known
    exact follows.facility.symm ▸ capabilities_supported owning.supported
  sound
  owns

theorem change (owning : session.Owning)
    (facility : after.kernel.facility = session.kernel.facility)
    (known : after.capabilities? = session.capabilities?) (sound : after.Sound)
    (owns : after.OwnsHandles) : after.Owning where
  handles := facility.symm ▸ owning.handles
  supported caps there := facility.symm ▸ owning.supported caps (known ▸ there)
  sound
  owns

/-- Whatever is given to a thread, it owns. -/
theorem equip (owning : session.OwnsHandles) (sound : session.Sound)
    (interface : caps.interface = .handles ∨ caps.interface = .unavailable) (thread : ThreadId) :
    (equip caps session thread (session.pattern? thread)).2.OwnsHandles := by
  have issues := acrossCalls_issues.equip caps session thread (session.pattern? thread)
  rcases interface with handles | unavailable
  · cases given : session.pattern? thread with
    | none =>
        simp only [Session.equip, handles]
        exact owning
    | some pattern =>
        obtain ⟨foreign, owns⟩ := owning.owns_pattern sound given
        have tables := (replicate_copies session thread pattern).1
        have outcome := replicates session thread pattern
        rw [given] at issues
        simp only [Session.equip, handles] at issues ⊢
        generalize session.replicate thread pattern = reply at outcome tables issues
        cases outcome with
        | undone breaks => exact owning.congr issues tables.sets
        | @renewed kernel handles after points paused renews copied renewed =>
            have admitted := admits_pause session.kernel thread
            rw [paused] at admitted
            cases admitted with
            | admitted entered =>
                have begun := (Adds.start session.kernel thread).enters entered
                have adds := renews.adds begun foreign owns
                refine owning.change issues fun other number holds => ?_
                rcases holds.of_insert (congrArg (ThreadSets.insert · points) tables.sets) with
                  before | ⟨rfl, bank, index, slot, found, occupied, kept⟩
                · exact .inl before
                · have listed := mem_occupiedSlots found occupied
                  rw [renewed] at listed
                  obtain ⟨handle, member, registered⟩ := Slot.exists_handle_of_renewed listed
                  cases registered.symm.trans kept
                  rw [copied.thread]
                  exact .inr (adds.owns owning.distinct member)
  · rw [equip_of_unavailable unavailable]
    exact owning

theorem addThread (owning : session.Owning) (thread : ThreadId) :
    (session.addThread thread).2.OwnsHandles := by
  have sound : (session.announce thread).Sound := owning.sound.congr rfl rfl
  have probed : (session.announce thread).OwnsHandles := owning.probed.congr (.refl _) rfl
  have given := equip probed sound owning.interface thread
  have same : (session.announce thread).pattern? thread = session.pattern? thread := rfl
  rw [same] at given
  rw [addThread_eq]
  split
  · next refused =>
      rw [refused] at given
      exact given
  · next after equipped =>
      rw [equipped] at given
      refine given.congr ?_ (sets_follow_showRegisters after thread _)
      rw [kernel_follow_showRegisters]
      exact .refl _

theorem keptByEvents : KeptByEvents Owning where
  probe {session} owning :=
    owning.operated (.refl _) (capabilities_follows session) (keptByEvents_sound.probe owning.sound)
      owning.probed
  quiet owning _ :=
    owning.change rfl rfl (owning.sound.congr rfl rfl) (owning.owns.congr (.refl _) rfl)
  insertDemand {session} owning demand :=
    owning.operated (insertDemand_sameProcess session demand).sameBasis
      (insertDemand_follows session demand) (keptByEvents_sound.insertDemand owning.sound demand)
      (insertDemand_keeps (OwnsHandles.keptByChanges _) owning.probed demand)
  removeDemand {session} owning demand :=
    owning.operated (removeDemand_sameProcess session demand).sameBasis
      (removeDemand_follows session demand) (keptByEvents_sound.removeDemand owning.sound demand)
      (removeDemand_keeps (OwnsHandles.keptByChanges _) owning.probed demand)
  addThread {session} owning thread :=
    owning.operated (addThread_basis session thread) (addThread_follows session thread)
      (keptByEvents_sound.addThread owning.sound thread) (owning.addThread thread)
  removeThread {session} owning thread := by
    have same := removeThread_sameTables session thread
    refine owning.change (removeThread_follows session thread).facility same.capabilities?
      (keptByEvents_sound.removeThread owning.sound thread) ?_
    refine owning.owns.change (acrossCalls_issues.removeThread session thread) ?_
    intro other number holds
    have forgotten : (session.forget thread).HoldsHandle other number := holds.congr same.sets
    exact .inl forgotten.of_forget
  prepareToResume {session} owning thread := by
    have immediate : session.capabilities.1.interface ≠ .registerArray := by
      rcases owning.interface with same | same <;> rw [same] <;> nofun
    rw [prepareToResume_of_immediate immediate]
    exact owning.operated (.refl _) (capabilities_follows session)
      (keptByEvents_sound.probe owning.sound) owning.probed
  stoppedAt {session} owning thread := by
    obtain ⟨same, keeps⟩ := stoppedAt_sameTables session thread
    refine owning.operated same.sameBasis ((capabilities_follows session).trans keeps.toFollows)
      (keptByEvents_sound.stoppedAt owning.sound thread) ?_
    exact owning.owns.congr (acrossCalls_issues.stoppedAt session thread) same.sets
  control owning _ controlled :=
    owning.change controlled.facility rfl (owning.sound.congr rfl rfl)
      (owning.owns.congr controlled.issues rfl)

theorem start {kernel : SimulatedKernel} {reply : Power.HardwareReply}
    (handles : kernel.facility = .handles reply)
    (bare : ∀ thread, (kernel.threads thread).registrations = []) {leader : ThreadId}
    {settings : Settings} {capabilities? : Option Capabilities}
    (preset : ∀ caps, capabilities? = some caps → kernel.facility.Supports caps) :
    (Session.start kernel leader settings capabilities?).Owning where
  handles := ⟨reply, handles⟩
  supported := preset
  sound := sound_start kernel leader settings capabilities?
  owns := by
    refine ⟨⟨fun thread entry live => ?_, fun thread => ?_⟩, ?_⟩
    · change entry ∈ (kernel.threads thread).registrations at live
      rw [bare] at live
      cases live
    · change ((kernel.threads thread).registrations.map Prod.fst).Nodup
      rw [bare]
      exact List.nodup_nil
    · rintro thread number ⟨points, there, _⟩
      cases there

end Owning

end Session

end DebugRegisters
