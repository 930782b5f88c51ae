import DebugRegisters.Proofs.Session.Owning
import DebugRegisters.Proofs.Session.Registrations

/-!
# Threads that are taken up again

A thread that is reported once more keeps what it has if the set made last is its
own. Otherwise it is given the points of that set, as a new thread is: the handles
that are dropped for it first belong to the other thread, and its own set gives way
to the new one. Registrations that it had by then stay, and no slot has their
handles any more.
-/

set_option autoImplicit false

namespace DebugRegisters

open SimulatedKernel

namespace Slot

def registration? (slot : Slot) : Option (Int × Registration) :=
  match slot.handle, slot.point with
  | some handle, some point => some (handle.number, ⟨point, .ofPoint point⟩)
  | _, _ => none

theorem registration?_eq_some_iff {slot : Slot} {number : Int} {live : Registration} :
    slot.registration? = some (number, live) ↔
      slot.handle = some ⟨number⟩ ∧
        ∃ point, slot.point = some point ∧ live = ⟨point, .ofPoint point⟩ := by
  unfold registration?
  cases slot.handle with
  | none => simp
  | some handle =>
      obtain ⟨given⟩ := handle
      cases slot.point with
      | none => simp
      | some point => simp [eq_comm]

theorem registration?_withHandle {slot : Slot} {point : EncodedPoint} (holds : slot.point = some point)
    (handle : SlotHandle) :
    (slot.withHandle handle).registration? = some (handle.number, ⟨point, .ofPoint point⟩) :=
  registration?_eq_some_iff.mpr ⟨rfl, point, holds, rfl⟩

end Slot

namespace Mirrors

variable {live : List (Int × Registration)} {next : Int} {points : ThreadPoints}

theorem exists_registration (mirrors : Mirrors points.table live (fun _ => False) next) {slot : Slot}
    (member : slot ∈ points.occupiedSlots RegisterBank.all) :
    ∃ entry ∈ live, slot.registration? = some entry := by
  obtain ⟨bank, _, index, there, occupied⟩ := ThreadPoints.mem_occupiedSlots_iff.mp member
  obtain ⟨point, holds⟩ := Option.isSome_iff_exists.mp occupied
  obtain ⟨number, kept, registered | gone⟩ := mirrors.registered bank index slot point there holds
  · exact ⟨_, registered, Slot.registration?_eq_some_iff.mpr ⟨kept, point, holds, rfl⟩⟩
  · exact gone.elim

theorem exists_slot (mirrors : Mirrors points.table live (fun _ => False) next)
    (distinct : (live.map Prod.fst).Nodup) {entry : Int × Registration} (member : entry ∈ live) :
    ∃ slot ∈ points.occupiedSlots RegisterBank.all, slot.registration? = some entry := by
  obtain ⟨bank, index, slot, there, kept, holds⟩ := mirrors.owned entry member
  have occupied := Session.mem_occupiedSlots there (Option.isSome_iff_exists.mpr ⟨_, holds⟩)
  obtain ⟨twin, live, registered⟩ := mirrors.exists_registration occupied
  obtain ⟨same, _⟩ := Slot.registration?_eq_some_iff.mp registered
  have equal : twin = entry :=
    List.inj_on_of_nodup_map distinct live member (by simpa [kept] using same.symm)
  exact ⟨slot, occupied, equal ▸ registered⟩

/-- Occupied slots that the kernel lists alike are the same slot. -/
theorem apart_of_registration (mirrors : Mirrors points.table live (fun _ => False) next)
    {bank other : RegisterBank} {first second : Nat × Slot}
    (here : first ∈ (points.table bank).occupied) (there : second ∈ (points.table other).occupied)
    (alike : first.2.registration? = second.2.registration?) : other = bank ∧ second = first := by
  obtain ⟨index, slot⟩ := first
  obtain ⟨position, twin⟩ := second
  obtain ⟨found, occupied⟩ := SlotTable.mem_occupied_iff.mp here
  obtain ⟨also, _⟩ := SlotTable.mem_occupied_iff.mp there
  obtain ⟨entry, _, registered⟩ :=
    mirrors.exists_registration (Session.mem_occupiedSlots found occupied)
  obtain ⟨kept, _⟩ := Slot.registration?_eq_some_iff.mp registered
  obtain ⟨same, _⟩ := Slot.registration?_eq_some_iff.mp (alike ▸ registered)
  obtain ⟨rfl, rfl⟩ := mirrors.apart bank index slot other position twin _ found also kept same
  cases found.symm.trans also
  exact ⟨rfl, rfl⟩

theorem nodup_registrations (mirrors : Mirrors points.table live (fun _ => False) next) :
    ((points.occupiedSlots RegisterBank.all).map Slot.registration?).Nodup := by
  rw [ThreadPoints.occupiedSlots, List.map_flatMap, List.nodup_flatMap]
  constructor
  · intro bank _
    rw [List.map_map]
    refine List.Nodup.map_on ?_ (List.Nodup.of_map _ (points.table bank).nodup_occupied)
    intro first here second there alike
    exact (mirrors.apart_of_registration here there alike).2.symm
  · refine Session.nodup_banks.imp fun {bank other} different => ?_
    intro listed among beside
    simp only [List.map_map] at among beside
    obtain ⟨first, here, rfl⟩ := List.mem_map.mp among
    obtain ⟨second, there, alike⟩ := List.mem_map.mp beside
    exact different (mirrors.apart_of_registration here there alike.symm).1.symm

end Mirrors

namespace Session

def occupiedSlots (session : Session SimulatedKernel) (thread : ThreadId) : List Slot :=
  (session.sets.get? thread).elim [] fun points => points.occupiedSlots RegisterBank.all

/-- The live registrations of a thread are those of its occupied slots, one for each
under the handle of the slot and for its point. -/
def RegistersOnce (session : Session SimulatedKernel) (thread : ThreadId) : Prop :=
  ((session.kernel.threads thread).registrations.map some).Perm
    ((session.occupiedSlots thread).map Slot.registration?)

instance (session : Session SimulatedKernel) (thread : ThreadId) :
    Decidable (session.RegistersOnce thread) :=
  inferInstanceAs (Decidable (List.Perm _ _))

theorem occupiedSlots_of_get? {session : Session SimulatedKernel} {thread : ThreadId}
    {points : ThreadPoints} (there : session.sets.get? thread = some points) :
    session.occupiedSlots thread = points.occupiedSlots RegisterBank.all := by
  rw [occupiedSlots, there]
  rfl

theorem occupiedSlots_of_none {session : Session SimulatedKernel} {thread : ThreadId}
    (absent : session.sets.get? thread = none) : session.occupiedSlots thread = [] := by
  rw [occupiedSlots, absent]
  rfl

section TakingOver

variable {origin : SimulatedKernel} {session after : Session SimulatedKernel}
  {thread owner : ThreadId} {registered handles : List SlotHandle} {slots : List Slot}

/-- Each point that is registered anew is live under its new handle, behind what the
thread has already. -/
theorem Renews.registrations (renews : Renews thread session slots handles after)
    (adds : Adds origin thread registered session.kernel) (foreign : thread ≠ owner)
    (owns : ∀ slot ∈ slots, ∀ number, slot.handle = some ⟨number⟩ → origin.Owns owner number) :
    (after.kernel.threads thread).registrations.map some =
      (session.kernel.threads thread).registrations.map some ++
        (List.zipWith Slot.withHandle slots handles).map Slot.registration? := by
  induction renews generalizing registered with
  | done => simp
  | @next session after slot rest point handle handles kernel holds answered later ih =>
      have here := owns slot List.mem_cons_self
      have next := adds_of_registered answered adds foreign here
      have same := adds.threads_dropStale foreign here
      have outcome := registers (session.dropStale thread slot.handle).kernel thread point
      rw [answered] at outcome
      have behind := ih next fun slot member => owns slot (List.mem_cons_of_mem _ member)
      rw [behind, List.zipWith_cons_cons, List.map_cons, Slot.registration?_withHandle holds]
      cases outcome with
      | registered begun =>
          dsimp only
          rw [registrations_withRegistration_self, begun.threads, begun.nextHandle, same,
            List.map_append, List.append_assoc]
          rfl

/-- A thread that is given the points of another keeps its own registrations beside
those of its new slots. -/
theorem addThread_of_takesOver (owning : session.Owning) (takes : session.TakesOver thread)
    (taken : (session.addThread thread).1 = .ok ()) :
    ((session.addThread thread).2.kernel.threads thread).registrations.map some =
      (session.kernel.threads thread).registrations.map some ++
        ((session.addThread thread).2.occupiedSlots thread).map Slot.registration? := by
  obtain ⟨interface, some_given⟩ := takes
  obtain ⟨pattern, given⟩ := Option.isSome_iff_exists.mp some_given
  have announced : (session.announce thread).OwnsHandles := owning.probed.congr (.refl _) rfl
  obtain ⟨foreign, owns⟩ := announced.owns_pattern (owning.sound.congr rfl rfl) given
  have outcome := replicates (session.announce thread) thread pattern
  rw [addThread_eq, given] at taken ⊢
  simp only [equip, interface] at taken ⊢
  generalize (session.announce thread).replicate thread pattern = reply at outcome taken
  cases outcome with
  | undone => cases taken
  | @renewed kernel handles after points paused renews copied renewed =>
      have admitted := admits_pause (session.announce thread).kernel thread
      rw [paused] at admitted
      cases admitted with
      | admitted entered =>
          have begun := (Adds.start (session.announce thread).kernel thread).enters entered
          have lists := renews.registrations begun foreign owns
          have there : (after.sets.insert points).get? thread = some points := by
            rw [← copied.thread, ThreadSets.get?_insert_self]
          dsimp only at lists ⊢
          rw [kernel_follow_showRegisters, lists, entered.threads, owning.threads_announce,
            ← renewed, occupiedSlots_of_get?]
          rw [sets_follow_showRegisters]
          exact there

theorem addThread_of_not_takesOver (owning : session.Owning) (keeps : ¬session.TakesOver thread) :
    ((session.addThread thread).2.kernel.threads thread).registrations =
        (session.kernel.threads thread).registrations ∧
      (session.addThread thread).2.occupiedSlots thread = session.occupiedSlots thread := by
  have same : equip session.capabilities.1 (session.announce thread) thread
      (session.pattern? thread) = (.ok (), session.announce thread) := by
    rcases owning.interface with interface | interface
    · cases given : session.pattern? thread with
      | none => simp only [equip, interface]
      | some pattern => exact absurd ⟨interface, by simp [given]⟩ keeps
    · exact equip_of_unavailable interface
  rw [addThread_eq, same]
  dsimp only
  rw [kernel_follow_showRegisters, owning.threads_announce, occupiedSlots,
    sets_follow_showRegisters]
  exact ⟨rfl, rfl⟩

theorem registersOnce_addThread_of_takesOver (owning : session.Owning)
    (takes : session.TakesOver thread) (taken : (session.addThread thread).1 = .ok ()) :
    (session.addThread thread).2.RegistersOnce thread ↔
      (session.kernel.threads thread).registrations = [] := by
  unfold RegistersOnce
  rw [addThread_of_takesOver owning takes taken, ← List.map_eq_nil_iff (f := some)]
  constructor
  · intro same
    have shorter : List.Perm _ ([] ++ _) := same
    exact List.perm_nil.mp ((List.perm_append_right_iff _).mp shorter)
  · intro bare
    rw [bare, List.nil_append]

theorem registersOnce_addThread_of_not_takesOver (owning : session.Owning)
    (keeps : ¬session.TakesOver thread) :
    (session.addThread thread).2.RegistersOnce thread ↔ session.RegistersOnce thread := by
  obtain ⟨registrations, slots⟩ := addThread_of_not_takesOver owning keeps
  unfold RegistersOnce
  rw [registrations, slots]

end TakingOver

/-- Where slots and registrations mirror each other and none fired, every slot is
registered once. -/
theorem Mirrored.registersOnce {caps : Capabilities} {session : Session SimulatedKernel}
    (mirrored : session.Mirrored caps fun _ _ => False) (thread : ThreadId) :
    session.RegistersOnce thread := by
  have mirrors := mirrored.mirrors thread
  have distinct := mirrored.distinct.distinct thread
  unfold RegistersOnce
  cases there : session.sets.get? thread with
  | none =>
      rw [mirrored.bare_of_none there, occupiedSlots_of_none there]
      exact .refl _
  | some points =>
      rw [tableOf_eq_table there] at mirrors
      rw [occupiedSlots_of_get? there]
      have once := (List.Nodup.of_map _ distinct).map (Option.some_injective _)
      refine (List.perm_ext_iff_of_nodup once mirrors.nodup_registrations).mpr fun listed => ?_
      constructor
      · intro member
        obtain ⟨entry, live, rfl⟩ := List.mem_map.mp member
        exact List.mem_map.mpr (mirrors.exists_slot distinct live)
      · intro member
        obtain ⟨slot, occupied, rfl⟩ := List.mem_map.mp member
        obtain ⟨entry, live, registered⟩ := mirrors.exists_registration occupied
        exact registered ▸ List.mem_map_of_mem live

end Session

def Event.IsCalm : Event → Prop
  | .fail _ | .vanish _ | .trigger _ _ _ => False
  | _ => True

namespace Session

theorem not_fires_of_isCalm {event : Event} (calm : event.IsCalm)
    (session : Session SimulatedKernel) (thread : ThreadId) (number : Int) :
    ¬session.Fires event thread number := by
  rintro ⟨_, _, address, rfl⟩
  exact calm

/-- As long as no thread with registrations is given points of another, slots and
registrations mirror each other. -/
theorem mirroredFor_of_sparing {start history : History}
    (begun : start.session.MirroredFor fun _ _ => False)
    (reached : History.Leads (fun history event => event.IsCalm ∧ history.session.Sparing event)
      start history) : history.session.MirroredFor fun _ _ => False := by
  induction reached with
  | start => exact begun
  | @step history event _ permitted ih =>
      obtain ⟨calm, spares⟩ := permitted
      refine (ih.perform spares).1.mono fun thread number gone => ?_
      exact not_fires_of_isCalm calm history.session thread number (gone.resolve_left id)

variable {kernel : SimulatedKernel} {reply : Power.HardwareReply}

/-- On a kernel with handles, in every session that events lead to, a thread is taken
up that may be there already. If it is given the points of another, it keeps all its
registrations beside those of its new slots, which match the slots then just when it
had none; otherwise they match just when they did before. As long as nothing fails or
triggers and no thread with registrations was given points, they match everywhere. -/
theorem reannounced_thread_registers_once_iff (facility : kernel.facility = .handles reply)
    (bare : ∀ thread, (kernel.threads thread).registrations = [])
    (reliable : kernel.OnlyPlacingFails) {leader : ThreadId} {settings : Settings}
    {capabilities? : Option Capabilities}
    (preset : ∀ caps, capabilities? = some caps → kernel.facility.Supports caps)
    (granted : ∀ caps, capabilities? = some caps → kernel.facility.Grants caps) :
    let start := History.ofSession (.start kernel leader settings capabilities?)
    (∀ history, History.Leads (fun _ _ => True) start history →
      ∀ thread, (history.session.addThread thread).1 = .ok () →
        let after := (history.session.addThread thread).2
        (history.session.TakesOver thread →
          (after.kernel.threads thread).registrations.map some =
              (history.session.kernel.threads thread).registrations.map some ++
                (after.occupiedSlots thread).map Slot.registration? ∧
            (after.RegistersOnce thread ↔
              (history.session.kernel.threads thread).registrations = [])) ∧
        (¬history.session.TakesOver thread →
          (after.RegistersOnce thread ↔ history.session.RegistersOnce thread))) ∧
    ∀ history,
      History.Leads (fun history event => event.IsCalm ∧ history.session.Sparing event) start history →
        ∀ thread, history.session.RegistersOnce thread := by
  intro start
  constructor
  · intro history reached thread taken after
    have owning : history.session.Owning :=
      reached.kept Owning.keptByEvents (.start facility bare preset)
    exact ⟨fun takes => ⟨addThread_of_takesOver owning takes taken,
        registersOnce_addThread_of_takesOver owning takes taken⟩,
      registersOnce_addThread_of_not_takesOver owning⟩
  · intro history reached thread
    have begun : start.session.MirroredFor fun _ _ => False :=
      mirroredFor_start facility bare reliable granted
    exact (mirroredFor_of_sparing begun reached).current.registersOnce thread

/-- The set of the second thread is the one made last, so that the thread keeps what it
has when it is reported again. -/
theorem reannounced_thread_registers_once_iff_newest :
    let start := History.ofSession (.start .embedded ⟨100⟩ .standard none)
    let history := start.afterAll
      [.newThread ⟨101⟩, .insert (.plain ⟨.write, ⟨0x1000⟩, 1, 0, none⟩), .newThread ⟨101⟩]
    let outcome := history.session.addThread ⟨101⟩
    ⟨101⟩ ∈ history.session.threads ∧ outcome.1 = .ok () ∧
    (outcome.2.kernel.threads ⟨101⟩).registrations.map Prod.fst = [2] ∧
    outcome.2.RegistersOnce ⟨101⟩ := by
  intro start history outcome
  have reliable : SimulatedKernel.embedded.OnlyPlacingFails := ⟨rfl, nofun⟩
  obtain ⟨each, all⟩ := @reannounced_thread_registers_once_iff .embedded _ rfl (fun _ => rfl)
    reliable ⟨100⟩ .standard none nofun nofun
  have reached : History.Leads (fun _ _ => True) start history :=
    History.leads_afterAll .start ⟨trivial, trivial, trivial, trivial⟩
  have sparing : History.Leads (fun history event => event.IsCalm ∧ history.session.Sparing event)
      start history :=
    History.leads_afterAll .start ⟨⟨trivial, fun _ => rfl⟩, ⟨trivial, trivial⟩,
      ⟨trivial, fun takes => absurd takes.given (by decide)⟩, trivial⟩
  have keeps : ¬history.session.TakesOver ⟨101⟩ := fun takes => absurd takes.given (by decide)
  have taken : outcome.1 = .ok () := by decide
  obtain ⟨_, kept⟩ := each history reached ⟨101⟩ taken
  exact ⟨by decide, taken, by decide, (kept keeps).mpr (all history sparing ⟨101⟩)⟩

/-- The first thread is reported again, and is given the points of the second. -/
theorem reannounced_thread_leaves_registration :
    let start := History.ofSession (.start .embedded ⟨100⟩ .standard none)
    let history := start.afterAll
      [.newThread ⟨101⟩, .insert (.plain ⟨.write, ⟨0x1000⟩, 1, 0, none⟩)]
    let outcome := history.session.addThread ⟨100⟩
    History.Leads (fun _ event => event.IsCalm) start history ∧
    ⟨100⟩ ∈ history.session.threads ∧ outcome.1 = .ok () ∧
    (outcome.2.kernel.threads ⟨100⟩).registrations.map Prod.fst = [1, 3] ∧
    ¬outcome.2.RegistersOnce ⟨100⟩ := by
  intro start history outcome
  exact ⟨History.leads_afterAll .start ⟨trivial, trivial, trivial⟩, by decide, by decide, by decide,
    by decide⟩

end Session

end DebugRegisters
