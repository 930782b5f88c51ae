import DebugRegisters.Proofs.Session.Replication

/-!
# The registrations of every run

On a kernel with handles, slots and live registrations mirror each other after
every run in which threads may fail to stop and points to be registered: no
registration is left without a slot, and no slot without a registration but where
it was dropped by its own trigger. So the kernel has room wherever a table has.
-/

set_option autoImplicit false

namespace DebugRegisters

open SimulatedKernel

/-- What is found of a kernel with handles asks for no more than it has. -/
theorem Facility.Yields.granted {reply : Power.HardwareReply} {caps : Capabilities}
    (yields : (Facility.handles reply).Yields caps) : (Facility.handles reply).Grants caps where
  handles := ⟨reply, rfl⟩
  interface := by
    cases yields with
    | reply useful => exact .inl (Supports.interface_of_reply useful)
    | unavailable => exact .inr ⟨rfl, fun bank => by cases bank <;> rfl⟩
  slots := yields.slots_le nofun

namespace Session

def Undisturbed (session : Session SimulatedKernel) : Event → Prop
  | .newThread thread => thread ∉ session.threads
  | .fail failure => failure.call = .pause ∨ failure.call = .register
  | .vanish _ => False
  | _ => True

instance (session : Session SimulatedKernel) : ∀ event, Decidable (session.Undisturbed event)
  | .newThread thread => inferInstanceAs (Decidable (thread ∉ session.threads))
  | .fail failure => inferInstanceAs (Decidable (failure.call = .pause ∨ failure.call = .register))
  | .vanish _ => .isFalse id
  | .insert _ | .remove _ | .exit _ | .resume _ | .stop _ | .probe | .askRange _ _ | .askMask _ _
  | .trap _ _ | .trigger _ _ _ | .clearRecords => .isTrue trivial

/-- The event loses no thread, gives points only to threads without registrations, and
orders no other failures than of stopping threads and of registering points. -/
def Sparing (session : Session SimulatedKernel) : Event → Prop
  | .newThread thread =>
      session.TakesOver thread → (session.kernel.threads thread).registrations = []
  | .fail failure => failure.call = .pause ∨ failure.call = .register
  | .vanish _ => False
  | _ => True

def Fires (session : Session SimulatedKernel) (event : Event) (thread : ThreadId) (number : Int) :
    Prop :=
  session.kernel.isOneShot = true ∧
    (session.kernel.threads thread).isRegistered number = true ∧
    ∃ address, event = .trigger thread ⟨number⟩ address

variable {caps : Capabilities} {fired also : ThreadId → Int → Prop}
  {session after : Session SimulatedKernel}

structure MirroredFor (fired : ThreadId → Int → Prop) (session : Session SimulatedKernel) :
    Prop where
  handles : ∃ reply, session.kernel.facility = .handles reply
  granted : ∀ caps, session.capabilities? = some caps → session.kernel.facility.Grants caps
  mirrored : ∀ caps, session.kernel.facility.Grants caps →
    (∀ known, session.capabilities? = some known → known = caps) → session.Mirrored caps fired

namespace Mirrored

/-- Questions leave slots and registrations alone. -/
theorem asked (mirrored : session.Mirrored caps fired) (steady : after.Steady caps)
    (sets : after.sets = session.sets) (threads : after.kernel.threads = session.kernel.threads)
    (changes : session.kernel.ChangesOn session.leader after.kernel) :
    after.Mirrored caps fired := by
  have tables := tableOf_congr sets caps
  refine mirrored.change steady ⟨changes, ?_, ?_⟩
  · intro other _
    rw [tables]
  · rw [tables, threads]
    exact (mirrored.mirrors _).later changes.answers.next

/-- The simulation may drop registrations that fire. -/
theorem control (mirrored : session.Mirrored caps fired) {kernel : SimulatedKernel}
    (controlled : session.kernel.Controlled kernel) (reliable : kernel.OnlyPlacingFails)
    (before : ∀ thread number, fired thread number → also thread number)
    (gone : ∀ thread, ∀ entry ∈ (session.kernel.threads thread).registrations,
      entry ∈ (kernel.threads thread).registrations ∨ also thread entry.1) :
    Mirrored caps also { session with kernel } where
  steady := mirrored.steady.congr rfl rfl
  granted := controlled.facility.symm ▸ mirrored.granted
  reliable
  distinct := mirrored.distinct.fewer controlled.nextHandle controlled.registrations
  mirrors thread := by
    have next : (Session.kernel { session with kernel }).nextHandle = session.kernel.nextHandle :=
      controlled.nextHandle
    rw [next]
    have fewer := controlled.registrations thread
    exact (mirrored.mirrors thread).fire (fun _ member => fewer.subset member) (before thread)
      (gone thread)

end Mirrored

namespace MirroredFor

theorem capabilities (all : session.MirroredFor fired) :
    session.kernel.facility.Grants session.capabilities.1 := by
  unfold Session.capabilities Capabilities.cachedOrProbe
  cases known : session.capabilities? with
  | some caps => exact all.granted caps known
  | none =>
      obtain ⟨reply, handles⟩ := all.handles
      have found := probe_yields session.kernel session.leader
      rw [handles] at found ⊢
      exact found.granted

theorem current (all : session.MirroredFor fired) :
    session.Mirrored session.capabilities.1 fired := by
  refine all.mirrored _ all.capabilities fun known found => ?_
  rw [capabilities_of_known found]

theorem keeps (all : session.MirroredFor fired) :
    session.kernel.Keeps session.capabilities.2.kernel := by
  obtain ⟨reply, handles⟩ := all.handles
  apply capabilities_keeps
  rw [handles]
  exact nofun

theorem probed (all : session.MirroredFor fired) :
    session.capabilities.2.Mirrored session.capabilities.1 fired ∧
      session.kernel.Answers session.capabilities.2.kernel := by
  have mirrored := all.current
  have changes := (acrossQuestions_changesOn session.leader).capabilities session
  exact ⟨mirrored.asked (mirrored.steady.congr rfl rfl) rfl all.keeps.threads changes,
    changes.answers⟩

theorem operated (basis : session.capabilities.2.SameBasis after)
    (mirrored : after.Mirrored session.capabilities.1 fired) : after.MirroredFor fired := by
  have found : after.capabilities? = some session.capabilities.1 := basis.capabilities?
  refine ⟨mirrored.granted.handles, fun caps known => ?_, fun caps _ same => ?_⟩
  · rw [found] at known
    cases known
    exact mirrored.granted
  · exact same _ found ▸ mirrored

theorem change (all : session.MirroredFor fired)
    (facility : after.kernel.facility = session.kernel.facility)
    (known : after.capabilities? = session.capabilities?)
    (kept : ∀ caps, session.Mirrored caps fired → after.Mirrored caps also) :
    after.MirroredFor also where
  handles := facility.symm ▸ all.handles
  granted caps there := facility.symm ▸ all.granted caps (known ▸ there)
  mirrored caps granted same :=
    kept caps (all.mirrored caps (facility ▸ granted) fun other there => same other (known ▸ there))

theorem mono (all : session.MirroredFor fired)
    (wider : ∀ thread number, fired thread number → also thread number) :
    session.MirroredFor also :=
  all.change rfl rfl fun _ mirrored => mirrored.control (.of_threads rfl rfl rfl) mirrored.reliable
    wider fun _ _ => .inl

theorem keptByQuestions (fired : ThreadId → Int → Prop) (origin : SimulatedKernel) :
    KeptByQuestions fun session => session.MirroredFor fired ∧ origin.Answers session.kernel where
  probe := by
    intro session ⟨all, answers⟩
    obtain ⟨probed, asked⟩ := all.probed
    exact ⟨operated (.refl _) probed, answers.trans asked⟩
  quiet := by
    intro session ⟨all, answers⟩ reports
    refine ⟨all.change rfl rfl fun caps mirrored => ?_, answers⟩
    exact mirrored.idles (mirrored.steady.congr rfl rfl) (tableOf_congr rfl caps) (.refl _) (.refl _)

theorem stoppedAt (all : session.MirroredFor fired) (thread : ThreadId) :
    (session.stoppedAt thread).2.MirroredFor fired ∧
      session.kernel.Answers (session.stoppedAt thread).2.kernel := by
  obtain ⟨same, keeps⟩ := stoppedAt_sameTables session thread
  have changes := (acrossQuestions_changesOn session.leader).stoppedAt session thread
  have mirrored := all.current
  have steady := mirrored.steady.congr same.sets same.threads
  exact ⟨operated same.sameBasis (mirrored.asked steady same.sets
    (keeps.threads.trans all.keeps.threads) changes), changes.answers⟩

/-- There are no banks to write. -/
theorem prepareToResume (all : session.MirroredFor fired) (thread : ThreadId) :
    (session.prepareToResume thread).2 = session.capabilities.2 := by
  have late : session.capabilities.1.interface ≠ .registerArray := by
    intro arrays
    rcases all.capabilities.interface with interface | ⟨interface, _⟩ <;> rw [arrays] at interface <;>
      cases interface
  rw [prepareToResume_of_immediate late]

theorem removeThread (all : session.MirroredFor fired) (thread : ThreadId) :
    (session.removeThread thread).MirroredFor fired ∧
      session.kernel.Answers (session.removeThread thread).kernel := by
  have same := removeThread_sameTables session thread
  have follows := removeThread_follows session thread
  refine ⟨all.change follows.facility same.capabilities? fun caps mirrored => ?_, ?_⟩
  · exact (mirrored.removeThread thread).1
  · exact (all.current.removeThread thread).2

theorem orderFailure (all : session.MirroredFor fired) {failure : OrderedFailure}
    (placing : failure.call = .pause ∨ failure.call = .register) :
    (session.perform (.fail failure)).2.MirroredFor fired := by
  refine all.change rfl rfl fun caps mirrored => ?_
  refine mirrored.control (.of_threads rfl rfl rfl) ⟨mirrored.reliable.present, ?_⟩
    (fun _ _ => id) fun _ _ => .inl
  intro ordered member
  rcases List.mem_append.mp member with before | last
  · exact mirrored.reliable.failures ordered before
  · exact List.mem_singleton.mp last ▸ placing

theorem setTrap (all : session.MirroredFor fired) (thread : ThreadId) (trap : Trap) :
    (session.perform (.trap thread trap)).2.MirroredFor fired := by
  refine all.change rfl rfl fun caps mirrored => ?_
  refine mirrored.control (session.kernel.controlled_setTrap thread trap)
    ⟨mirrored.reliable.present, mirrored.reliable.failures⟩ (fun _ _ => id) ?_
  intro other entry live
  exact .inl (registrations_setTrap session.kernel thread other trap ▸ live)

/-- A trigger leaves all registrations but the one that it drops. -/
theorem trigger (all : session.MirroredFor fired) (thread : ThreadId) (handle : SlotHandle)
    (address : Address) :
    (session.perform (.trigger thread handle address)).2.MirroredFor fun other number =>
      fired other number ∨ session.Fires (.trigger thread handle address) other number := by
  have controlled := session.kernel.controlled_trigger thread handle address
  refine all.change controlled.facility rfl fun caps mirrored => ?_
  refine mirrored.control controlled ?_ (fun _ _ => .inl) ?_
  · exact mirrored.reliable.follows (session.kernel.trigger_follows thread handle address)
  · intro other entry live
    refine (session.kernel.mem_registrations_trigger live).imp_right ?_
    rintro ⟨rfl, same, oneShot⟩
    refine .inr ⟨oneShot, ?_, address, ?_⟩
    · exact List.any_eq_true.mpr ⟨entry, live, by simp⟩
    · rw [same]

/-- Threads that are not there yet have no registrations. -/
theorem sparing (all : session.MirroredFor fired) {event : Event}
    (undisturbed : session.Undisturbed event) : session.Sparing event := by
  cases event with
  | newThread thread =>
      have mirrored := all.current
      exact fun _ => mirrored.bare_of_none (mirrored.steady.sound.get?_of_untracked undisturbed)
  | fail failure => exact undisturbed
  | vanish thread => exact undisturbed
  | _ => trivial

/-- Every event keeps the session a mirror of its kernel, and every registration
that is let in gets a handle. -/
theorem perform (all : session.MirroredFor fired) {event : Event}
    (spares : session.Sparing event) :
    (session.perform event).2.MirroredFor
        (fun thread number => fired thread number ∨ session.Fires event thread number) ∧
      (event ≠ .clearRecords → session.kernel.Answers (session.perform event).2.kernel) := by
  obtain ⟨probed, asked⟩ := all.probed
  have questions := keptByQuestions fired session.kernel
  have kept : (session.perform event).2.MirroredFor fired →
      session.kernel.Answers (session.perform event).2.kernel →
      (session.perform event).2.MirroredFor
          (fun thread number => fired thread number ∨ session.Fires event thread number) ∧
        (event ≠ .clearRecords → session.kernel.Answers (session.perform event).2.kernel) :=
    fun all answers => ⟨all.mono fun _ _ => .inl, fun _ => answers⟩
  cases event with
  | insert demand =>
      obtain ⟨mirrored, answers⟩ := probed.insertDemand demand
      exact kept (operated (insertDemand_sameProcess session demand).sameBasis mirrored)
        (asked.trans answers)
  | remove demand =>
      obtain ⟨mirrored, answers⟩ := probed.removeDemand demand
      exact kept (operated (removeDemand_sameProcess session demand).sameBasis mirrored)
        (asked.trans answers)
  | newThread thread =>
      obtain ⟨mirrored, answers⟩ := probed.addThread fun takes => all.keeps.threads ▸ spares takes
      exact kept (operated (addThread_basis session thread) mirrored) (asked.trans answers)
  | exit thread =>
      obtain ⟨mirrored, answers⟩ := all.removeThread thread
      exact kept mirrored answers
  | resume thread =>
      have same : (session.perform (.resume thread)).2 = session.capabilities.2 :=
        all.prepareToResume thread
      rw [same] at kept ⊢
      exact kept (operated (.refl _) probed) asked
  | stop thread =>
      obtain ⟨stopped, answers⟩ := all.stoppedAt thread
      exact kept stopped answers
  | probe => exact kept (operated (.refl _) probed) asked
  | askRange address length =>
      obtain ⟨mirrored, answers⟩ := questions.canWatch ⟨all, .refl _⟩ address length
      exact kept mirrored answers
  | askMask address mask =>
      obtain ⟨mirrored, answers⟩ := questions.maskedWatchRegisters ⟨all, .refl _⟩ address mask
      exact kept mirrored answers
  | fail failure => exact kept (all.orderFailure spares) (.refl _)
  | vanish thread => exact spares.elim
  | trap thread trap => exact kept (all.setTrap thread trap) (.refl _)
  | trigger thread handle address =>
      exact ⟨all.trigger thread handle address,
        fun _ => session.kernel.answers_trigger thread handle address⟩
  | clearRecords =>
      refine ⟨(all.change rfl rfl fun caps mirrored => ?_), fun other => absurd rfl other⟩
      exact mirrored.control (.of_threads rfl rfl rfl)
        ⟨mirrored.reliable.present, mirrored.reliable.failures⟩ (fun _ _ => .inl) fun _ _ => .inl

end MirroredFor

/-- Registrations and slots match on every thread. Handles that `fired` are the
only ones that may not be registered any more. -/
structure RegistrationsMatch (fired : ThreadId → Int → Prop) (session : Session SimulatedKernel) :
    Prop where
  /-- A live registration belongs to the slot with its handle, which holds its
  point, and no other slot has the handle. -/
  owned : ∀ thread ∈ session.threads, ∀ entry ∈ (session.kernel.threads thread).registrations,
    ∃ points, session.sets.get? thread = some points ∧
      ∃ bank index slot, (points.table bank).get? index = some slot ∧
        slot.handle = some ⟨entry.1⟩ ∧ slot.point = some entry.2.point ∧
        ∀ other position twin, (points.table other).get? position = some twin →
          twin.handle = some ⟨entry.1⟩ → other = bank ∧ position = index
  /-- An occupied slot has a handle, and its point is registered under it. -/
  registered : ∀ thread points, session.sets.get? thread = some points →
    ∀ bank index slot point, (points.table bank).get? index = some slot → slot.point = some point →
      ∃ number, slot.handle = some ⟨number⟩ ∧
        ((number, ⟨point, .ofPoint point⟩) ∈ (session.kernel.threads thread).registrations ∨
          fired thread number)
  untracked : ∀ thread ∉ session.threads, (session.kernel.threads thread).registrations = []
  /-- Whatever happens next, the kernel refuses no registration that it lets in. -/
  answers : ∀ event, session.Undisturbed event → event ≠ .clearRecords →
    session.kernel.Answers (session.perform event).2.kernel

theorem MirroredFor.registrationsMatch (all : session.MirroredFor fired) :
    session.RegistrationsMatch fired := by
  have mirrored := all.current
  refine ⟨fun thread _ entry live => ?_, fun thread points there => ?_, fun thread untracked => ?_,
    fun event undisturbed other => (all.perform (all.sparing undisturbed)).2 other⟩
  · have mirrors := mirrored.mirrors thread
    cases there : session.sets.get? thread with
    | none =>
        rw [mirrored.bare_of_none there] at live
        cases live
    | some points =>
        rw [tableOf_eq_table there] at mirrors
        obtain ⟨bank, index, slot, found, handle, holds⟩ := mirrors.owned entry live
        refine ⟨points, rfl, bank, index, slot, found, handle, holds, ?_⟩
        intro other position twin also kept
        exact mirrors.apart bank index slot other position twin _ found also handle kept
  · have mirrors := mirrored.mirrors thread
    rw [tableOf_eq_table there] at mirrors
    exact mirrors.registered
  · exact mirrored.bare_of_none (mirrored.steady.sound.get?_of_untracked untracked)

theorem mirroredFor_start {kernel : SimulatedKernel} {reply : Power.HardwareReply}
    (handles : kernel.facility = .handles reply)
    (bare : ∀ thread, (kernel.threads thread).registrations = [])
    (reliable : kernel.OnlyPlacingFails) {leader : ThreadId} {settings : Settings}
    {capabilities? : Option Capabilities}
    (preset : ∀ caps, capabilities? = some caps → kernel.facility.Grants caps) :
    (Session.start kernel leader settings capabilities?).MirroredFor fun _ _ => False where
  handles := ⟨reply, handles⟩
  granted := preset
  mirrored caps granted _ := by
    refine ⟨.start _ _ _ _ _, granted, reliable, ⟨fun thread entry live => ?_, fun thread => ?_⟩,
      fun thread => ?_⟩
    · change entry ∈ (kernel.threads thread).registrations at live
      rw [bare] at live
      cases live
    · change ((kernel.threads thread).registrations.map Prod.fst).Nodup
      rw [bare]
      exact List.nodup_nil
    · change Mirrors _ (kernel.threads thread).registrations _ _
      rw [bare]
      exact .of_free (Mirrored.isFree_of_none rfl caps) _ _

end Session

namespace History

def Fired : History → List Event → ThreadId → Int → Prop
  | _, [], _, _ => False
  | history, event :: rest, thread, number =>
      history.session.Fires event thread number ∨ Fired (history.after event) rest thread number

theorem mirroredFor_afterAll {history : History} {fired : ThreadId → Int → Prop}
    (all : history.session.MirroredFor fired) {events : List Event}
    (permitted : Permitted (fun history event => history.session.Undisturbed event) history events) :
    (history.afterAll events).session.MirroredFor fun thread number =>
      fired thread number ∨ history.Fired events thread number := by
  induction events generalizing history fired with
  | nil => exact all.mono fun _ _ => .inl
  | cons event rest ih =>
      have next := ih (all.perform (all.sparing permitted.1)).1 permitted.2
      exact next.mono fun _ _ => or_assoc.mp

end History

namespace Session

/-- After every run on a kernel with handles that fails to stop threads and to
register points only, registrations and slots match. -/
theorem registrations_match_slots {kernel : SimulatedKernel} {reply : Power.HardwareReply}
    (handles : kernel.facility = .handles reply)
    (bare : ∀ thread, (kernel.threads thread).registrations = [])
    (reliable : kernel.OnlyPlacingFails) {leader : ThreadId} {settings : Settings}
    {capabilities? : Option Capabilities}
    (preset : ∀ caps, capabilities? = some caps → kernel.facility.Grants caps) (events : List Event) :
    let start := History.ofSession (.start kernel leader settings capabilities?)
    History.Permitted (fun history event => history.session.Undisturbed event) start events →
      (start.afterAll events).session.RegistrationsMatch (start.Fired events) := by
  intro start permitted
  have begun : start.session.MirroredFor fun _ _ => False :=
    mirroredFor_start handles bare reliable preset
  have all : (start.afterAll events).session.MirroredFor (start.Fired events) :=
    (History.mirroredFor_afterAll begun permitted).mono fun _ _ fired => fired.resolve_left id
  exact all.registrationsMatch

/-- A breakpoint triggers on the first of two threads. A watchpoint cannot be
registered on the second, and later a third thread cannot be given the points. -/
theorem registrations_match_slots_trigger :
    let start := History.ofSession (.start .embedded ⟨1⟩ .standard none)
    let events : List Event := [.newThread ⟨2⟩, .insert (.plain ⟨.execute, ⟨0x1000⟩, 0, 4, none⟩),
      .trigger ⟨1⟩ ⟨1⟩ ⟨0x1000⟩, .fail ⟨.register, some ⟨2⟩, .os 5⟩,
      .insert (.plain ⟨.write, ⟨0x2000⟩, 4, 0, none⟩), .fail ⟨.pause, none, .os 3⟩, .newThread ⟨3⟩,
      .insert (.plain ⟨.write, ⟨0x2000⟩, 4, 0, none⟩), .exit ⟨2⟩]
    let session := (start.afterAll events).session
    start.Fired events ⟨1⟩ 1 ∧ session.threads = [⟨1⟩] ∧
    (session.kernel.threads ⟨1⟩).registrations.map Prod.fst = [4] ∧
    session.RegistrationsMatch (start.Fired events) := by
  intro start events session
  have fired : start.Fired events ⟨1⟩ 1 :=
    .inr (.inr (.inl ⟨by decide, by decide, _, rfl⟩))
  have reliable : SimulatedKernel.embedded.OnlyPlacingFails := ⟨rfl, nofun⟩
  exact ⟨fired, by decide, by decide,
    @registrations_match_slots .embedded _ rfl (fun _ => rfl) reliable ⟨1⟩ .standard none nofun
      events (by decide)⟩

end Session

end DebugRegisters
