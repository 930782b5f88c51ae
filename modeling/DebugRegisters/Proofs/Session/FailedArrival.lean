import DebugRegisters.Proofs.Session.Owning

/-!
# Threads that cannot be taken up

A new thread that cannot be stopped, or for which some point cannot be registered,
leaves no trace, as long as the kernel drops what was registered for the thread by
then. The handles that its slots were copied with belong to another thread, so it
is no matter that they are dropped for this one first.
-/

set_option autoImplicit false

namespace DebugRegisters

open SimulatedKernel

namespace Session

variable {session : Session SimulatedKernel} {thread : ThreadId}

/-- Taking up a thread breaks off while it is given the points of another: a call
fails for the given cause, in the session `broken`, and `handles` were registered
for the thread by then. -/
structure ArrivalBreaksOff (session : Session SimulatedKernel) (thread : ThreadId)
    (call : KernelCall) (cause : KernelError) (handles : List SlotHandle)
    (broken : Session SimulatedKernel) : Prop where
  interface : session.capabilities.1.interface = .handles
  breaks : ∃ pattern, session.pattern? thread = some pattern ∧
    (session.announce thread).BreaksOff thread pattern call cause handles broken

variable {call : KernelCall} {cause : KernelError} {handles : List SlotHandle}
  {broken : Session SimulatedKernel}

theorem addThread_of_breaksOff (arrival : session.ArrivalBreaksOff thread call cause handles broken) :
    session.addThread thread = (.error (.kernel call thread cause),
      dropRegistrations (.registrationNotUndone thread) broken thread handles) := by
  obtain ⟨interface, pattern, given, breaks⟩ := arrival
  rw [addThread_eq, given]
  simp only [equip, interface]
  rw [replicate_of_breaksOff breaks]

/-- A thread that is not taken up breaks off somewhere. -/
theorem breaksOff_of_addThread (owning : session.Owning) {error : PointError}
    (failed : (session.addThread thread).1 = .error error) :
    ∃ call cause handles broken, session.ArrivalBreaksOff thread call cause handles broken ∧
      error = .kernel call thread cause := by
  rw [addThread_eq] at failed
  rcases owning.interface with interface | interface
  · cases given : session.pattern? thread with
    | none =>
        simp only [equip, given, interface] at failed
        cases failed
    | some pattern =>
        have outcome := replicates (session.announce thread) thread pattern
        simp only [equip, given, interface] at failed
        generalize (session.announce thread).replicate thread pattern = reply at outcome failed
        cases outcome with
        | @undone call cause handles broken breaks =>
            cases failed
            exact ⟨call, cause, handles, broken, ⟨interface, pattern, given, breaks⟩, rfl⟩
        | renewed => cases failed
  · rw [equip_of_unavailable interface] at failed
    cases failed

/-- On a kernel with handles, in every session that events lead to: wherever taking
up a thread breaks off, the answer is the kernel's error, the threads and all sets
of points are as before, and if what was registered is dropped, so are the live
registrations of every thread. Nothing else makes it fail. -/
theorem failed_arrival_leaves_no_trace {kernel : SimulatedKernel} {reply : Power.HardwareReply}
    (facility : kernel.facility = .handles reply)
    (bare : ∀ thread, (kernel.threads thread).registrations = []) {leader : ThreadId}
    {settings : Settings} {capabilities? : Option Capabilities}
    (preset : ∀ caps, capabilities? = some caps → kernel.facility.Supports caps)
    {history : History}
    (reached : History.Leads (fun _ _ => True)
      (.ofSession (.start kernel leader settings capabilities?)) history) (thread : ThreadId) :
    (∀ call cause handles broken,
      history.session.ArrivalBreaksOff thread call cause handles broken →
        (history.session.addThread thread).1 = .error (.kernel call thread cause) ∧
        (history.session.addThread thread).2.threads = history.session.threads ∧
        (history.session.addThread thread).2.sets = history.session.sets ∧
        (DropsAll thread broken.kernel handles →
          ∀ other, ((history.session.addThread thread).2.kernel.threads other).registrations =
            (history.session.kernel.threads other).registrations)) ∧
    ∀ error, (history.session.addThread thread).1 = .error error →
      ∃ call cause handles broken,
        history.session.ArrivalBreaksOff thread call cause handles broken ∧
          error = .kernel call thread cause := by
  have owning : history.session.Owning :=
    reached.kept Owning.keptByEvents (.start facility bare preset)
  refine ⟨?_, fun error failed => breaksOff_of_addThread owning failed⟩
  intro call cause handles broken arrival
  have refused := addThread_of_breaksOff arrival
  obtain ⟨_, pattern, given, breaks⟩ := arrival
  have arrived := arrives history.session thread
  rw [refused] at arrived ⊢
  cases arrived with
  | refused tables =>
      refine ⟨rfl, tables.threads, tables.sets, fun drops other => ?_⟩
      have probed := owning.probed
      have announced : (history.session.announce thread).OwnsHandles :=
        probed.congr (.refl _) rfl
      obtain ⟨foreign, owns⟩ := announced.owns_pattern (owning.sound.congr rfl rfl) given
      have adds := breaks.adds foreign owns
      rw [adds.undone announced.distinct drops]
      obtain ⟨_, handled⟩ := owning.handles
      have other_than_legacy : history.session.kernel.facility ≠ .legacy := by
        rw [handled]
        nofun
      have asked := capabilities_keeps other_than_legacy
      exact congrArg (fun threads => (threads other).registrations) asked.threads

/-- Two registrations of an earlier life of the thread are left on it, so that it
has room for the breakpoint but not for the watchpoint. -/
theorem failed_arrival_leaves_no_trace_crowded :
    let history := (History.ofSession (.start .embedded ⟨1⟩ .standard none)).afterAll
      [.insert (.plain ⟨.execute, ⟨0x1000⟩, 0, 4, none⟩),
        .insert (.plain ⟨.write, ⟨0x2000⟩, 4, 0, none⟩), .newThread ⟨2⟩,
        .fail ⟨.deregister, some ⟨2⟩, .os 5⟩, .fail ⟨.deregister, some ⟨2⟩, .os 5⟩, .exit ⟨2⟩]
    let outcome := history.session.addThread ⟨2⟩
    (history.session.kernel.threads ⟨2⟩).registrations.map Prod.fst = [3, 4] ∧
    (∃ broken, history.session.ArrivalBreaksOff ⟨2⟩ .register .noSpace [⟨5⟩] broken) ∧
    outcome.1 = .error (.kernel .register ⟨2⟩ .noSpace) ∧
    outcome.2.threads = history.session.threads ∧ outcome.2.sets = history.session.sets ∧
    ∀ thread, (outcome.2.kernel.threads thread).registrations =
      (history.session.kernel.threads thread).registrations := by
  intro history outcome
  have reached : History.Leads (fun _ _ => True)
      (.ofSession (.start .embedded ⟨1⟩ .standard none)) history :=
    History.leads_afterAll .start (by decide)
  have arrival : ∃ broken, history.session.ArrivalBreaksOff ⟨2⟩ .register .noSpace [⟨5⟩] broken ∧
      DropsAll ⟨2⟩ broken.kernel [⟨5⟩] :=
    ⟨_, ⟨rfl, _, rfl, .unregistered rfl (.later rfl rfl (.here rfl rfl))⟩, _, rfl, trivial⟩
  obtain ⟨broken, breaks, drops⟩ := arrival
  obtain ⟨left, _⟩ := @failed_arrival_leaves_no_trace .embedded _ rfl (fun _ => rfl) ⟨1⟩ .standard none
    nofun history reached ⟨2⟩
  obtain ⟨refused, threads, sets, undone⟩ := left _ _ _ _ breaks
  exact ⟨by decide, ⟨broken, breaks⟩, refused, threads, sets, undone drops⟩

end Session

end DebugRegisters
