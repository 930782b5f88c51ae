import DebugRegisters.Proofs.Session.Invariants

/-!
# Sessions on any kernel

Where operations lead to, on whatever kernel: each call may succeed or fail, and
between operations anything may become of the kernel. A property that operations
keep once the capabilities are known holds wherever they lead, since a session
has no points before.
-/

set_option autoImplicit false

namespace DebugRegisters.Session

variable {κ : Type} [Kernel κ]

/-- What operations make of a session in any order, whatever its kernel answers
and whatever becomes of the kernel and the reports in between. -/
inductive Reaches (start : Session κ) : Session κ → Prop where
  | start : Reaches start start
  | insertDemand {session : Session κ} (reached : Reaches start session) (demand : Demand) :
      Reaches start (session.insertDemand demand).2
  | removeDemand {session : Session κ} (reached : Reaches start session) (demand : Demand) :
      Reaches start (session.removeDemand demand).2
  | addThread {session : Session κ} (reached : Reaches start session) (thread : ThreadId) :
      Reaches start (session.addThread thread).2
  | removeThread {session : Session κ} (reached : Reaches start session) (thread : ThreadId) :
      Reaches start (session.removeThread thread)
  | prepareToResume {session : Session κ} (reached : Reaches start session) (thread : ThreadId) :
      Reaches start (session.prepareToResume thread).2
  | stoppedAt {session : Session κ} (reached : Reaches start session) (thread : ThreadId) :
      Reaches start (session.stoppedAt thread).2
  | capabilities {session : Session κ} (reached : Reaches start session) :
      Reaches start session.capabilities.2
  | canWatch {session : Session κ} (reached : Reaches start session) (address : Address)
      (length : UInt64) : Reaches start (session.canWatch address length).2
  | maskedWatchRegisters {session : Session κ} (reached : Reaches start session)
      (address : Address) (mask : UInt64) :
      Reaches start (session.maskedWatchRegisters address mask).2
  | outside {session : Session κ} (reached : Reaches start session) (kernel : κ)
      (notices : List Notice) : Reaches start { session with kernel, notices }

/-- On a simulated kernel, every event is an operation or happens outside. -/
theorem keptByEvents_reaches (start : Session SimulatedKernel) : KeptByEvents (Reaches start) where
  probe reached := reached.capabilities
  quiet {session} reached reports := reached.outside session.kernel (session.notices ++ reports)
  insertDemand reached demand := reached.insertDemand demand
  removeDemand reached demand := reached.removeDemand demand
  addThread reached thread := reached.addThread thread
  removeThread reached thread := reached.removeThread thread
  prepareToResume reached thread := reached.prepareToResume thread
  stoppedAt reached thread := reached.stoppedAt thread
  control {session} reached kernel _ := reached.outside kernel session.notices

/-- A property of the threads and their sets that depends on the capabilities,
holds where there are no sets, and is kept by what operations do once the
capabilities are known. -/
structure KeptOnceKnown (holds : Capabilities → Session κ → Prop) : Prop where
  congr {caps : Capabilities} {session after : Session κ} (kept : holds caps session)
    (sets : after.sets = session.sets) (threads : after.threads = session.threads) :
    holds caps after
  bare {caps : Capabilities} {session : Session κ} (sound : session.Sound)
    (bare : session.sets.toList = []) : holds caps session
  insertDemand {session : Session κ} (sound : session.capabilities.2.Sound)
    (kept : holds session.capabilities.1 session.capabilities.2) (demand : Demand) :
    holds session.capabilities.1 (session.insertDemand demand).2
  removeDemand {session : Session κ} (sound : session.capabilities.2.Sound)
    (kept : holds session.capabilities.1 session.capabilities.2) (demand : Demand) :
    holds session.capabilities.1 (session.removeDemand demand).2
  addThread {session : Session κ} (sound : session.capabilities.2.Sound)
    (kept : holds session.capabilities.1 session.capabilities.2) (thread : ThreadId) :
    holds session.capabilities.1 (session.addThread thread).2
  prepareToResume {session : Session κ}
    (kept : holds session.capabilities.1 session.capabilities.2) (thread : ThreadId) :
    holds session.capabilities.1 (session.prepareToResume thread).2
  forget {caps : Capabilities} {session : Session κ} (kept : holds caps session)
    (thread : ThreadId) : holds caps (session.forget thread)

structure HoldsOnceKnown (holds : Capabilities → Session κ → Prop) (session : Session κ) :
    Prop where
  sound : session.Sound
  bare : session.capabilities? = none → session.sets.toList = []
  known : ∀ caps, session.capabilities? = some caps → holds caps session

variable {holds : Capabilities → Session κ → Prop} {session after : Session κ}

omit [Kernel κ] in
theorem HoldsOnceKnown.operated {caps : Capabilities} (found : after.capabilities? = some caps)
    (sound : after.Sound) (kept : holds caps after) : after.HoldsOnceKnown holds where
  sound
  bare unknown := by
    rw [found] at unknown
    cases unknown
  known other same := by
    rw [found] at same
    cases same
    exact kept

namespace KeptOnceKnown

theorem change (principle : KeptOnceKnown holds) (kept : session.HoldsOnceKnown holds)
    (capabilities? : after.capabilities? = session.capabilities?) (sets : after.sets = session.sets)
    (threads : after.threads = session.threads) : after.HoldsOnceKnown holds where
  sound := kept.sound.congr sets threads
  bare unknown := sets ▸ kept.bare (capabilities?.symm.trans unknown)
  known caps there := principle.congr (kept.known caps (capabilities?.symm.trans there)) sets threads

theorem start (principle : KeptOnceKnown holds) (kernel : κ) (leader : ThreadId)
    (settings : Settings) (capabilities? : Option Capabilities) :
    (Session.start kernel leader settings capabilities?).HoldsOnceKnown holds where
  sound := sound_start kernel leader settings capabilities?
  bare _ := rfl
  known _ _ := principle.bare (sound_start kernel leader settings capabilities?) rfl

theorem probed (principle : KeptOnceKnown holds) (kept : session.HoldsOnceKnown holds) :
    session.capabilities.2.Sound ∧ holds session.capabilities.1 session.capabilities.2 := by
  have sound : session.capabilities.2.Sound := kept.sound.congr rfl rfl
  refine ⟨sound, ?_⟩
  cases known : session.capabilities? with
  | some caps =>
      rw [capabilities_of_known known]
      exact kept.known caps known
  | none => exact principle.bare sound (kept.bare known)

theorem capabilities (principle : KeptOnceKnown holds) (kept : session.HoldsOnceKnown holds) :
    session.capabilities.2.HoldsOnceKnown holds :=
  .operated rfl (principle.probed kept).1 (principle.probed kept).2

theorem forgets (principle : KeptOnceKnown holds) (kept : session.HoldsOnceKnown holds)
    (thread : ThreadId) : (session.forget thread).HoldsOnceKnown holds := by
  refine ⟨kept.sound.forget thread, fun unknown => ?_, fun caps known =>
    principle.forget (kept.known caps known) thread⟩
  change (session.sets.erase thread).toList = []
  simp [ThreadSets.erase, kept.bare unknown]

theorem reached (principle : KeptOnceKnown holds) {start : Session κ}
    (reached : Reaches start session) (before : start.HoldsOnceKnown holds) :
    session.HoldsOnceKnown holds := by
  induction reached with
  | start => exact before
  | @insertDemand session _ demand ih =>
      obtain ⟨sound, kept⟩ := principle.probed ih
      exact .operated (insertDemand_sameProcess session demand).capabilities?
        (insertDemand_keeps (keptByChanges_sound _) sound demand)
        (principle.insertDemand sound kept demand)
  | @removeDemand session _ demand ih =>
      obtain ⟨sound, kept⟩ := principle.probed ih
      exact .operated (removeDemand_sameProcess session demand).capabilities?
        (removeDemand_keeps (keptByChanges_sound _) sound demand)
        (principle.removeDemand sound kept demand)
  | @addThread session _ thread ih =>
      obtain ⟨sound, kept⟩ := principle.probed ih
      exact .operated (addThread_basis session thread).capabilities? (sound.addThread thread)
        (principle.addThread sound kept thread)
  | @removeThread session _ thread ih =>
      have same := removeThread_sameTables session thread
      exact principle.change (principle.forgets ih thread) same.capabilities? same.sets same.threads
  | @prepareToResume session _ thread ih =>
      obtain ⟨sound, kept⟩ := principle.probed ih
      exact .operated (prepareToResume_basis session thread).1.capabilities?
        (keptByResuming_sound.prepareToResume sound thread) (principle.prepareToResume kept thread)
  | @stoppedAt session _ thread ih =>
      rw [stoppedAt_session]
      exact principle.change (principle.capabilities ih) rfl rfl rfl
  | capabilities _ ih => exact principle.capabilities ih
  | @canWatch session _ address length ih =>
      unfold Session.canWatch
      split
      · exact ih
      · exact principle.capabilities ih
  | @maskedWatchRegisters session _ address mask ih =>
      unfold Session.maskedWatchRegisters
      dsimp only
      split
      · exact principle.capabilities ih
      · split
        · exact principle.change (principle.capabilities ih) rfl rfl rfl
        · exact principle.capabilities ih
  | outside _ kernel notices ih => exact principle.change ih rfl rfl rfl

end KeptOnceKnown

theorem Reaches.sound {kernel : κ} {leader : ThreadId} {settings : Settings}
    {capabilities? : Option Capabilities}
    (reached : Reaches (.start kernel leader settings capabilities?) session) : session.Sound := by
  have nothing : KeptOnceKnown fun (_ : Capabilities) (_ : Session κ) => True :=
    ⟨fun _ _ _ => trivial, fun _ _ => trivial, fun _ _ _ => trivial, fun _ _ _ => trivial,
      fun _ _ _ => trivial, fun _ _ => trivial, fun _ _ => trivial⟩
  exact (nothing.reached reached (nothing.start kernel leader settings capabilities?)).sound

end DebugRegisters.Session
