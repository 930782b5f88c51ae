import DebugRegisters.Proofs.Session.Capabilities
import DebugRegisters.Proofs.Session.Events
import DebugRegisters.Proofs.Session.Flushing
import DebugRegisters.Proofs.Session.Preservation

/-!
# What a session is about

The settings, the capabilities once they are known, the leader and the mask
table stay for the whole life of a session. Changes of points also leave the
threads and the restriction alone; resuming may take the restriction one step
on, and only threads that come and go change the threads.
-/

set_option autoImplicit false

namespace DebugRegisters.Session

structure SameBasis {κ : Type} (session after : Session κ) : Prop where
  settings : after.settings = session.settings
  capabilities? : after.capabilities? = session.capabilities?
  leader : after.leader = session.leader
  table : after.restriction.table = session.restriction.table

section Basis

variable {κ : Type} {session middle after : Session κ}

theorem SameBasis.refl (session : Session κ) : session.SameBasis session :=
  ⟨rfl, rfl, rfl, rfl⟩

theorem SameBasis.trans (first : session.SameBasis middle) (second : middle.SameBasis after) :
    session.SameBasis after where
  settings := second.settings.trans first.settings
  capabilities? := second.capabilities?.trans first.capabilities?
  leader := second.leader.trans first.leader
  table := second.table.trans first.table

theorem SameProcess.sameBasis (same : session.SameProcess after) : session.SameBasis after :=
  ⟨same.settings, same.capabilities?, same.leader, congrArg Restriction.table same.restriction⟩

theorem SameBasis.notify (session : Session κ) (notices : List Notice) :
    session.SameBasis { session with notices } :=
  ⟨rfl, rfl, rfl, rfl⟩

theorem sameProcess_showRegisters (session : Session κ) (operation : String) :
    session.SameProcess (session.showRegisters operation) := by
  unfold showRegisters
  split
  · exact ⟨rfl, rfl, rfl, rfl, rfl⟩
  · exact .refl session

end Basis

section Changes

variable {κ : Type} [Kernel κ]

theorem insertDemand_keeps {holds : Session κ → Prop} {session : Session κ}
    (principle : KeptByChanges session.capabilities.1 holds) (kept : holds session.capabilities.2)
    (demand : Demand) : holds (session.insertDemand demand).2 := by
  cases demand with
  | plain request => exact insert_keeps principle kept request
  | masked kind address mask => exact insertMasked_keeps principle kept kind address mask

theorem removeDemand_keeps {holds : Session κ → Prop} {session : Session κ}
    (principle : KeptByChanges session.capabilities.1 holds) (kept : holds session.capabilities.2)
    (demand : Demand) : holds (session.removeDemand demand).2 := by
  cases demand with
  | plain request => exact remove_keeps principle kept request
  | masked kind address mask => exact removeMasked_keeps principle kept kind address mask

theorem insertDemand_sameProcess (session : Session κ) (demand : Demand) :
    session.capabilities.2.SameProcess (session.insertDemand demand).2 :=
  insertDemand_keeps (keptByChanges_sameProcess session.capabilities.1 session.capabilities.2)
    (.refl _) demand

theorem removeDemand_sameProcess (session : Session κ) (demand : Demand) :
    session.capabilities.2.SameProcess (session.removeDemand demand).2 :=
  removeDemand_keeps (keptByChanges_sameProcess session.capabilities.1 session.capabilities.2)
    (.refl _) demand

end Changes

section Resuming

variable {κ : Type} [Kernel κ] {session : Session κ} {thread : ThreadId} {bank : RegisterBank}

theorem Attempts.sameProcess {outcome : Outcome κ Unit}
    (attempted : Attempts session thread bank outcome) : session.SameProcess outcome.2 := by
  cases attempted <;> exact ⟨rfl, rfl, rfl, rfl, rfl⟩

omit [Kernel κ] in
theorem restrictTo_basis (session : Session κ) (state : RestrictionState) :
    session.SameBasis (session.restrictTo { session.restriction with state }) ∧
      (session.restrictTo { session.restriction with state }).threads = session.threads := by
  have shown := sameProcess_showRegisters
    { session.notify (.degraded session.restriction.table) with
      restriction := { session.restriction with state }
      sets := session.sets.map fun points => points.restrict session.restriction.table } "degrade"
  have table := congrArg Restriction.table shown.restriction
  exact ⟨⟨shown.settings, shown.capabilities?, shown.leader, table⟩, shown.threads⟩

omit [Kernel κ] in
theorem sets_restrictTo (session : Session κ) (restriction : Restriction) :
    (session.restrictTo restriction).sets =
      session.sets.map fun points => points.restrict restriction.table := by
  unfold restrictTo showRegisters
  dsimp only
  split <;> rfl

omit [Kernel κ] in
theorem kernel_restrictTo (session : Session κ) (restriction : Restriction) :
    (session.restrictTo restriction).kernel = session.kernel := by
  unfold restrictTo showRegisters
  dsimp only
  split <;> rfl

omit [Kernel κ] in
theorem restriction_restrictTo (session : Session κ) (restriction : Restriction) :
    (session.restrictTo restriction).restriction = restriction := by
  unfold restrictTo showRegisters
  dsimp only
  split <;> rfl

theorem flushBank_basis (session : Session κ) (thread : ThreadId) (bank : RegisterBank) :
    session.SameBasis (session.flushBank thread bank).2 ∧
      (session.flushBank thread bank).2.threads = session.threads := by
  have flushed := flushes session thread bank
  generalize session.flushBank thread bank = outcome at flushed
  cases flushed with
  | clean => exact ⟨.refl session, rfl⟩
  | once dirty attempted =>
      have same := attempted.sameProcess
      exact ⟨same.sameBasis, same.threads⟩
  | @twice kernel _ dirty watched capable wrote attempted =>
      have same := attempted.sameProcess
      obtain ⟨basis, threads⟩ := restrictTo_basis { session with kernel } .degraded
      exact ⟨.trans ⟨basis.settings, basis.capabilities?, basis.leader, basis.table⟩ same.sameBasis,
        same.threads.trans threads⟩

theorem flushBanks_basis (session : Session κ) (thread : ThreadId) (banks : List RegisterBank) :
    session.SameBasis (session.flushBanks thread banks).2 ∧
      (session.flushBanks thread banks).2.threads = session.threads := by
  induction banks generalizing session with
  | nil => exact ⟨.refl session, rfl⟩
  | cons bank rest ih =>
      obtain ⟨basis, threads⟩ := flushBank_basis session thread bank
      unfold flushBanks
      split
      · next failed =>
          rw [failed] at basis threads
          exact ⟨basis, threads⟩
      · next flushed written =>
          rw [written] at basis threads
          obtain ⟨later, same⟩ := ih flushed
          exact ⟨basis.trans later, same.trans threads⟩

theorem prepareToResume_basis (session : Session κ) (thread : ThreadId) :
    session.capabilities.2.SameBasis (session.prepareToResume thread).2 ∧
      (session.prepareToResume thread).2.threads = session.threads := by
  unfold prepareToResume
  dsimp only
  split
  · exact flushBanks_basis session.capabilities.2 thread RegisterBank.all
  · exact ⟨.refl _, rfl⟩

/-- Without register arrays there are no banks to write. -/
theorem prepareToResume_of_immediate {session : Session κ}
    (immediate : session.capabilities.1.interface ≠ .registerArray) (thread : ThreadId) :
    session.prepareToResume thread = (.ok (), session.capabilities.2) := by
  unfold prepareToResume
  dsimp only
  rw [if_neg immediate]

end Resuming

end DebugRegisters.Session
