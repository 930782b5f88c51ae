import DebugRegisters.Proofs.Session.Basis
import DebugRegisters.Proofs.ThreadPoints.Images
import DebugRegisters.Proofs.ThreadPoints.Settled

/-!
# The rejection of a watchpoint bank

Making a thread ready to resume changes no table, with one exception: when its
watchpoint bank is rejected while masks are free, the watchpoints of all threads
are restricted.
-/

set_option autoImplicit false

namespace DebugRegisters

theorem ThreadSets.layout_map_restrict (sets : ThreadSets) (table : MaskTable) :
    (sets.map fun points => points.restrict table).layout =
      sets.layout.map fun (thread, breakpoints, watchpoints) =>
        (thread, breakpoints, (watchpoints.mapPoints table.restrict).1) := by
  unfold layout ThreadSets.map
  rw [List.map_map, List.map_map]
  refine List.map_congr_left fun points _ => ?_
  dsimp only [Function.comp]
  rw [ThreadPoints.thread_restrict, ThreadPoints.table_restrict_breakpoints,
    ThreadPoints.table_restrict_watchpoints]

namespace Session

variable {κ : Type} [Kernel κ] {session : Session κ} {thread : ThreadId} {bank : RegisterBank}

def RejectsBank (session : Session κ) (thread : ThreadId) (bank : RegisterBank) : Prop :=
  session.IsDirty thread bank ∧ (session.writeBank thread bank).1 = .error .rejected

/-- As the thread is made ready to resume, its watchpoint bank is rejected. -/
def RejectsWatch (session : Session κ) (thread : ThreadId) : Prop :=
  session.capabilities.1.interface = .registerArray ∧
    (session.capabilities.2.flushBank thread .breakpoints).1 = .ok () ∧
    (session.capabilities.2.flushBank thread .breakpoints).2.RejectsBank thread .watchpoints

instance (session : Session κ) (thread : ThreadId) (bank : RegisterBank) :
    Decidable (session.RejectsBank thread bank) :=
  inferInstanceAs (Decidable (_ ∧ _))

instance (session : Session κ) (thread : ThreadId) :
    Decidable (session.RejectsWatch thread) :=
  inferInstanceAs (Decidable (_ ∧ _ ∧ _))

def SameLayout (session after : Session κ) : Prop :=
  after.sets.layout = session.sets.layout ∧ after.restriction = session.restriction

def Degrades (session after : Session κ) : Prop :=
  (after.sets.layout = session.sets.layout.map fun (thread, breakpoints, watchpoints) =>
      (thread, breakpoints, (watchpoints.mapPoints session.restriction.table.restrict).1)) ∧
    after.restriction = { session.restriction with state := .degraded }

theorem Attempts.sameLayout {outcome : Outcome κ Unit}
    (attempted : Attempts session thread bank outcome) : session.SameLayout outcome.2 := by
  cases attempted with
  | written wrote =>
      refine ⟨?_, rfl⟩
      exact ThreadSets.layout_update (fun _ => ThreadPoints.thread_clearDirty _ _)
        (fun _ _ => ThreadPoints.table_clearDirty _ _ _) _ _
  | failed wrote => exact ⟨rfl, rfl⟩

/-- Unless a watchpoint bank is rejected while masks are free, no table changes. -/
theorem flushBank_sameLayout
    (calm : session.restriction.state = .capable → bank = .watchpoints →
      ¬session.RejectsBank thread bank) :
    session.SameLayout (session.flushBank thread bank).2 := by
  have flushed := flushes session thread bank
  generalize session.flushBank thread bank = outcome at flushed
  cases flushed with
  | clean => exact ⟨rfl, rfl⟩
  | once dirty attempted => exact attempted.sameLayout
  | twice dirty watched capable wrote attempted =>
      subst watched
      refine absurd ⟨dirty, ?_⟩ (calm capable rfl)
      unfold writeBank
      rw [wrote]

theorem flushBank_degrades (capable : session.restriction.state = .capable)
    (rejects : session.RejectsBank thread .watchpoints) :
    session.Degrades (session.flushBank thread .watchpoints).2 := by
  obtain ⟨dirty, rejected⟩ := rejects
  rw [flushBank_of_dirty dirty]
  unfold writeBank at rejected ⊢
  dsimp only at rejected ⊢
  generalize Kernel.writeRegisters session.kernel thread .watchpoints
    (session.bankBlock thread .watchpoints) = reply at rejected ⊢
  obtain ⟨answer, kernel⟩ := reply
  cases rejected
  simp only [degradeFor?, Restriction.degrade?, capable, and_self, if_true, Option.map_some]
  have attempted := attempts ({ session with kernel }.restrictTo
    { session.restriction with state := .degraded }) thread .watchpoints
  obtain ⟨layout, restriction⟩ := attempted.sameLayout
  refine ⟨layout.trans ?_, restriction.trans ?_⟩
  · rw [sets_restrictTo, ThreadSets.layout_map_restrict]
  · exact restriction_restrictTo _ _

theorem prepareToResume_sameLayout
    (calm : session.restriction.state = .capable → ¬session.RejectsWatch thread) :
    session.SameLayout (session.prepareToResume thread).2 := by
  unfold prepareToResume
  dsimp only
  split
  · next arrays =>
      have first := @flushBank_sameLayout _ _ session.capabilities.2 thread .breakpoints
        fun _ other => by cases other
      unfold RegisterBank.all flushBanks
      split
      · next failed =>
          rw [failed] at first
          exact first
      · next middle wrote =>
          rw [wrote] at first
          have second := @flushBank_sameLayout _ _ middle thread .watchpoints
            fun capable _ rejects => by
              refine calm (first.2 ▸ capable) ⟨arrays, ?_⟩
              rw [wrote]
              exact ⟨rfl, rejects⟩
          unfold flushBanks
          split <;> next outcome =>
            rw [outcome] at second
            exact ⟨second.1.trans first.1, second.2.trans first.2⟩
  · exact ⟨rfl, rfl⟩

theorem prepareToResume_degrades (capable : session.restriction.state = .capable)
    (rejects : session.RejectsWatch thread) :
    session.Degrades (session.prepareToResume thread).2 := by
  obtain ⟨arrays, written, rejected⟩ := rejects
  obtain ⟨layout, restriction⟩ := @flushBank_sameLayout _ _ session.capabilities.2 thread
    .breakpoints fun _ other => by cases other
  cases wrote : session.capabilities.2.flushBank thread .breakpoints with | mk answer middle
  rw [wrote] at written rejected layout restriction
  cases written
  have same : middle.restriction = session.restriction := restriction
  have second := flushBank_degrades (same ▸ capable) rejected
  unfold Degrades at second ⊢
  rw [layout, same] at second
  unfold prepareToResume
  dsimp only
  rw [if_pos arrays]
  unfold RegisterBank.all flushBanks
  simp only [wrote]
  unfold flushBanks
  split <;> next outcome =>
    rw [outcome] at second
    exact second

end Session

end DebugRegisters
