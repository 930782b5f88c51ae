import DebugRegisters.Session.Resume
import DebugRegisters.ThreadPoints.Lemmas

/-!
# What writing a bank comes to

A bank is written where something changed since it was written last. A write
that fails leaves the tables alone, except for the first watchpoint bank that is
rejected: there the session goes over to its mask table and writes once more.
-/

set_option autoImplicit false

namespace DebugRegisters.Session

variable {κ : Type} [Kernel κ]

def IsDirty (session : Session κ) (thread : ThreadId) (bank : RegisterBank) : Prop :=
  ∃ points, session.sets.get? thread = some points ∧ points.dirty bank ≠ 0

instance (session : Session κ) (thread : ThreadId) (bank : RegisterBank) :
    Decidable (session.IsDirty thread bank) :=
  match found : session.sets.get? thread with
  | none => .isFalse fun ⟨points, there, _⟩ => by simp [found] at there
  | some points =>
      decidable_of_iff (points.dirty bank ≠ 0) (by simp [IsDirty, found])

omit [Kernel κ] in
theorem bankBlock_of_get? {session : Session κ} {thread : ThreadId} {points : ThreadPoints}
    (there : session.sets.get? thread = some points) (bank : RegisterBank) :
    session.bankBlock thread bank = (points.table bank).registerBlock := by
  simp [bankBlock, there]

inductive Attempts (session : Session κ) (thread : ThreadId) (bank : RegisterBank) :
    Outcome κ Unit → Prop where
  | written {kernel : κ}
      (wrote : Kernel.writeRegisters session.kernel thread bank (session.bankBlock thread bank) =
        (.ok (), kernel)) :
      Attempts session thread bank (.ok (), { session with kernel }.markWritten thread bank)
  | failed {kernel : κ} {cause : KernelError}
      (wrote : Kernel.writeRegisters session.kernel thread bank (session.bankBlock thread bank) =
        (.error cause, kernel)) :
      Attempts session thread bank (.error (writeFailure thread bank cause), { session with kernel })

inductive Flushes (session : Session κ) (thread : ThreadId) (bank : RegisterBank) :
    Outcome κ Unit → Prop where
  | clean (settled : ¬session.IsDirty thread bank) : Flushes session thread bank (.ok (), session)
  | once {outcome : Outcome κ Unit} (dirty : session.IsDirty thread bank)
      (attempted : Attempts session thread bank outcome) : Flushes session thread bank outcome
  | twice {kernel : κ} {outcome : Outcome κ Unit} (dirty : session.IsDirty thread .watchpoints)
      (watched : bank = .watchpoints) (capable : session.restriction.state = .capable)
      (wrote : Kernel.writeRegisters session.kernel thread .watchpoints
        (session.bankBlock thread .watchpoints) = (.error .rejected, kernel))
      (attempted : Attempts
        ({ session with kernel }.restrictTo { session.restriction with state := .degraded }) thread
        .watchpoints outcome) :
      Flushes session thread bank outcome

def attempt (session : Session κ) (thread : ThreadId) (bank : RegisterBank) : Outcome κ Unit :=
  match session.writeBank thread bank with
  | (.ok (), session) => (.ok (), session.markWritten thread bank)
  | (.error cause, session) => (.error (writeFailure thread bank cause), session)

theorem attempts (session : Session κ) (thread : ThreadId) (bank : RegisterBank) :
    Attempts session thread bank (session.attempt thread bank) := by
  unfold attempt writeBank
  cases wrote : Kernel.writeRegisters session.kernel thread bank
      (session.bankBlock thread bank) with
  | mk answer kernel =>
      cases answer with
      | ok => exact .written wrote
      | error cause => exact .failed wrote

theorem flushBank_of_clean {session : Session κ} {thread : ThreadId} {bank : RegisterBank}
    (settled : ¬session.IsDirty thread bank) :
    session.flushBank thread bank = (.ok (), session) := by
  unfold flushBank
  cases there : session.sets.get? thread with
  | none => rfl
  | some points =>
      have clean : points.dirty bank = 0 :=
        Decidable.byContradiction fun changed => settled ⟨points, there, changed⟩
      simp [clean]

theorem flushBank_of_dirty {session : Session κ} {thread : ThreadId} {bank : RegisterBank}
    (dirty : session.IsDirty thread bank) :
    session.flushBank thread bank =
      match session.writeBank thread bank with
      | (.ok (), session) => (.ok (), session.markWritten thread bank)
      | (.error cause, session) =>
          match session.degradeFor? bank cause with
          | none => (.error (writeFailure thread bank cause), session)
          | some session => session.attempt thread bank := by
  obtain ⟨points, there, changed⟩ := dirty
  have busy : (!points.dirty bank != 0) = false := by simpa using changed
  unfold flushBank
  simp only [there, busy]
  rfl

theorem flushes (session : Session κ) (thread : ThreadId) (bank : RegisterBank) :
    Flushes session thread bank (session.flushBank thread bank) := by
  by_cases dirty : session.IsDirty thread bank
  · rw [flushBank_of_dirty dirty]
    unfold writeBank
    cases wrote : Kernel.writeRegisters session.kernel thread bank
        (session.bankBlock thread bank) with
    | mk answer kernel =>
        cases answer with
        | ok => exact .once dirty (.written wrote)
        | error cause =>
            dsimp only
            by_cases rejected : cause = .rejected ∧ bank = .watchpoints
            · obtain ⟨rfl, rfl⟩ := rejected
              cases state : session.restriction.state with
              | degraded =>
                  simp only [degradeFor?, Restriction.degrade?, state, and_self, if_true,
                    Option.map_none]
                  exact .once dirty (.failed wrote)
              | capable =>
                  simp only [degradeFor?, Restriction.degrade?, state, and_self, if_true,
                    Option.map_some]
                  exact .twice dirty rfl state wrote (attempts _ _ _)
            · simp only [degradeFor?, rejected, if_false]
              exact .once dirty (.failed wrote)
  · rw [flushBank_of_clean dirty]
    exact .clean dirty

end DebugRegisters.Session
