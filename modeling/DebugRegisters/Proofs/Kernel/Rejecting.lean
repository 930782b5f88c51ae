import DebugRegisters.Proofs.Session.Journal

/-!
# Rejected bank writes

A kernel that nothing disturbs answers a bank write by the contents alone: it
rejects them for their masks, or it takes them. How often it rejected any is on
record.
-/

set_option autoImplicit false

namespace DebugRegisters.SimulatedKernel

def rejections (kernel : SimulatedKernel) : Nat :=
  kernel.calls.countP fun record =>
    record.call == .writeRegisters && record.error == some .rejected

section Records

variable {kernel after : SimulatedKernel} {call : KernelCall} {thread : ThreadId}
  {error : Option KernelError}

theorem Enters.rejections (entered : kernel.Enters call thread error after)
    (other : call ≠ .writeRegisters ∨ error ≠ some .rejected) :
    after.rejections = kernel.rejections := by
  unfold SimulatedKernel.rejections
  rw [entered.calls, List.countP_append]
  rcases other with call | error
  · simp [call]
  · simp [error]

theorem Enters.rejections_succ
    (entered : kernel.Enters .writeRegisters thread (some .rejected) after) :
    after.rejections = kernel.rejections + 1 := by
  unfold SimulatedKernel.rejections
  rw [entered.calls, List.countP_append]
  rfl

/-- Changes of points write no banks. -/
theorem acrossChanges_rejections :
    AcrossChanges fun kernel after : SimulatedKernel => after.rejections = kernel.rejections :=
  acrossChanges_of_effects (fun _ => rfl) (fun first second => second.trans first)
    (fun entered other => entered.rejections (.inl other)) (fun _ _ _ => rfl) (fun _ _ _ => rfl)
    fun _ entered => entered.rejections (.inl nofun)

end Records

structure Reliable (kernel : SimulatedKernel) : Prop where
  failures : kernel.failures = []
  vanished : kernel.vanished = []

section Writes

variable {kernel : SimulatedKernel} {breakpoints watchpoints : UInt32} {bank : RegisterBank}
  {block : Arm.RegisterBlock}

theorem Reliable.follows {after : SimulatedKernel} (reliable : kernel.Reliable)
    (follows : kernel.Follows after) : after.Reliable where
  failures := by
    refine List.eq_nil_iff_forall_not_mem.mpr fun failure member => ?_
    have stored := follows.failures failure member
    rw [reliable.failures] at stored
    cases stored
  vanished := follows.vanished.trans reliable.vanished

/-- A block that is not rejected and not too long is written. -/
theorem Reliable.writes (reliable : kernel.Reliable)
    (arrays : kernel.facility = .arrays breakpoints watchpoints) (thread : ThreadId)
    (accepted : kernel.rejects bank block = false)
    (fits : block.pairs.length ≤ kernel.facility.bankSize bank) :
    ∃ after, Kernel.writeRegisters kernel thread bank block = (.ok (), after) ∧
      after.rejections = kernel.rejections := by
  have admitted := admits kernel .writeRegisters thread
  have entered : (kernel.enter .writeRegisters thread).1 = .ok () :=
    enter_answer (by simp [reliable.failures]) (by simp [reliable.vanished])
  change ∃ after, kernel.writeRegisters thread bank block = (.ok (), after) ∧ _
  unfold SimulatedKernel.writeRegisters
  simp only [arrays, accepted, Bool.false_eq_true, if_false]
  rw [← arrays, if_neg (Nat.not_lt.mpr fits)]
  generalize kernel.enter .writeRegisters thread = outcome at admitted entered
  cases admitted with
  | refused => cases entered
  | admitted record => exact ⟨_, rfl, record.rejections (.inr nofun)⟩

theorem writeRegisters_of_rejects (arrays : kernel.facility = .arrays breakpoints watchpoints)
    (thread : ThreadId) (rejected : kernel.rejects bank block = true) :
    ∃ after, Kernel.writeRegisters kernel thread bank block = (.error .rejected, after) ∧
      after.rejections = kernel.rejections + 1 := by
  change ∃ after, kernel.writeRegisters thread bank block = (.error .rejected, after) ∧ _
  unfold SimulatedKernel.writeRegisters
  simp only [arrays, rejected, if_true]
  have entered : kernel.Enters .writeRegisters thread (some .rejected)
      (kernel.record .writeRegisters thread (some .rejected)).2 :=
    ⟨record_keeps kernel .writeRegisters thread (some .rejected), rfl, rfl⟩
  exact ⟨_, rfl, entered.rejections_succ⟩

end Writes

end DebugRegisters.SimulatedKernel
