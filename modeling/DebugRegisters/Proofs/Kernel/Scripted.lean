import DebugRegisters.Proofs.Kernel.RegisterContract

/-!
# Kernels that fail by script

A kernel in front of another that takes what becomes of its calls from a script, one
entry for each call. So any call can be made to fail, whatever calls succeeded before
it. When the script is at its end, the other kernel answers alone.
-/

set_option autoImplicit false

namespace DebugRegisters

structure ScriptedKernel (κ : Type) where
  kernel : κ
  /-- The errors of the calls to come; `none` leaves the call to the other kernel. -/
  script : List (Option KernelError)

namespace ScriptedKernel

variable {κ : Type}

/-- Makes a call, unless the script has it fail. -/
def call {α : Type} (scripted : ScriptedKernel κ) (answer : κ → Reply κ α) :
    Reply (ScriptedKernel κ) α :=
  match scripted.script with
  | some error :: rest => (.error error, ⟨scripted.kernel, rest⟩)
  | none :: rest =>
      let (result, kernel) := answer scripted.kernel
      (result, ⟨kernel, rest⟩)
  | [] =>
      let (result, kernel) := answer scripted.kernel
      (result, ⟨kernel, []⟩)

instance [Kernel κ] : Kernel (ScriptedKernel κ) where
  architecture scripted := Kernel.architecture scripted.kernel
  debugInfo scripted thread := scripted.call (Kernel.debugInfo · thread)
  readRegisters scripted thread bank := scripted.call (Kernel.readRegisters · thread bank)
  writeRegisters scripted thread bank block :=
    scripted.call (Kernel.writeRegisters · thread bank block)
  register scripted thread point := scripted.call (Kernel.register · thread point)
  deregister scripted thread handle := scripted.call (Kernel.deregister · thread handle)
  writeLegacy scripted thread value := scripted.call (Kernel.writeLegacy · thread value)
  lastTrap scripted thread := scripted.call (Kernel.lastTrap · thread)
  pause scripted thread := scripted.call (Kernel.pause · thread)

section Calls

variable {α : Type} {scripted after : ScriptedKernel κ} {answer : κ → Reply κ α}

theorem call_kernel (scripted : ScriptedKernel κ) (answer : κ → Reply κ α) :
    (scripted.call answer).2.kernel = scripted.kernel ∨
      (scripted.call answer).2.kernel = (answer scripted.kernel).2 := by
  unfold call
  split
  · exact .inl rfl
  · exact .inr rfl
  · exact .inr rfl

theorem related_call {related : κ → κ → Prop} (refl : ∀ kernel, related kernel kernel)
    (scripted : ScriptedKernel κ) (answers : related scripted.kernel (answer scripted.kernel).2) :
    related scripted.kernel (scripted.call answer).2.kernel := by
  rcases scripted.call_kernel answer with same | called
  · rw [same]
    exact refl _
  · rw [called]
    exact answers

theorem call_ok {result : α} (answered : scripted.call answer = (.ok result, after)) :
    answer scripted.kernel = (.ok result, after.kernel) := by
  unfold call at answered
  split at answered
  · cases answered
  all_goals
    generalize answer scripted.kernel = reply at answered ⊢
    obtain ⟨given, kernel⟩ := reply
    cases answered
    rfl

theorem call_error {cause : KernelError} (answered : scripted.call answer = (.error cause, after)) :
    after.kernel = scripted.kernel ∨ answer scripted.kernel = (.error cause, after.kernel) := by
  unfold call at answered
  split at answered
  · cases answered
    exact .inl rfl
  all_goals
    generalize answer scripted.kernel = reply at answered ⊢
    obtain ⟨given, kernel⟩ := reply
    cases answered
    exact .inr rfl

end Calls

section Across

variable [Kernel κ] {related : κ → κ → Prop}

/-- What the calls of a kernel respect, they respect under any script. -/
theorem acrossChanges (across : AcrossChanges related) :
    AcrossChanges fun scripted after : ScriptedKernel κ => related scripted.kernel after.kernel where
  refl scripted := across.refl scripted.kernel
  trans first second := across.trans first second
  debugInfo scripted thread :=
    related_call across.refl scripted (across.debugInfo scripted.kernel thread)
  writeLegacy scripted thread value :=
    related_call across.refl scripted (across.writeLegacy scripted.kernel thread value)
  lastTrap scripted thread := related_call across.refl scripted (across.lastTrap scripted.kernel thread)
  pause scripted thread := related_call across.refl scripted (across.pause scripted.kernel thread)
  register scripted thread point :=
    related_call across.refl scripted (across.register scripted.kernel thread point)
  deregister scripted thread handle :=
    related_call across.refl scripted (across.deregister scripted.kernel thread handle)

def contract (contract : RegisterContract κ) : RegisterContract (ScriptedKernel κ) where
  view scripted := contract.view scripted.kernel
  valid scripted := contract.valid scripted.kernel
  stays := acrossChanges contract.stays
  asks scripted thread := by
    rcases scripted.call_kernel (Kernel.debugInfo · thread) with same | called
    · exact congrArg contract.view same
    · exact (congrArg contract.view called).trans (contract.asks scripted.kernel thread)
  pauses scripted thread := by
    rcases scripted.call_kernel (Kernel.pause · thread) with same | called
    · exact congrArg contract.view same
    · exact (congrArg contract.view called).trans (contract.pauses scripted.kernel thread)
  registers valid answered := contract.registers valid (call_ok answered)
  refuses answered := by
    rcases call_error answered with same | refused
    · rw [same]
    · exact contract.refuses refused
  drops answered := contract.drops (call_ok answered)
  sets answered := contract.sets (call_ok answered)
  leaves answered := by
    rcases call_error answered with same | refused
    · rw [same]
    · exact contract.leaves refused

end Across

end ScriptedKernel

end DebugRegisters
