import DebugRegisters.SlotTable
import Mathlib.Logic.Function.Basic

/-!
# The handle contract

What a kernel with handles promises about the registrations of its threads, and
no more: a new registration gets a number that its thread does not use at the
moment. Numbers are compared within a thread only, and a number may come back once
it is free.

Some kernels count registrations over all threads. One that numbers the registers
of each thread keeps the contract as well, and gives equal numbers to different
threads.
-/

set_option autoImplicit false

namespace DebugRegisters

abbrev LivePoints := ThreadId → SlotHandle → Option EncodedPoint

def LivePoints.set (live : LivePoints) (thread : ThreadId) (handle : SlotHandle)
    (point? : Option EncodedPoint) : LivePoints :=
  Function.update live thread (Function.update (live thread) handle point?)

namespace LivePoints

variable {live : LivePoints} {thread : ThreadId} {handle : SlotHandle}
  {point? : Option EncodedPoint}

theorem set_self (live : LivePoints) (thread : ThreadId) (handle other : SlotHandle)
    (point? : Option EncodedPoint) :
    live.set thread handle point? thread other =
      if other = handle then point? else live thread other := by
  rw [set, Function.update_self, Function.update_apply]

theorem set_eq_self (same : live thread handle = point?) :
    live.set thread handle point? = live := by
  rw [set, ← same, Function.update_eq_self, Function.update_eq_self]

end LivePoints

/-- The promises of a kernel with handles. -/
structure HandleContract (κ : Type) [Kernel κ] where
  /-- The registrations of all threads. -/
  live : κ → LivePoints
  /-- A point is registered under a handle that is free on the thread. -/
  registers (kernel : κ) (thread : ThreadId) (point : EncodedPoint) :
    ∃ handle after, Kernel.register kernel thread point = (.ok handle, after) ∧
      live kernel thread handle = none ∧ live after = (live kernel).set thread handle (some point)
  /-- A registration is dropped, and no other. -/
  deregisters {kernel : κ} {thread : ThreadId} {handle : SlotHandle} {point : EncodedPoint}
    (registered : live kernel thread handle = some point) :
    ∃ after, Kernel.deregister kernel thread handle = (.ok (), after) ∧
      live after = (live kernel).set thread handle none
  /-- What is not registered cannot be dropped. -/
  misses {kernel : κ} {thread : ThreadId} {handle : SlotHandle}
    (free : live kernel thread handle = none) :
    ∃ after, Kernel.deregister kernel thread handle = (.error .notFound, after) ∧
      live after = live kernel
  /-- A thread can be stopped, which changes no registration. -/
  pauses (kernel : κ) (thread : ThreadId) :
    ∃ after, Kernel.pause kernel thread = (.ok (), after) ∧ live after = live kernel

namespace HandleContract

variable {κ : Type} [Kernel κ]

/-- Nothing is live under a handle that was given to `deregister`, whatever it answered. -/
theorem live_deregister (contract : HandleContract κ) (kernel : κ) (thread : ThreadId)
    (handle : SlotHandle) :
    contract.live (Kernel.deregister kernel thread handle).2 =
      (contract.live kernel).set thread handle none := by
  cases registered : contract.live kernel thread handle with
  | some point =>
      obtain ⟨after, answered, dropped⟩ := contract.deregisters registered
      rw [answered]
      exact dropped
  | none =>
      obtain ⟨after, answered, same⟩ := contract.misses registered
      rw [answered, LivePoints.set_eq_self registered]
      exact same

theorem live_of_registered (contract : HandleContract κ) {kernel after : κ} {thread : ThreadId}
    {point : EncodedPoint} {handle : SlotHandle}
    (registered : Kernel.register kernel thread point = (.ok handle, after)) :
    contract.live kernel thread handle = none ∧
      contract.live after = (contract.live kernel).set thread handle (some point) := by
  obtain ⟨issued, side, answered, free, now⟩ := contract.registers kernel thread point
  rw [registered] at answered
  cases answered
  exact ⟨free, now⟩

/-- The slots name registrations of a thread, each one of its own and for its own
point. -/
structure Names (contract : HandleContract κ) (kernel : κ) (thread : ThreadId)
    (slots : List Slot) : Prop where
  live : ∀ slot ∈ slots, ∃ handle point, slot.handle = some handle ∧ slot.point = some point ∧
    contract.live kernel thread handle = some point
  distinct : (slots.map Slot.handle).Nodup

end HandleContract

/-- A kernel with a row of registers for each thread. A registration takes the first
register that is free, and its handle is the number of the register. -/
structure RegisterFileKernel where
  /-- What the kernel says about its debug registers. -/
  reply : Power.HardwareReply
  /-- The registers of a thread that were ever taken. -/
  registers : ThreadId → List (Option EncodedPoint)

namespace RegisterFileKernel

def bare (reply : Power.HardwareReply) : RegisterFileKernel :=
  ⟨reply, fun _ => []⟩

def point? (kernel : RegisterFileKernel) (thread : ThreadId) (handle : SlotHandle) :
    Option EncodedPoint :=
  match handle.number with
  | .ofNat index => (kernel.registers thread)[index]?.join
  | .negSucc _ => none

def write (kernel : RegisterFileKernel) (thread : ThreadId)
    (registers : List (Option EncodedPoint)) : RegisterFileKernel :=
  { kernel with registers := Function.update kernel.registers thread registers }

instance : Kernel RegisterFileKernel where
  architecture _ := .powerpcBookE
  debugInfo kernel _ := (.ok (.power kernel.reply), kernel)
  readRegisters kernel _ _ := (.error .notSupported, kernel)
  writeRegisters kernel _ _ _ := (.error .notSupported, kernel)
  register kernel thread point :=
    let registers := kernel.registers thread
    let index := registers.findIdx Option.isNone
    (.ok ⟨index⟩, kernel.write thread ((registers ++ [none]).set index (some point)))
  deregister kernel thread handle :=
    match kernel.point? thread handle with
    | none => (.error .notFound, kernel)
    | some _ =>
        (.ok (), kernel.write thread ((kernel.registers thread).set handle.number.toNat none))
  writeLegacy kernel _ _ := (.error .notSupported, kernel)
  lastTrap kernel _ := (.ok none, kernel)

variable {kernel : RegisterFileKernel} {thread : ThreadId} {index : Nat}

/-- Where a row of registers differs in one of them, one handle changes. -/
theorem point?_write {registers : List (Option EncodedPoint)} {held : Option EncodedPoint}
    (here : registers[index]?.join = held)
    (elsewhere : ∀ other ≠ index, registers[other]?.join = (kernel.registers thread)[other]?.join) :
    (kernel.write thread registers).point? =
      LivePoints.set kernel.point? thread ⟨index⟩ held := by
  funext other ⟨number⟩
  by_cases same : other = thread
  · subst same
    rw [LivePoints.set_self]
    cases number with
    | ofNat position =>
        simp only [point?, write, Function.update_self, SlotHandle.mk.injEq, Int.ofNat_eq_natCast,
          Int.natCast_inj]
        split
        · next at_index => exact at_index ▸ here
        · next different => exact elsewhere position different
    | negSucc position => simp [point?]
  · rw [LivePoints.set, Function.update_of_ne same]
    simp only [point?, write, Function.update_of_ne same]

theorem join_getElem?_findIdx_isNone (registers : List (Option EncodedPoint)) :
    registers[registers.findIdx Option.isNone]?.join = none := by
  rcases Nat.lt_or_ge (registers.findIdx Option.isNone) registers.length with inside | outside
  · have free := List.findIdx_getElem (w := inside)
    rw [List.getElem?_eq_getElem inside]
    exact Option.isNone_iff_eq_none.mp free
  · rw [List.getElem?_eq_none outside]
    rfl

theorem point?_eq_some {handle : SlotHandle} {point : EncodedPoint}
    (registered : kernel.point? thread handle = some point) :
    ∃ index : Nat, handle = ⟨index⟩ ∧ index < (kernel.registers thread).length := by
  obtain ⟨number⟩ := handle
  cases number with
  | negSucc position => cases registered
  | ofNat index =>
      refine ⟨index, rfl, ?_⟩
      by_contra outside
      simp only [point?] at registered
      rw [List.getElem?_eq_none (Nat.le_of_not_lt outside)] at registered
      cases registered

def contract : HandleContract RegisterFileKernel where
  live := point?
  registers kernel thread point := by
    let registers := kernel.registers thread
    refine ⟨_, _, rfl, join_getElem?_findIdx_isNone registers, point?_write ?_ ?_⟩
    · have few : registers.findIdx Option.isNone ≤ registers.length := List.findIdx_le_length
      rw [List.getElem?_set_self (by simpa using Nat.lt_succ_of_le few)]
      rfl
    · intro other different
      rw [List.getElem?_set_ne (Ne.symm different)]
      rcases Nat.lt_or_ge other registers.length with inside | outside
      · rw [List.getElem?_append_left inside]
      · rw [List.getElem?_append_right outside, List.getElem?_eq_none outside]
        cases other - registers.length <;> rfl
  deregisters {kernel thread handle point} registered := by
    obtain ⟨index, rfl, inside⟩ := point?_eq_some registered
    refine ⟨kernel.write thread ((kernel.registers thread).set index none), ?_, point?_write ?_ ?_⟩
    · simp only [Kernel.deregister, registered]
      rfl
    · rw [List.getElem?_set_self inside]
      rfl
    · intro other different
      rw [List.getElem?_set_ne (Ne.symm different)]
  misses {kernel thread handle} free := ⟨kernel, by simp only [Kernel.deregister, free], rfl⟩
  pauses kernel thread := ⟨kernel, rfl, rfl⟩

end RegisterFileKernel

end DebugRegisters
