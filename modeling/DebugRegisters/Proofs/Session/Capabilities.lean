import DebugRegisters.Proofs.Kernel.Calls
import DebugRegisters.Session.Change

/-!
# Capabilities of a simulated kernel

What probing a simulated kernel can find, and what finding the capabilities
changes in a session: nothing once they are known, and before that only what is
known, the kernel's records and the reports.
-/

set_option autoImplicit false

namespace DebugRegisters

inductive Facility.Supports : Facility → Capabilities → Prop where
  | words (breakpoints watchpoints : UInt32) (architecture : Architecture)
      (first second : Option UInt32) :
      Supports (.arrays breakpoints watchpoints) (.ofInfoWords architecture first second)
  | reply (reply : Power.HardwareReply) {architecture : Architecture}
      {read : Power.HardwareReply} {caps : Capabilities}
      (useful : Capabilities.ofReply? architecture read = some caps) :
      Supports (.handles reply) caps
  | legacy (architecture : Architecture) : Supports .legacy (.legacy architecture)
  | unavailable (facility : Facility) (architecture : Architecture) :
      Supports facility (.unavailable architecture)

/-- The capabilities that probing finds on a kernel with the given registers. -/
inductive Facility.Yields : Facility → Capabilities → Prop where
  | words (breakpoints watchpoints : UInt32) (architecture : Architecture) :
      Yields (.arrays breakpoints watchpoints)
        (.ofInfoWords architecture (some breakpoints) (some watchpoints))
  | reply {reply : Power.HardwareReply} {architecture : Architecture} {caps : Capabilities}
      (useful : Capabilities.ofReply? architecture reply = some caps) :
      Yields (.handles reply) caps
  | legacy (architecture : Architecture) : Yields .legacy (.legacy architecture)
  | unavailable (facility : Facility) (architecture : Architecture) :
      Yields facility (.unavailable architecture)

namespace Facility.Supports

variable {facility : Facility} {caps : Capabilities}

theorem slots_le_of_ofWord (word : Option UInt32) :
    (Arm.BankReading.ofWord word).slots ≤ Arm.maxSlots := by
  cases word with
  | none => exact Nat.zero_le _
  | some word =>
      simp only [Arm.BankReading.ofWord]
      split
      · exact Nat.zero_le _
      · split
        · exact Nat.le_refl _
        · next few => exact Nat.le_of_not_lt few

theorem interface_of_reply {architecture : Architecture} {reply : Power.HardwareReply}
    (useful : Capabilities.ofReply? architecture reply = some caps) :
    caps.interface = .handles := by
  unfold Capabilities.ofReply? at useful
  split at useful
  · cases useful
  · cases useful
    rfl

theorem deferred {breakpoints watchpoints : UInt32}
    (supported : Supports (.arrays breakpoints watchpoints) caps) :
    caps.interface = .registerArray ∨ caps.interface = .unavailable := by
  cases supported with
  | words => exact .inl rfl
  | unavailable => exact .inr rfl

theorem words_of_arrays (supported : facility.Supports caps)
    (arrays : caps.interface = .registerArray) :
    ∃ architecture first second, caps = .ofInfoWords architecture first second := by
  cases supported with
  | words => exact ⟨_, _, _, rfl⟩
  | reply reply useful =>
      rw [interface_of_reply useful] at arrays
      cases arrays
  | legacy => cases arrays
  | unavailable => cases arrays

theorem slots_le {breakpoints watchpoints : UInt32}
    (supported : Supports (.arrays breakpoints watchpoints) caps) (bank : RegisterBank) :
    caps.slots bank ≤ Arm.maxSlots := by
  cases supported with
  | words => cases bank <;> exact slots_le_of_ofWord _
  | unavailable => cases bank <;> exact Nat.zero_le _

theorem facility_of_legacy (supported : facility.Supports caps)
    (single : caps.interface = .legacy) : facility = .legacy := by
  cases supported with
  | words => cases single
  | reply reply useful =>
      rw [interface_of_reply useful] at single
      cases single
  | legacy => rfl
  | unavailable => cases single

theorem slots_of_unavailable (supported : facility.Supports caps)
    (nothing : caps.interface = .unavailable) (bank : RegisterBank) : caps.slots bank = 0 := by
  cases supported with
  | words => cases nothing
  | reply reply useful =>
      rw [interface_of_reply useful] at nothing
      cases nothing
  | legacy => cases nothing
  | unavailable => cases bank <;> rfl

end Facility.Supports

namespace Facility.Yields

variable {facility : Facility} {caps : Capabilities}

theorem supports (yields : facility.Yields caps) : facility.Supports caps := by
  cases yields with
  | words => exact .words _ _ _ _ _
  | reply useful => exact .reply _ useful
  | legacy => exact .legacy _
  | unavailable => exact .unavailable _ _

theorem slots_ofWord_le (word : UInt32) :
    (Arm.BankReading.ofWord (some word)).slots ≤ (Arm.InfoWord.parse word).slots := by
  unfold Arm.BankReading.ofWord
  dsimp only
  split
  · exact Nat.zero_le _
  · split
    · next many => exact Nat.le_of_lt many
    · exact Nat.le_refl _

theorem slots_of_reply {architecture : Architecture} {reply : Power.HardwareReply}
    (useful : Capabilities.ofReply? architecture reply = some caps) (bank : RegisterBank) :
    caps.slots bank = (Facility.handles reply).bankSize bank := by
  unfold Capabilities.ofReply? at useful
  split at useful
  · cases useful
  · cases useful
    cases bank <;> rfl

/-- What is found asks for no more registers than there are in the banks. -/
theorem slots_le (yields : facility.Yields caps) (banks : facility ≠ .legacy)
    (bank : RegisterBank) : caps.slots bank ≤ facility.bankSize bank := by
  cases yields with
  | words => cases bank <;> exact slots_ofWord_le _
  | reply useful => exact Nat.le_of_eq (slots_of_reply useful bank)
  | legacy => contradiction
  | unavailable => cases bank <;> exact Nat.zero_le _

end Facility.Yields

namespace KernelSide

variable {κ : Type} [Kernel κ] {caps : Capabilities}

theorem takeSlot_of_deferred
    (deferred : caps.interface = .registerArray ∨ caps.interface = .unavailable)
    (thread : ThreadId) (side : KernelSide κ) (point : EncodedPoint) :
    takeSlot caps thread side point = (.ok none, side) := by
  rcases deferred with interface | interface <;> simp only [takeSlot, interface]

theorem giveUpSlot_of_deferred
    (deferred : caps.interface = .registerArray ∨ caps.interface = .unavailable)
    (thread : ThreadId) (side : KernelSide κ) (handle : Option SlotHandle) :
    giveUpSlot caps thread side handle = (.ok (), side, []) := by
  rcases deferred with interface | interface <;> simp only [giveUpSlot, interface]

end KernelSide

namespace SimulatedKernel

open Capabilities

theorem query?_keeps (kernel : SimulatedKernel) (thread : ThreadId) :
    kernel.Keeps (query? kernel thread).2.1 := by
  have keeps := debugInfo_keeps kernel thread
  unfold query?
  dsimp only
  split <;> next answered => rwa [answered] at keeps

theorem fallback_keeps {kernel : SimulatedKernel} (other : kernel.facility ≠ .legacy)
    (thread : ThreadId) : kernel.Keeps (fallback kernel thread).2.1 := by
  have keeps := @writeLegacy_keeps kernel thread other 0
  unfold fallback
  dsimp only
  split
  · split <;> next answered => rwa [answered] at keeps
  · exact .refl kernel

theorem probe_keeps {kernel : SimulatedKernel} (other : kernel.facility ≠ .legacy)
    (thread : ThreadId) : kernel.Keeps (probe kernel thread).2.1 := by
  have queried := query?_keeps kernel thread
  unfold probe
  split
  · next answered => rwa [answered] at queried
  · next after notices answered =>
      rw [answered] at queried
      exact queried.trans (fallback_keeps (queried.facility ▸ other) thread)

/-- What the answer of the kernel comes to. -/
theorem query?_yields (kernel : SimulatedKernel) (thread : ThreadId) {caps : Capabilities}
    (found : (query? kernel thread).1 = some caps) : kernel.facility.Yields caps := by
  have asked : Kernel.debugInfo kernel thread = kernel.debugInfo thread := rfl
  unfold query? at found
  dsimp only at found
  split at found
  · next info after answered =>
      rw [asked] at answered
      unfold SimulatedKernel.debugInfo at answered
      have keeps := enter_keeps kernel .debugInfo thread
      split at answered
      · cases answered
      · next entered =>
          rw [entered] at keeps
          split at answered
          · next breakpoints watchpoints facility =>
              obtain ⟨rfl, rfl⟩ := Prod.mk.inj answered |>.imp_left Except.ok.inj
              rw [← keeps.facility, facility]
              simp only [ofDebugInfo?] at found
              split at found
              · cases found
              · split at found
                · cases found
                · cases found
                  exact .words _ _ _
          · next reply facility =>
              obtain ⟨rfl, rfl⟩ := Prod.mk.inj answered |>.imp_left Except.ok.inj
              rw [← keeps.facility, facility]
              simp only [ofDebugInfo?] at found
              split at found
              · cases found
              · exact .reply found
          · cases answered
          · cases answered
  · cases found
  · cases found

theorem writeLegacy_ok {kernel after : SimulatedKernel} {thread : ThreadId} {value : UInt64}
    (written : Kernel.writeLegacy kernel thread value = (.ok (), after)) :
    kernel.facility = .legacy := by
  change kernel.writeLegacy thread value = _ at written
  unfold SimulatedKernel.writeLegacy at written
  split at written
  · assumption
  · cases written

theorem fallback_yields (kernel : SimulatedKernel) (thread : ThreadId) :
    kernel.facility.Yields (fallback kernel thread).1 := by
  unfold fallback
  dsimp only
  split
  · split
    · next written =>
        rw [writeLegacy_ok written]
        exact .legacy _
    · exact .unavailable _ _
  · exact .unavailable _ _

theorem probe_yields (kernel : SimulatedKernel) (thread : ThreadId) :
    kernel.facility.Yields (probe kernel thread).1 := by
  have queried := query?_keeps kernel thread
  unfold probe
  split
  · next caps after notices answered =>
      exact query?_yields kernel thread (congrArg Prod.fst answered)
  · next after notices answered =>
      rw [answered] at queried
      exact queried.facility ▸ fallback_yields after thread

section Undisturbed

variable {kernel other : SimulatedKernel}

theorem debugInfo_answer (reliable : kernel.OnlyWritesFail) (thread : ThreadId) :
    (Kernel.debugInfo kernel thread).1 =
      match kernel.facility with
      | .arrays breakpoints watchpoints => .ok (.arm (some breakpoints) (some watchpoints))
      | .handles reply => .ok (.power reply)
      | .legacy | .absent => .error .notSupported := by
  change (kernel.debugInfo thread).1 = _
  have entered := reliable.enter_answer (show KernelCall.debugInfo ≠ .writeRegisters by decide) thread
  have keeps := enter_keeps kernel .debugInfo thread
  unfold SimulatedKernel.debugInfo
  split
  · next failed =>
      rw [failed] at entered
      cases entered
  · next answered =>
      rw [answered] at keeps
      rw [← keeps.facility]
      split <;> next facility => simp only [facility]

theorem query?_congr (reliable : kernel.OnlyWritesFail) (also : other.OnlyWritesFail)
    (architecture : other.architecture = kernel.architecture)
    (facility : other.facility = kernel.facility) (thread : ThreadId) :
    (query? other thread).1 = (query? kernel thread).1 := by
  have answers : (Kernel.debugInfo other thread).1 = (Kernel.debugInfo kernel thread).1 := by
    rw [debugInfo_answer reliable, debugInfo_answer also, facility]
  have same : Kernel.architecture other = Kernel.architecture kernel := architecture
  unfold query?
  dsimp only
  rw [same]
  generalize Kernel.debugInfo other thread = first at answers ⊢
  generalize Kernel.debugInfo kernel thread = second at answers ⊢
  obtain ⟨answer, _⟩ := first
  obtain ⟨twin, _⟩ := second
  cases answers
  cases answer with
  | ok info => rfl
  | error cause => cases cause <;> rfl

theorem writeLegacy_congr (reliable : kernel.OnlyWritesFail) (also : other.OnlyWritesFail)
    (facility : other.facility = kernel.facility) (thread : ThreadId) (value : UInt64) :
    (Kernel.writeLegacy other thread value).1 = (Kernel.writeLegacy kernel thread value).1 := by
  by_cases single : kernel.facility = .legacy
  · rw [reliable.writeLegacy_answer single, also.writeLegacy_answer (facility.trans single)]
  · have refused : ∀ some : SimulatedKernel, some.facility ≠ .legacy →
        (Kernel.writeLegacy some thread value).1 = .error .notSupported := by
      intro some absent
      change (some.writeLegacy thread value).1 = _
      unfold SimulatedKernel.writeLegacy
      split
      · contradiction
      · rfl
    rw [refused kernel single, refused other (facility ▸ single)]

theorem fallback_congr (reliable : kernel.OnlyWritesFail) (also : other.OnlyWritesFail)
    (architecture : other.architecture = kernel.architecture)
    (facility : other.facility = kernel.facility) (thread : ThreadId) :
    (fallback other thread).1 = (fallback kernel thread).1 := by
  have same : Kernel.architecture other = Kernel.architecture kernel := architecture
  have answers := writeLegacy_congr reliable also facility thread 0
  unfold fallback
  dsimp only
  rw [same]
  generalize Kernel.writeLegacy other thread 0 = first at answers ⊢
  generalize Kernel.writeLegacy kernel thread 0 = second at answers ⊢
  obtain ⟨answer, _⟩ := first
  obtain ⟨twin, _⟩ := second
  cases answers
  split
  · cases answer <;> rfl
  · rfl

theorem probe_congr (reliable : kernel.OnlyWritesFail) (also : other.OnlyWritesFail)
    (architecture : other.architecture = kernel.architecture)
    (facility : other.facility = kernel.facility) (thread : ThreadId) :
    (probe other thread).1 = (probe kernel thread).1 := by
  have found := query?_congr reliable also architecture facility thread
  have first := query?_keeps other thread
  have second := query?_keeps kernel thread
  unfold probe
  generalize query? other thread = one at found first ⊢
  generalize query? kernel thread = two at found second ⊢
  obtain ⟨caps, otherNow, _⟩ := one
  obtain ⟨same, kernelNow, _⟩ := two
  cases found
  cases caps with
  | some caps => rfl
  | none =>
      refine fallback_congr (reliable.follows second.toFollows) (also.follows first.toFollows) ?_ ?_
        thread
      · exact first.architecture.trans (architecture.trans second.architecture.symm)
      · exact first.facility.trans (facility.trans second.facility.symm)

end Undisturbed

end SimulatedKernel

namespace Session

section Known

variable {κ : Type} [Kernel κ] {session : Session κ} {caps : Capabilities}

theorem capabilities_of_known (known : session.capabilities? = some caps) :
    session.capabilities = (caps, session) := by
  obtain ⟨kernel, settings, found, restriction, leader, threads, sets, legacyValue, notices⟩ :=
    session
  cases known
  simp [capabilities, Capabilities.cachedOrProbe]

end Known

section Simulated

variable {session : Session SimulatedKernel}

theorem capabilities_keeps (other : session.kernel.facility ≠ .legacy) :
    session.kernel.Keeps session.capabilities.2.kernel := by
  unfold capabilities Capabilities.cachedOrProbe
  cases session.capabilities? with
  | some caps => exact .refl _
  | none => exact SimulatedKernel.probe_keeps other _

theorem capabilities_supported
    (supported : ∀ caps, session.capabilities? = some caps → session.kernel.facility.Supports caps) :
    session.kernel.facility.Supports session.capabilities.1 := by
  unfold capabilities Capabilities.cachedOrProbe
  cases known : session.capabilities? with
  | some caps => exact supported caps known
  | none => exact (SimulatedKernel.probe_yields _ _).supports

/-- On kernels of one kind, sessions that know the same find the same. -/
theorem capabilities_congr {session other : Session SimulatedKernel}
    (reliable : session.kernel.OnlyWritesFail) (also : other.kernel.OnlyWritesFail)
    (architecture : other.kernel.architecture = session.kernel.architecture)
    (facility : other.kernel.facility = session.kernel.facility)
    (leader : other.leader = session.leader)
    (known : other.capabilities? = session.capabilities?) :
    other.capabilities.1 = session.capabilities.1 := by
  unfold capabilities Capabilities.cachedOrProbe
  rw [known, leader]
  cases session.capabilities? with
  | some caps => rfl
  | none => exact SimulatedKernel.probe_congr reliable also architecture facility _

structure HoldsFor (holds : Capabilities → Session SimulatedKernel → Prop)
    (session : Session SimulatedKernel) : Prop where
  supported : ∀ caps, session.capabilities? = some caps → session.kernel.facility.Supports caps
  holds : ∀ caps, session.kernel.facility.Supports caps →
    (∀ known, session.capabilities? = some known → known = caps) → holds caps session

variable {holds : Capabilities → Session SimulatedKernel → Prop} {caps : Capabilities}

theorem HoldsFor.current (all : session.HoldsFor holds) : holds session.capabilities.1 session := by
  refine all.holds _ (capabilities_supported all.supported) fun known found => ?_
  rw [capabilities_of_known found]

theorem holdsFor_of_known (known : session.capabilities? = some caps)
    (supported : session.kernel.facility.Supports caps) (kept : holds caps session) :
    session.HoldsFor holds where
  supported found there := by
    rw [known] at there
    cases there
    exact supported
  holds found _ same := same caps known ▸ kept

/-- A change that keeps what is known keeps the property if it does so for all
capabilities. -/
theorem HoldsFor.change {after : Session SimulatedKernel} (all : session.HoldsFor holds)
    (facility : after.kernel.facility = session.kernel.facility)
    (known : after.capabilities? = session.capabilities?)
    (kept : ∀ caps, holds caps session → holds caps after) : after.HoldsFor holds where
  supported found there := facility ▸ all.supported found (known ▸ there)
  holds found supported same :=
    kept found (all.holds found (facility ▸ supported) fun other there => same other (known ▸ there))

end Simulated

end Session

end DebugRegisters
