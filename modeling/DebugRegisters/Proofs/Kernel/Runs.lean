import DebugRegisters.Proofs.Kernel.Serving
import DebugRegisters.Proofs.SlotTable.Mirror

/-!
# Runs of the simulated kernel

A kernel is called and controlled, in any order and by anybody. Throughout a run no handle
is given out twice and no bank holds more than it has registers for. A failure that was
ordered makes one call fail, or is still in store at the end. A call that fails changes
no thread, and every call is on record.
-/

set_option autoImplicit false

namespace DebugRegisters

inductive KernelControl where
  | failNext (call : KernelCall) (thread : Option ThreadId) (error : KernelError)
  | trigger (thread : ThreadId) (handle : SlotHandle) (address : Address)
  | setTrap (thread : ThreadId) (trap : Trap)
  | removeThread (thread : ThreadId)
  | setArchitecture (architecture : Architecture)
  | restrict (table : MaskTable)
  | setOneShot (isOneShot : Bool)
  | clearRecords

inductive KernelAct where
  | ask (request : KernelRequest)
  | control (control : KernelControl)

def KernelAct.order? : KernelAct → Option OrderedFailure
  | .control (.failNext call thread error) => some ⟨call, thread, error⟩
  | .control _ | .ask _ => none

namespace SimulatedKernel

def steer (kernel : SimulatedKernel) : KernelControl → SimulatedKernel
  | .failNext call thread error => kernel.failNext call thread error
  | .trigger thread handle address => kernel.trigger thread handle address
  | .setTrap thread trap => kernel.setTrap thread trap
  | .removeThread thread => kernel.removeThread thread
  | .setArchitecture architecture => { kernel with architecture }
  | .restrict table => { kernel with maskTable := some table }
  | .setOneShot isOneShot => { kernel with isOneShot }
  | .clearRecords => kernel.clearRecords

def perform (kernel : SimulatedKernel) : KernelAct → SimulatedKernel
  | .ask request => (request.serve kernel).2
  | .control control => kernel.steer control

def run (kernel : SimulatedKernel) (acts : List KernelAct) : SimulatedKernel :=
  acts.foldl perform kernel

def granted (kernel : SimulatedKernel) : KernelAct → List SlotHandle
  | .ask request =>
      match (request.serve kernel).1 with
      | .ok (.handle handle) => [handle]
      | _ => []
  | .control _ => []

def handles : SimulatedKernel → List KernelAct → List SlotHandle
  | _, [] => []
  | kernel, act :: later => kernel.granted act ++ (kernel.perform act).handles later

/-- The ordered failures that the calls of a run use up. -/
def spent : SimulatedKernel → List KernelAct → Multiset OrderedFailure
  | _, [] => 0
  | kernel, .ask request :: later =>
      kernel.spentIn (request.serve kernel) + (kernel.perform (.ask request)).spent later
  | kernel, .control control :: later => (kernel.perform (.control control)).spent later

def HasRoom (kernel : SimulatedKernel) : Prop :=
  ∀ thread bank, (kernel.threads thread).used bank ≤ kernel.facility.bankSize bank

section Steps

variable {kernel after : SimulatedKernel}

theorem controlled_steer (kernel : SimulatedKernel) (control : KernelControl) :
    kernel.Controlled (kernel.steer control) := by
  cases control with
  | trigger thread handle address => exact kernel.controlled_trigger thread handle address
  | setTrap thread trap => exact kernel.controlled_setTrap thread trap
  | removeThread thread => exact kernel.controlled_removeThread thread
  | failNext | setArchitecture | restrict | setOneShot | clearRecords =>
      exact .of_threads rfl rfl rfl

/-! ## Room -/

theorem HasRoom.controlled (room : kernel.HasRoom) (controlled : kernel.Controlled after) :
    after.HasRoom := by
  intro thread bank
  rw [controlled.facility]
  refine Nat.le_trans ?_ (room thread bank)
  rw [ThreadRegisters.used_eq, ThreadRegisters.used_eq]
  unfold livePoints
  exact ((((controlled.registrations thread).filter _).map _).map _).sum_le_sum
    fun _ _ => Nat.zero_le _

theorem HasRoom.withRegistration (room : kernel.HasRoom) {thread : ThreadId} {point : EncodedPoint}
    (fits : (kernel.threads thread).used point.kind.bank + point.cost ≤
      kernel.facility.bankSize point.kind.bank) :
    (kernel.withRegistration thread point).HasRoom := by
  intro other bank
  change _ ≤ kernel.facility.bankSize bank
  have before := room other bank
  rw [ThreadRegisters.used_eq] at before fits ⊢
  by_cases here : other = thread
  · subst here
    rw [registrations_withRegistration_self]
    unfold livePoints at *
    rw [List.filter_append, List.map_append, List.map_append, List.sum_append]
    by_cases same : point.kind.bank = bank
    · subst same
      simpa using fits
    · simpa [same] using before
  · rwa [registrations_withRegistration_of_ne _ _ here]

theorem hasRoom_ofFacility (architecture : Architecture) (facility : Facility) :
    (ofFacility architecture facility).HasRoom :=
  fun _ _ => Nat.zero_le _

theorem HasRoom.perform (room : kernel.HasRoom) (act : KernelAct) : (kernel.perform act).HasRoom := by
  cases act with
  | control control => exact room.controlled (kernel.controlled_steer control)
  | ask request =>
      have granted := grants kernel request
      change (request.serve kernel).2.HasRoom
      generalize request.serve kernel = reply at granted
      cases granted with
      | registered begun fits => exact (room.controlled begun).withRegistration fits
      | plain controlled => exact room.controlled controlled

theorem HasRoom.run (room : kernel.HasRoom) (acts : List KernelAct) : (kernel.run acts).HasRoom := by
  induction acts generalizing kernel with
  | nil => exact room
  | cons act later ih => exact ih (room.perform act)

/-! ## Handles -/

/-- An act gives out the next handle, or it gives out none. -/
theorem granted_cases (kernel : SimulatedKernel) (act : KernelAct) :
    (kernel.granted act = [] ∧ (kernel.perform act).nextHandle = kernel.nextHandle) ∨
      (kernel.granted act = [⟨kernel.nextHandle⟩] ∧
        (kernel.perform act).nextHandle = kernel.nextHandle + 1) := by
  cases act with
  | control control => exact .inl ⟨rfl, (kernel.controlled_steer control).nextHandle⟩
  | ask request =>
      have granted := grants kernel request
      dsimp only [SimulatedKernel.perform, SimulatedKernel.granted]
      generalize request.serve kernel = reply at granted
      cases granted with
      | registered begun =>
          rw [← begun.nextHandle]
          exact .inr ⟨rfl, rfl⟩
      | plain controlled other =>
          refine .inl ⟨?_, controlled.nextHandle⟩
          dsimp only
          split
          · next handle => exact absurd rfl (other handle)
          · rfl

/-- The handles of a run are new to the kernel, and no two are the same. -/
theorem handles_new (kernel : SimulatedKernel) (acts : List KernelAct) :
    (kernel.handles acts).Nodup ∧ ∀ handle ∈ kernel.handles acts, kernel.nextHandle ≤ handle.number := by
  induction acts generalizing kernel with
  | nil => exact ⟨List.nodup_nil, nofun⟩
  | cons act later ih =>
      obtain ⟨distinct, above⟩ := ih (kernel.perform act)
      unfold handles
      rcases kernel.granted_cases act with ⟨none, next⟩ | ⟨one, next⟩
      · rw [none, List.nil_append, ← next]
        exact ⟨distinct, above⟩
      · rw [next] at above
        rw [one]
        refine ⟨List.nodup_cons.mpr ⟨fun again => ?_, distinct⟩, fun handle member => ?_⟩
        · have high := above _ again
          dsimp only at high
          omega
        · rcases List.mem_cons.mp member with rfl | further
          · exact Int.le_refl _
          · have high := above handle further
            omega

/-! ## Ordered failures -/

theorem failures_steer (kernel : SimulatedKernel) (control : KernelControl) :
    (kernel.steer control).failures =
      kernel.failures ++ (KernelAct.control control).order?.toList := by
  cases control with
  | failNext => rfl
  | trigger thread handle address =>
      unfold steer trigger
      dsimp only
      split <;> exact (List.append_nil _).symm
  | setTrap | removeThread | setArchitecture | restrict | setOneShot | clearRecords =>
      exact (List.append_nil _).symm

/-- The failures in store at the end and those used up in between are those in store at the
beginning and those ordered in between. -/
theorem spent_add_failures (kernel : SimulatedKernel) (acts : List KernelAct) :
    kernel.spent acts + (kernel.run acts).failures =
      (kernel.failures : Multiset OrderedFailure) + acts.filterMap KernelAct.order? := by
  induction acts generalizing kernel with
  | nil => exact add_comm 0 _
  | cons act later ih =>
      have rest := ih (kernel.perform act)
      change _ + (((kernel.perform act).run later).failures : Multiset OrderedFailure) = _
      cases act with
      | ask request =>
          have used : kernel.spentIn (request.serve kernel) +
              (kernel.perform (.ask request)).failures = kernel.failures :=
            Multiset.sub_add_cancel (kernel.failures_serve_le request)
          unfold spent
          rw [add_assoc, rest, ← add_assoc, used]
          rfl
      | control control =>
          unfold spent
          rw [rest]
          change ((kernel.steer control).failures : Multiset OrderedFailure) + _ = _
          rw [failures_steer, List.filterMap_cons]
          cases (KernelAct.control control).order? with
          | none => rw [Option.toList_none, List.append_nil]
          | some failure =>
              rw [Option.toList_some, Multiset.coe_add, Multiset.coe_add, List.append_assoc]
              rfl

end Steps

/-- What holds of every run. -/
structure IsSound (kernel : SimulatedKernel) (acts : List KernelAct) : Prop where
  served {earlier later : List KernelAct} {request : KernelRequest} :
    acts = earlier ++ .ask request :: later →
      IsServed (kernel.run earlier) request (request.serve (kernel.run earlier))
  handles : (kernel.handles acts).Nodup
  room {earlier later : List KernelAct} : acts = earlier ++ later → (kernel.run earlier).HasRoom
  spent : kernel.spent acts + (kernel.run acts).failures =
    (kernel.failures : Multiset OrderedFailure) + acts.filterMap KernelAct.order?

/-- Whatever is done to a kernel, and whatever was done to it before, it gives no handle out
twice, fills no bank over its size, spends every ordered failure at most once and changes
nothing in a call that fails. -/
theorem runs_are_sound (architecture : Architecture) (facility : Facility)
    (earlier acts : List KernelAct) :
    ((ofFacility architecture facility).run earlier).IsSound acts where
  served _ := isServed _ _
  handles := (handles_new _ acts).1
  room _ := ((hasRoom_ofFacility architecture facility).run earlier).run _
  spent := spent_add_failures _ acts

end SimulatedKernel

end DebugRegisters
