import DebugRegisters.Proofs.Session.Calling

/-!
# Operations and the kernel

Whatever a session does, its kernel is afterwards the same kernel some calls
later. Questions leave the tables alone as well.
-/

set_option autoImplicit false

namespace DebugRegisters

theorem SimulatedKernel.acrossCalls_follows : AcrossCalls SimulatedKernel.Follows where
  refl := .refl
  trans := .trans
  debugInfo kernel thread := (debugInfo_keeps kernel thread).toFollows
  pause kernel thread := (pause_keeps kernel thread).toFollows
  register := register_follows
  deregister := deregister_follows
  writeLegacy := writeLegacy_follows
  writeRegisters kernel thread bank block := by
    have written := writes_writeRegisters kernel thread bank block
    generalize Kernel.writeRegisters kernel thread bank block = outcome at written
    cases written with
    | failed keeps => exact keeps.toFollows
    | written follows => exact follows
  lastTrap kernel thread := (lastTrap_keeps kernel thread).toFollows

namespace KernelSide

theorem takeSlot_follows (caps : Capabilities) (thread : ThreadId)
    (side : KernelSide SimulatedKernel) (point : EncodedPoint) :
    side.kernel.Follows (takeSlot caps thread side point).2.kernel :=
  SimulatedKernel.acrossCalls_follows.takeSlot caps thread side point

theorem giveUpSlot_follows (caps : Capabilities) (thread : ThreadId)
    (side : KernelSide SimulatedKernel) (handle : Option SlotHandle) :
    side.kernel.Follows (giveUpSlot caps thread side handle).2.1.kernel :=
  SimulatedKernel.acrossCalls_follows.giveUpSlot caps thread side handle

end KernelSide

namespace Session

theorem capabilities_follows (session : Session SimulatedKernel) :
    session.kernel.Follows session.capabilities.2.kernel :=
  SimulatedKernel.acrossCalls_follows.capabilities session

theorem insertDemand_follows (session : Session SimulatedKernel) (demand : Demand) :
    session.kernel.Follows (session.insertDemand demand).2.kernel :=
  SimulatedKernel.acrossCalls_follows.insertDemand session demand

theorem removeDemand_follows (session : Session SimulatedKernel) (demand : Demand) :
    session.kernel.Follows (session.removeDemand demand).2.kernel :=
  SimulatedKernel.acrossCalls_follows.removeDemand session demand

theorem prepareToResume_follows (session : Session SimulatedKernel) (thread : ThreadId) :
    session.kernel.Follows (session.prepareToResume thread).2.kernel :=
  SimulatedKernel.acrossCalls_follows.prepareToResume session thread

theorem addThread_follows (session : Session SimulatedKernel) (thread : ThreadId) :
    session.kernel.Follows (session.addThread thread).2.kernel :=
  SimulatedKernel.acrossCalls_follows.addThread session thread

theorem removeThread_follows (session : Session SimulatedKernel) (thread : ThreadId) :
    session.kernel.Follows (session.removeThread thread).kernel :=
  SimulatedKernel.acrossCalls_follows.removeThread session thread

theorem stoppedAt_sameTables (session : Session SimulatedKernel) (thread : ThreadId) :
    session.capabilities.2.SameTables (session.stoppedAt thread).2 ∧
      session.capabilities.2.kernel.Keeps (session.stoppedAt thread).2.kernel := by
  rw [stoppedAt_session]
  exact ⟨.of_kernel _ _ _, SimulatedKernel.lastTrap_keeps _ thread⟩

end Session

end DebugRegisters
