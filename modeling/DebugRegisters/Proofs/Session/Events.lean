import DebugRegisters.Kernel.Simulated
import DebugRegisters.Session.Change
import DebugRegisters.Session.Resume
import DebugRegisters.Session.Stop
import DebugRegisters.Session.Threads

/-!
# Histories of a session

Everything that can happen to a session over a simulated kernel, one event at a
time: the operations of the session, its questions, and what the simulation is
told to do. A history remembers beside the session what was asked for and not
given back yet, and which threads have exited.

Properties of all runs are stated over the histories that events lead to, with a
condition on the events where one is needed.
-/

set_option autoImplicit false

namespace DebugRegisters

/-- A point that a debugger asks for. -/
inductive Demand where
  | plain (request : PointRequest)
  | masked (kind : PointKind) (address : Address) (mask : UInt64)
  deriving DecidableEq, Repr

inductive Event where
  | insert (demand : Demand)
  | remove (demand : Demand)
  | newThread (thread : ThreadId)
  | exit (thread : ThreadId)
  | resume (thread : ThreadId)
  | stop (thread : ThreadId)
  /-- The capabilities are asked for, alone or for a question about them. -/
  | probe
  | askRange (address : Address) (length : UInt64)
  | askMask (address : Address) (mask : UInt64)
  /-- The simulated kernel is told to fail later. -/
  | fail (failure : OrderedFailure)
  /-- A thread disappears from the simulated kernel without notice. -/
  | vanish (thread : ThreadId)
  | trap (thread : ThreadId) (trap : Trap)
  | trigger (thread : ThreadId) (handle : SlotHandle) (address : Address)
  | clearRecords
  deriving DecidableEq, Repr

namespace Session

def insertDemand {κ : Type} [Kernel κ] (session : Session κ) : Demand → Outcome κ Unit
  | .plain request => session.insert request
  | .masked kind address mask => session.insertMasked kind address mask

def removeDemand {κ : Type} [Kernel κ] (session : Session κ) : Demand → Outcome κ Unit
  | .plain request => session.remove request
  | .masked kind address mask => session.removeMasked kind address mask

def control (session : Session SimulatedKernel) (change : SimulatedKernel → SimulatedKernel) :
    Session SimulatedKernel :=
  { session with kernel := change session.kernel }

def perform (session : Session SimulatedKernel) : Event → Outcome SimulatedKernel Unit
  | .insert demand => session.insertDemand demand
  | .remove demand => session.removeDemand demand
  | .newThread thread => session.addThread thread
  | .exit thread => (.ok (), session.removeThread thread)
  | .resume thread => session.prepareToResume thread
  | .stop thread => (.ok (), (session.stoppedAt thread).2)
  | .probe => (.ok (), session.capabilities.2)
  | .askRange address length => (.ok (), (session.canWatch address length).2)
  | .askMask address mask => (.ok (), (session.maskedWatchRegisters address mask).2)
  | .fail failure =>
      (.ok (), session.control fun kernel =>
        kernel.failNext failure.call failure.thread failure.error)
  | .vanish thread => (.ok (), session.control fun kernel => kernel.removeThread thread)
  | .trap thread trap => (.ok (), session.control fun kernel => kernel.setTrap thread trap)
  | .trigger thread handle address =>
      (.ok (), session.control fun kernel => kernel.trigger thread handle address)
  | .clearRecords => (.ok (), session.control SimulatedKernel.clearRecords)

end Session

structure History where
  session : Session SimulatedKernel
  /-- What was inserted and not removed since, the latest first. -/
  outstanding : List Demand
  exited : List ThreadId

namespace History

def ofSession (session : Session SimulatedKernel) : History :=
  ⟨session, [], []⟩

/-- What is asked for after an event with the given result. -/
def outstandingAfter (history : History) : Event → Except PointError Unit → List Demand
  | .insert demand, .ok () => demand :: history.outstanding
  | .remove demand, .ok () => history.outstanding.erase demand
  | _, _ => history.outstanding

def after (history : History) (event : Event) : History where
  session := (history.session.perform event).2
  outstanding := history.outstandingAfter event (history.session.perform event).1
  exited := match event with
    | .exit thread => thread :: history.exited
    | _ => history.exited

/-- The histories that events lead to, each of them allowed where it happens. -/
inductive Leads (allowed : History → Event → Prop) (start : History) : History → Prop where
  | start : Leads allowed start start
  | step {history : History} {event : Event} (reached : Leads allowed start history)
      (permitted : allowed history event) : Leads allowed start (history.after event)

def afterAll (history : History) (events : List Event) : History :=
  events.foldl after history

def Permitted (allowed : History → Event → Prop) : History → List Event → Prop
  | _, [] => True
  | history, event :: rest => allowed history event ∧ Permitted allowed (history.after event) rest

instance decidablePermitted (allowed : History → Event → Prop)
    [∀ history event, Decidable (allowed history event)] :
    ∀ history events, Decidable (Permitted allowed history events)
  | _, [] => .isTrue trivial
  | history, event :: rest =>
      have := decidablePermitted allowed (history.after event) rest
      inferInstanceAs (Decidable (allowed history event ∧ Permitted allowed _ rest))

theorem leads_afterAll {allowed : History → Event → Prop} {start history : History}
    {events : List Event} (reached : Leads allowed start history)
    (permitted : Permitted allowed history events) :
    Leads allowed start (history.afterAll events) := by
  induction events generalizing history with
  | nil => exact reached
  | cons event rest ih => exact ih (reached.step permitted.1) permitted.2

/-- No number of an exited thread is taken again. -/
def NoReuse (history : History) (event : Event) : Prop :=
  match event with
  | .newThread thread => thread ∉ history.exited
  | _ => True

instance (history : History) : ∀ event, Decidable (NoReuse history event)
  | .newThread thread => inferInstanceAs (Decidable (thread ∉ history.exited))
  | .insert _ | .remove _ | .exit _ | .resume _ | .stop _ | .probe | .askRange _ _ | .askMask _ _
  | .fail _ | .vanish _ | .trap _ _ | .trigger _ _ _ | .clearRecords => .isTrue trivial

end History

end DebugRegisters
