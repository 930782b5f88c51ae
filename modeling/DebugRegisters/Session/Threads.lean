import DebugRegisters.Session

/-!
# Threads that come and go

A new thread gets the points of the set made last. With register arrays it gets
a copy of the slots, to be written when it resumes. On kernels with handles every
point is registered anew, and where one fails the registrations made for the
thread are undone and the thread is not followed. With the single data breakpoint
register, the value last written is written again.
-/

set_option autoImplicit false

namespace DebugRegisters

namespace Session

variable {κ : Type}

def follow (session : Session κ) (thread : ThreadId) : Session κ :=
  if thread ∈ session.threads then session
  else { session with threads := session.threads ++ [thread] }

/-- The set that a new thread takes its points from: the one made last, unless
it is the thread's own. -/
def pattern? (session : Session κ) (thread : ThreadId) : Option ThreadPoints :=
  session.sets.last?.filter fun points => points.thread ≠ thread

variable [Kernel κ]

/-- Drops registrations as far as possible. Failures are reported as `report`
says. -/
def dropRegistrations (report : SlotHandle → KernelError → Notice) (session : Session κ)
    (thread : ThreadId) : List SlotHandle → Session κ
  | [] => session
  | handle :: rest =>
      match Kernel.deregister session.kernel thread handle with
      | (.ok (), kernel) => dropRegistrations report { session with kernel } thread rest
      | (.error cause, kernel) =>
          dropRegistrations report ({ session with kernel }.notify (report handle cause)) thread rest

/-- Drops the registration that a slot was copied with. -/
def dropStale (session : Session κ) (thread : ThreadId) (stale : Option SlotHandle) : Session κ :=
  dropRegistrations (.staleNotReleased thread) session thread stale.toList

/-- Registers the points of a bank anew, one slot after the other. `registered`
are the handles got so far, over all banks, oldest first. -/
def registerSlots (thread : ThreadId) (bank : RegisterBank) (points : ThreadPoints)
    (registered : List SlotHandle) (session : Session κ) :
    List (Nat × Slot) → Except PointError (ThreadPoints × List SlotHandle) × Session κ
  | [] => (.ok (points, registered), session)
  | (index, slot) :: rest =>
      match slot.point with
      | none => registerSlots thread bank points registered session rest
      | some point =>
          let session := session.dropStale thread slot.handle
          match Kernel.register session.kernel thread point with
          | (.error cause, kernel) =>
              (.error (.kernel .register thread cause),
                dropRegistrations (.registrationNotUndone thread) { session with kernel } thread
                  registered)
          | (.ok handle, kernel) =>
              let points :=
                points.setTable bank ((points.table bank).setHandle index (some handle))
              registerSlots thread bank points (registered ++ [handle]) { session with kernel } rest

def registerBanks (thread : ThreadId) (points : ThreadPoints) (registered : List SlotHandle)
    (session : Session κ) : List RegisterBank → Outcome κ ThreadPoints
  | [] => (.ok points, session)
  | bank :: rest =>
      match registerSlots thread bank points registered session (points.table bank).occupied with
      | (.error error, session) => (.error error, session)
      | (.ok (points, registered), session) =>
          registerBanks thread points registered session rest

def replicate (session : Session κ) (thread : ThreadId) (pattern : ThreadPoints) :
    Outcome κ ThreadPoints :=
  match Kernel.pause session.kernel thread with
  | (.error cause, kernel) => (.error (.kernel .pause thread cause), { session with kernel })
  | (.ok (), kernel) =>
      registerBanks thread (.inherit thread pattern) [] { session with kernel } RegisterBank.all

def equip (caps : Capabilities) (session : Session κ) (thread : ThreadId)
    (pattern : Option ThreadPoints) : Outcome κ Unit :=
  match caps.interface, pattern with
  | .handles, some pattern =>
      match session.replicate thread pattern with
      | (.error error, session) => (.error error, session)
      | (.ok points, session) => (.ok (), { session with sets := session.sets.insert points })
  | .registerArray, some pattern =>
      let points := (ThreadPoints.inherit thread pattern).markAllDirty
      (.ok (), { session with sets := session.sets.insert points })
  | .legacy, pattern =>
      let session := match Kernel.writeLegacy session.kernel thread session.legacyValue with
        | (.ok (), kernel) => { session with kernel }
        | (.error cause, kernel) => { session with kernel }.notify (.legacyNotCopied thread cause)
      match pattern with
      | none => (.ok (), session)
      | some pattern =>
          (.ok (), { session with sets := session.sets.insert (.inherit thread pattern) })
  | _, _ => (.ok (), session)

def addThread (session : Session κ) (thread : ThreadId) : Outcome κ Unit :=
  let (caps, session) := session.capabilities
  let pattern := session.pattern? thread
  let session := session.notify (.newThread thread (pattern.map ThreadPoints.thread))
  match equip caps session thread pattern with
  | (.error error, session) => (.error error, session)
  | (.ok (), session) => (.ok (), (session.follow thread).showRegisters "new thread")

/-- Forgets a thread that is gone. Its registrations are dropped as far as the
kernel still knows them. -/
def removeThread (session : Session κ) (thread : ThreadId) : Session κ :=
  let session := { session with threads := session.threads.filter (· ≠ thread) }
  match session.sets.get? thread with
  | none => session
  | some points =>
      let session := { session with sets := session.sets.erase thread }
      let handles := points.breakpoints.table.releaseAll.1 ++ points.watchpoints.table.releaseAll.1
      (dropRegistrations (.exitNotReleased thread) session thread handles).notify
        (.threadExited thread)

end Session

end DebugRegisters
