import DebugRegisters.Power.DataBreakpoint
import DebugRegisters.Session

/-!
# Installing and removing points

A request is installed on every live thread or on none, and removed from every
thread or from none. The points done so far are noted, and where one fails they
are undone in the opposite order.

On kernels with handles, and on those with the single data breakpoint register,
each change goes to the kernel at once. With register arrays only the tables
change here; the banks are written when a thread resumes.
-/

set_option autoImplicit false

namespace DebugRegisters

structure Placement where
  thread : ThreadId
  point : EncodedPoint
  deriving DecidableEq, Repr

/-- The kernel and the value last written to the data breakpoint register: what
taking and giving up a slot can change besides the table. -/
structure KernelSide (κ : Type) where
  kernel : κ
  legacyValue : UInt64

namespace KernelSide

variable {κ : Type} [Kernel κ]

def writeLegacy (side : KernelSide κ) (thread : ThreadId) (value : UInt64) :
    Except PointError Unit × KernelSide κ :=
  match Kernel.writeLegacy side.kernel thread value with
  | (.error cause, kernel) => (.error (.kernel .writeLegacy thread cause), { side with kernel })
  | (.ok (), kernel) => (.ok (), ⟨kernel, value⟩)

/-- The kernel's part of taking a slot: the handle to keep there, if any. -/
def takeSlot (caps : Capabilities) (thread : ThreadId) (side : KernelSide κ) (point : EncodedPoint) :
    Except PointError (Option SlotHandle) × KernelSide κ :=
  match caps.interface with
  | .handles =>
      match Kernel.register side.kernel thread point with
      | (.error cause, kernel) => (.error (.kernel .register thread cause), { side with kernel })
      | (.ok handle, kernel) => (.ok (some handle), { side with kernel })
  | .legacy =>
      let value := Power.dataBreakpointValue point.address point.kind caps.architecture.isBookE
      match side.writeLegacy thread value with
      | (.error error, side) => (.error error, side)
      | (.ok (), side) => (.ok none, side)
  | .registerArray | .unavailable => (.ok none, side)

/-- The kernel's part of giving up a slot. That the kernel knows the
registration, or the thread, no longer is as good as success. Answers also what
is to be reported. -/
def giveUpSlot (caps : Capabilities) (thread : ThreadId) (side : KernelSide κ)
    (handle : Option SlotHandle) : Except PointError Unit × KernelSide κ × List Notice :=
  match caps.interface, handle with
  | .handles, some handle =>
      match Kernel.deregister side.kernel thread handle with
      | (.ok (), kernel) => (.ok (), { side with kernel }, [])
      | (.error .notFound, kernel) =>
          (.ok (), { side with kernel }, [.registrationGone thread handle .notFound])
      | (.error .noSuchThread, kernel) =>
          (.ok (), { side with kernel }, [.registrationGone thread handle .noSuchThread])
      | (.error cause, kernel) => (.error (.kernel .deregister thread cause), { side with kernel }, [])
  | .legacy, _ =>
      let (result, side) := side.writeLegacy thread 0
      (result, side, [])
  | _, _ => (.ok (), side, [])

end KernelSide

namespace Session

variable {κ : Type}

def isInstalled (session : Session κ) (points : List EncodedPoint) : Bool :=
  match points with
  | [] => false
  | first :: _ =>
      session.sets.toList.any fun set =>
        points.all fun point => ((set.table first.kind.bank).find? point).isSome

/-- The comparators in use on the thread that uses most of them. -/
def comparatorsInUse (session : Session κ) : Nat :=
  (session.sets.toList.map fun points => points.watchpoints.table.comparatorsInUse).foldl max 0

/-- The comparator to install a request with. There is none while all of them
are in use. -/
def insertComparator? (session : Session κ) (request : PointRequest) (caps : Capabilities) :
    Option Comparator :=
  if caps.comparators ≤ session.comparatorsInUse then none else caps.comparatorFor? request

/-- The comparator that a request may have been installed with. -/
def removeComparator? (request : PointRequest) (caps : Capabilities) : Option Comparator :=
  if caps.comparators = 0 then none else caps.comparatorFor? request

/-- Checks that all of `points` fit on each of `threads`, and makes the sets of
threads that have none. Threads after the first refusal are not looked at. -/
def checkRoom (caps : Capabilities) (bank : RegisterBank) (points : List EncodedPoint) :
    List ThreadId → ThreadSets → Except PointError Unit × ThreadSets
  | [], sets => (.ok (), sets)
  | thread :: rest, sets =>
      let sets := sets.ensure thread caps
      match ((sets.get? thread).getD (.empty thread caps)).table bank |>.canAccept points with
      | .error error => (.error error, sets)
      | .ok () => checkRoom caps bank points rest sets

variable [Kernel κ]

def install (caps : Capabilities) (session : Session κ) (placement : Placement) : Outcome κ Unit :=
  let ⟨thread, point⟩ := placement
  let bank := point.kind.bank
  match Kernel.pause session.kernel thread with
  | (.error cause, kernel) => (.error (.kernel .pause thread cause), { session with kernel })
  | (.ok (), kernel) =>
      let sets := session.sets.ensure thread caps
      let points := (sets.get? thread).getD (.empty thread caps)
      let (result, table, side) :=
        (points.table bank).insertWith point ⟨kernel, session.legacyValue⟩
          (KernelSide.takeSlot caps thread)
      let session :=
        { session with
          kernel := side.kernel
          legacyValue := side.legacyValue
          sets := sets.update thread fun points => points.setTable bank table }
      match result with
      | .error error => (.error error, session)
      | .ok insertion =>
          let session :=
            if insertion.isFresh && caps.interface == .registerArray then
              { session with
                sets := session.sets.update thread fun points =>
                  points.markDirty bank insertion.index }
            else session
          (.ok (), session.notify (.slotHolds thread point insertion))

/-- Gives a reference to a point on a thread up. Answers whether the thread had
the point; a thread without it is passed over. -/
def uninstall (caps : Capabilities) (session : Session κ) (placement : Placement) : Outcome κ Bool :=
  let ⟨thread, point⟩ := placement
  let bank := point.kind.bank
  match session.sets.get? thread with
  | none => (.ok false, session)
  | some points =>
      if ((points.table bank).find? point).isNone then (.ok false, session)
      else
        let (result, table, side, notices) :=
          (points.table bank).removeWith point
            (KernelSide.mk session.kernel session.legacyValue, ([] : List Notice))
            fun (side, _) handle => KernelSide.giveUpSlot caps thread side handle
        let session :=
          { session with
            kernel := side.kernel
            legacyValue := side.legacyValue
            sets := session.sets.update thread fun points => points.setTable bank table
            notices := session.notices ++ notices }
        match result with
        | .error error => (.error error, session)
        | .ok removal =>
            let session :=
              if removal.isFreed && caps.interface == .registerArray then
                { session with
                  sets := session.sets.update thread fun points =>
                    points.markDirty bank removal.index }
              else session
            (.ok true, session.notify (.slotReleased thread point removal))

/-- Gives points up again, as many as can be. A failure is only reported. -/
def rollback (caps : Capabilities) (session : Session κ) : List Placement → Session κ
  | [] => session
  | placement :: rest =>
      match uninstall caps session placement with
      | (.ok _, session) => rollback caps session rest
      | (.error cause, session) =>
          rollback caps
            (session.notify (.rollbackFailed placement.point placement.thread cause)) rest

/-- Installs points again, as many as can be. A failure is only reported. -/
def restore (caps : Capabilities) (session : Session κ) : List Placement → Session κ
  | [] => session
  | placement :: rest =>
      match install caps session placement with
      | (.ok (), session) => restore caps session rest
      | (.error cause, session) =>
          restore caps
            (session.notify (.restoreFailed placement.point placement.thread cause)) rest

/-- Installs the placements in order. At the first failure those in `done`, the
latest first, are given up again. -/
def installAll (caps : Capabilities) (done : List Placement) (session : Session κ) :
    List Placement → Outcome κ Unit
  | [] => (.ok (), session)
  | placement :: rest =>
      match install caps session placement with
      | (.ok (), session) => installAll caps (placement :: done) session rest
      | (.error cause, session) =>
          let session := session.notify (.insertFailed placement.point placement.thread cause)
          (.error cause, rollback caps session done)

/-- Gives the placements up in order. At the first failure those in `done`, the
latest first, are installed again. -/
def uninstallAll (caps : Capabilities) (done : List Placement) (session : Session κ) :
    List Placement → Outcome κ Unit
  | [] => (.ok (), session)
  | placement :: rest =>
      match uninstall caps session placement with
      | (.ok true, session) => uninstallAll caps (placement :: done) session rest
      | (.ok false, session) => uninstallAll caps done session rest
      | (.error cause, session) =>
          let session := session.notify (.removeFailed placement.point placement.thread cause)
          (.error cause, restore caps session done)

def placements (session : Session κ) (points : List EncodedPoint) : List Placement :=
  session.threads.flatMap fun thread => points.map fun point => ⟨thread, point⟩

/-- Installs points on every live thread, or on none. -/
def insertPoints (caps : Capabilities) (session : Session κ) (points : List EncodedPoint) :
    Outcome κ Unit :=
  match points with
  | [] => (.ok (), session)
  | first :: _ =>
      match checkRoom caps first.kind.bank points session.threads session.sets with
      | (.error error, sets) => (.error error, { session with sets })
      | (.ok (), sets) =>
          match installAll caps [] { session with sets } (session.placements points) with
          | (.error error, session) => (.error error, session)
          | (.ok (), session) => (.ok (), session.showRegisters "insert")

/-- Removes points from every thread that has them, or from none. -/
def removePoints (caps : Capabilities) (session : Session κ) (points : List EncodedPoint) :
    Outcome κ Unit :=
  match uninstallAll caps [] session (session.placements points) with
  | (.error error, session) => (.error error, session)
  | (.ok (), session) => (.ok (), session.showRegisters "remove")

def insert (session : Session κ) (request : PointRequest) : Outcome κ Unit :=
  let (caps, session) := session.capabilities
  match session.encodeRequest request caps (session.insertComparator? request caps) with
  | .error error => (.error error, session)
  | .ok points =>
      insertPoints caps (session.notify (.inserting request points.length)) points

/-- Removes one reference to a breakpoint or watchpoint. The request must equal
the one it was installed with. As the comparators may all have been in use then,
the points without a comparator are looked for where those with it are missing. -/
def remove (session : Session κ) (request : PointRequest) : Outcome κ Unit :=
  let (caps, session) := session.capabilities
  let comparator := removeComparator? request caps
  match session.encodeRequest request caps comparator with
  | .error error => (.error error, session)
  | .ok preferred =>
      let chosen :=
        if comparator.isSome && !session.isInstalled preferred then
          session.encodeRequest request caps none
        else .ok preferred
      match chosen with
      | .error error => (.error error, session)
      | .ok points =>
          if session.isInstalled points then
            removePoints caps (session.notify (.removing request.kind request.address)) points
          else (.error (.pointNotFound request.kind request.address), session)

def insertMasked (session : Session κ) (kind : PointKind) (address : Address) (mask : UInt64) :
    Outcome κ Unit :=
  let (caps, session) := session.capabilities
  match encodeMasked kind address mask caps with
  | .error error => (.error error, session)
  | .ok point => insertPoints caps (session.notify (.insertingMasked kind address mask)) [point]

def removeMasked (session : Session κ) (kind : PointKind) (address : Address) (mask : UInt64) :
    Outcome κ Unit :=
  let (caps, session) := session.capabilities
  match encodeMasked kind address mask caps with
  | .error error => (.error error, session)
  | .ok point =>
      if session.isInstalled [point] then
        removePoints caps (session.notify (.removingMasked kind address mask)) [point]
      else (.error (.pointNotFound kind address), session)

end Session

end DebugRegisters
