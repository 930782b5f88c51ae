import DebugRegisters.Proofs.Session.Following
import DebugRegisters.Proofs.Session.Parallel

/-!
# Requests and threads side by side

A request that becomes points on one session and the changed points on the
other is installed and removed on both with the same answer. Threads that come
and go take their points with them on both.
-/

set_option autoImplicit false

namespace DebugRegisters.Session

variable {change : EncodedPoint → EncodedPoint} {among : EncodedPoint → Prop}
  {early late : Session SimulatedKernel}

theorem Parallel.capabilities (parallel : early.Parallel change among late) :
    early.capabilities.2.Parallel change among late.capabilities.2 :=
  parallel.quiet ⟨rfl, rfl⟩ ⟨rfl, rfl⟩ ⟨capabilities_follows early, capabilities_follows late⟩

structure EncodesAlike (change : EncodedPoint → EncodedPoint) (among : EncodedPoint → Prop)
    (caps : Capabilities) (request : PointRequest) (early late : Session SimulatedKernel) :
    Prop where
  encoded : early.encodeRequest request caps none =
    (late.encodeRequest request caps none).map (List.map change)
  members (points : List EncodedPoint)
    (served : late.encodeRequest request caps none = .ok points) :
    ∀ point ∈ points, among point ∧ point.kind.bank = request.kind.bank

theorem isInstalled_images (separates : Separates change among)
    (images : early.sets.Images change among late.sets) {bank : RegisterBank}
    {points : List EncodedPoint}
    (members : ∀ point ∈ points, among point ∧ point.kind.bank = bank) :
    early.isInstalled (points.map change) = late.isInstalled points := by
  cases points with
  | nil => rfl
  | cons first rest =>
      have here : first.kind.bank = bank := (members first List.mem_cons_self).2
      have there : (change first).kind.bank = bank := by rw [separates.kind, here]
      rw [List.map_cons]
      unfold isInstalled
      dsimp only
      rw [here, there]
      refine images.any fun one two related => ?_
      rw [← List.map_cons, List.all_map, related.tables, Bool.eq_iff_iff, List.all_eq_true,
        List.all_eq_true]
      refine forall₂_congr fun point member => ?_
      dsimp only [Function.comp]
      rw [SlotTable.find?_slotwise (separates.within bank) (related.tidy bank) (members point member)]

theorem Parallel.follow (parallel : early.Parallel change among late) (thread : ThreadId) :
    (early.follow thread).Parallel change among (late.follow thread) := by
  unfold Session.follow
  rw [parallel.threads]
  split
  · exact parallel
  · exact ⟨rfl, parallel.images, parallel.trustEarly, parallel.trustLate⟩

/-- A new thread has a pattern in both sessions or in neither. -/
theorem Parallel.pattern? (parallel : early.Parallel change among late) (thread : ThreadId) :
    (early.pattern? thread = none ∧ late.pattern? thread = none) ∨
      ∃ first second, early.pattern? thread = some first ∧ late.pattern? thread = some second ∧
        first.Images change among second := by
  unfold Session.pattern?
  rcases parallel.images.last? with ⟨first, second⟩ | ⟨first, second, there, also, related⟩
  · rw [first, second]
    exact .inl ⟨rfl, rfl⟩
  · rw [there, also, Option.filter_some, Option.filter_some, related.thread]
    split
    · exact .inr ⟨first, second, rfl, rfl, related⟩
    · exact .inl ⟨rfl, rfl⟩

theorem equip_none {caps : Capabilities}
    (deferred : caps.interface = .registerArray ∨ caps.interface = .unavailable)
    (session : Session SimulatedKernel) (thread : ThreadId) :
    equip caps session thread none = (.ok (), session) := by
  rcases deferred with interface | interface <;> simp only [equip, interface]

section Deferred

variable {caps : Capabilities}
  (deferred : caps.interface = .registerArray ∨ caps.interface = .unavailable)
  (separates : Separates change among) (parallel : early.Parallel change among late)
  (knownEarly : early.capabilities.1 = caps) (knownLate : late.capabilities.1 = caps)

include deferred separates parallel knownEarly knownLate

theorem insert_agree (plain : caps.comparators = 0) {request : PointRequest}
    (alike : EncodesAlike change among caps request early late) :
    Agree change among (early.insert request) (late.insert request) := by
  have probed := parallel.capabilities
  have uncompared : ∀ session : Session SimulatedKernel,
      session.insertComparator? request caps = none := by
    intro session
    simp [insertComparator?, plain]
  have encoded : early.capabilities.2.encodeRequest request caps none =
      (late.capabilities.2.encodeRequest request caps none).map (List.map change) := alike.encoded
  unfold insert
  dsimp only
  rw [knownEarly, knownLate, uncompared, uncompared, encoded]
  cases served : late.capabilities.2.encodeRequest request caps none with
  | error error => exact ⟨rfl, probed⟩
  | ok points =>
      exact insertPoints_agree deferred separates (probed.notices _ _)
        (alike.members points served)

theorem remove_agree (plain : caps.comparators = 0) {request : PointRequest}
    (alike : EncodesAlike change among caps request early late) :
    Agree change among (early.remove request) (late.remove request) := by
  have probed := parallel.capabilities
  have uncompared : removeComparator? request caps = none := by
    simp [removeComparator?, plain]
  have encoded : early.capabilities.2.encodeRequest request caps none =
      (late.capabilities.2.encodeRequest request caps none).map (List.map change) := alike.encoded
  unfold remove
  dsimp only
  rw [knownEarly, knownLate, uncompared, encoded]
  cases served : late.capabilities.2.encodeRequest request caps none with
  | error error => exact ⟨rfl, probed⟩
  | ok points =>
      have members := alike.members points served
      have installed := isInstalled_images separates probed.images members
      simp only [Except.map, Option.isSome_none, Bool.false_and, Bool.false_eq_true, if_false,
        installed]
      split
      · exact removePoints_agree deferred separates (probed.notices _ _)
          fun point member => (members point member).1
      · exact ⟨rfl, probed⟩

omit separates in
theorem addThread_agree (thread : ThreadId) :
    Agree change among (early.addThread thread) (late.addThread thread) := by
  have probed := parallel.capabilities
  have announced : (early.announce thread).Parallel change among (late.announce thread) :=
    probed.notices _ _
  rw [addThread_eq, addThread_eq, knownEarly, knownLate]
  rcases parallel.pattern? thread with ⟨first, second⟩ | ⟨first, second, there, also, related⟩
  · rw [first, second, equip_none deferred, equip_none deferred]
    exact ⟨rfl, (announced.follow thread).showRegisters "new thread"⟩
  · rw [there, also]
    rcases deferred with arrays | nothing
    · simp only [equip, arrays]
      have copied : ThreadPoints.Images change among
          (ThreadPoints.inherit thread first).markAllDirty
          (ThreadPoints.inherit thread second).markAllDirty := by
        refine related.congr rfl (fun bank => ?_) fun bank => ?_
        · rw [ThreadPoints.table_markAllDirty, ThreadPoints.table_inherit]
        · rw [ThreadPoints.table_markAllDirty, ThreadPoints.table_inherit]
      refine ⟨rfl, Parallel.showRegisters (Parallel.follow ?_ thread) "new thread"⟩
      exact ⟨announced.threads, announced.images.insert copied, announced.trustEarly,
        announced.trustLate⟩
    · simp only [equip, nothing]
      exact ⟨rfl, (announced.follow thread).showRegisters "new thread"⟩

end Deferred

theorem removeThread_parallel (parallel : early.Parallel change among late) (thread : ThreadId) :
    (early.removeThread thread).Parallel change among (late.removeThread thread) := by
  have forgotten : (early.forget thread).Parallel change among (late.forget thread) :=
    ⟨congrArg (List.filter (· ≠ thread)) parallel.threads, parallel.images.erase thread,
      parallel.trustEarly, parallel.trustLate⟩
  have first := removeThread_sameTables early thread
  have second := removeThread_sameTables late thread
  refine forgotten.quiet ⟨first.threads, second.threads⟩
    ⟨congrArg ThreadSets.layout first.sets, congrArg ThreadSets.layout second.sets⟩
    ⟨removeThread_follows early thread, removeThread_follows late thread⟩

end DebugRegisters.Session
