import DebugRegisters.Proofs.Encoding.Counting
import DebugRegisters.Proofs.Session.Accounting.Balance
import DebugRegisters.Proofs.Session.Accounting.Ledger
import DebugRegisters.Proofs.Session.Capabilities
import DebugRegisters.Proofs.Session.Invariants
import DebugRegisters.Proofs.SlotTable.Comparators

/-!
# Conditions left to the hardware

Whether the hardware can evaluate a condition is answered from the condition and
from whether there are comparators at all. What an insertion does with the condition
also depends on the length of the watch: a range has no comparator, and neither has a
watch of several pieces, nor one on hardware whose comparators compare no bytes.
-/

set_option autoImplicit false

namespace DebugRegisters

namespace Encoding

variable {request : PointRequest} {caps : Capabilities} {options : EncodeOptions}
  {points : List EncodedPoint}

/-- All points of a watch have a comparator if it is a single point that gets one. -/
theorem forall_usesComparator_iff (encoded : encode request caps options = .ok points)
    (watch : request.kind.isWatchpoint = true) (sized : caps.alignment ≠ 0) :
    (∀ point ∈ points, point.usesComparator = true) ↔
      caps.usesRanges request.length = false ∧ options.comparator.isSome = true ∧
        request.address.toNat + request.length.toNat ≤
          (request.address.alignDown caps.alignment).toNat + caps.alignment.toNat := by
  have some := length_ne_zero_of_encode encoded watch
  cases watches_of_encode encoded watch with
  | whole ranged =>
      have bare : (wholePoint request).usesComparator = false := rfl
      simp [ranged, bare]
  | @ranges window _ ranged wide room cut =>
      obtain ⟨_, remaining, _, _⟩ :=
        WatchCursor.start_parts request.address request.length window none
      have bare := cut.all fun piece point made => (piecePoint_shape made).2.1
      cases cut with
      | done nothing => exact absurd (remaining.symm.trans nothing) some
      | @piece _ first rest more made later =>
          have none := bare first List.mem_cons_self
          simp [ranged, EncodedPoint.usesComparator, none]
  | @windows pieces plain room cut =>
      obtain ⟨next, remaining, _, window⟩ := WatchCursor.start_parts request.address
        request.length caps.alignment (if caps.has .byteSelect then options.table else none)
      rw [if_neg sized] at window
      have last := @WatchCursor.remaining_rest_eq_zero_iff (.start request.address request.length
        caps.alignment (if caps.has .byteSelect then options.table else none))
      rw [next, remaining, window] at last
      rw [← last]
      have bare := cut.all fun piece point made => (piecePoint_shape made).2.1
      cases cut with
      | done nothing => exact absurd (remaining.symm.trans nothing) some
      | @piece _ first rest more made later =>
          cases later with
          | done nothing =>
              simp [plain, nothing, attachComparator, EncodedPoint.usesComparator]
          | @piece _ second others further _ _ =>
              have none := bare first List.mem_cons_self
              simp [plain, further, attachComparator, EncodedPoint.usesComparator, none]

end Encoding

namespace Capabilities

variable {caps : Capabilities} {request : PointRequest} {condition : Condition}

theorem alignment_ne_zero_of_reply {architecture : Architecture} {reply : Power.HardwareReply}
    (useful : ofReply? architecture reply = some caps) : caps.alignment ≠ 0 := by
  unfold ofReply? at useful
  split at useful
  · cases useful
  · cases useful
    dsimp only
    split
    · decide
    · next some =>
        intro zero
        exact some (UInt32.toNat_inj.mp (congrArg UInt64.toNat zero))

/-- A condition that the hardware can evaluate gets a comparator where one can be
attached. -/
theorem comparatorFor?_isSome_iff (given : request.condition = some condition)
    (promised : caps.canAccelerate request.address condition = true) :
    (caps.comparatorFor? request).isSome = true ↔
      caps.usesRanges request.length = false ∧ caps.comparatorWidth ≠ 0 := by
  simp only [canAccelerate, Bool.and_eq_true, beq_iff_eq, decide_eq_true_eq] at promised
  obtain ⟨⟨handles, _⟩, compares⟩ := promised
  unfold comparatorFor? Condition.comparator?
  cases caps.usesRanges request.length with
  | true => simp [given]
  | false =>
      by_cases width : caps.comparatorWidth = 0
      · simp [given, handles, width]
      · simp [given, handles, width, compares]

end Capabilities

namespace SlotTable

variable {table : SlotTable}

theorem points_of_isEmpty (nothing : table.isEmpty = true) : table.points = [] := by
  refine List.filterMap_eq_nil_iff.mpr fun slot member => ?_
  have isFree := List.all_eq_true.mp nothing slot member
  simpa [Slot.isOccupied] using isFree

theorem contents_of_isEmpty (nothing : table.isEmpty = true) : table.contents = 0 := by
  refine Multiset.eq_zero_iff_forall_notMem.mpr fun point member => ?_
  obtain ⟨slot, listed, holds, _⟩ := mem_contents_iff.mp member
  have isFree := List.all_eq_true.mp nothing slot listed
  simp [Slot.isOccupied, holds] at isFree

end SlotTable

namespace Session

variable {κ : Type} {session : Session κ}

def IsBare (session : Session κ) : Prop :=
  session.sets.All fun points => points.isEmpty = true

namespace IsBare

theorem held_eq (bare : session.IsBare) (thread : ThreadId) : session.held thread = 0 := by
  unfold held
  cases there : session.sets.get? thread with
  | none => rfl
  | some points =>
      obtain ⟨code, data⟩ := Bool.and_eq_true_iff.mp (bare.get? there)
      change points.breakpoints.table.contents + points.watchpoints.table.contents = 0
      rw [SlotTable.contents_of_isEmpty code, SlotTable.contents_of_isEmpty data, add_zero]

theorem comparatorsInUse_eq (bare : session.IsBare) : session.comparatorsInUse = 0 := by
  unfold comparatorsInUse
  have none : ∀ points ∈ session.sets.toList, points.watchpoints.table.comparatorsInUse = 0 := by
    intro points member
    obtain ⟨_, data⟩ := Bool.and_eq_true_iff.mp (bare points member)
    rw [SlotTable.comparatorsInUse_eq, SlotTable.points_of_isEmpty data, List.countP_nil]
  rw [List.map_congr_left none, List.map_const']
  induction session.sets.toList.length with
  | zero => rfl
  | succ length ih => simpa [List.replicate_succ] using ih

end IsBare

variable {request : PointRequest} {condition : Condition}

theorem IsBare.insertComparator?_eq (bare : session.IsBare) {caps : Capabilities}
    (promised : caps.canAccelerate request.address condition = true) :
    session.insertComparator? request caps = caps.comparatorFor? request := by
  simp only [Capabilities.canAccelerate, Bool.and_eq_true, beq_iff_eq, decide_eq_true_eq]
    at promised
  obtain ⟨⟨_, comparators⟩, _⟩ := promised
  unfold insertComparator?
  rw [bare.comparatorsInUse_eq, if_neg (Nat.not_le_of_lt comparators)]

variable [Kernel κ] {after : Session κ}

/-- On hardware without a point, a watch is inserted with a condition that the hardware
can evaluate, as it says. Then every thread has points, and all of them have a
comparator exactly if the watch is not registered as a range, the comparators compare
some bytes, and one window is enough. -/
theorem accelerable_insertion_compares_iff {architecture : Architecture}
    {reply : Power.HardwareReply}
    (useful : Capabilities.ofReply? architecture reply = some session.capabilities.1)
    (sound : session.Sound) (bare : session.IsBare) (watch : request.kind.isWatchpoint = true)
    (given : request.condition = some condition)
    (promised : session.capabilities.1.canAccelerate request.address condition = true)
    (inserted : session.insert request = (.ok (), after)) {thread : ThreadId}
    (tracked : thread ∈ session.threads) :
    let caps := session.capabilities.1
    after.held thread ≠ 0 ∧
    ((∀ point ∈ after.held thread, point.usesComparator = true) ↔
      caps.usesRanges request.length = false ∧ caps.comparatorWidth ≠ 0 ∧
        request.address.toNat + request.length.toNat ≤
          (request.address.alignDown caps.alignment).toNat + caps.alignment.toNat) := by
  intro caps
  have known : session.capabilities.2.IsBare := bare
  have order : session.capabilities.2.Sound := sound.congr rfl rfl
  unfold insert at inserted
  dsimp only at inserted
  rw [known.insertComparator?_eq promised] at inserted
  split at inserted
  · cases inserted
  · next points encoded =>
      have reported : (session.capabilities.2.notify
          (.inserting request points.length)).Sound := order.congr rfl rfl
      have holds := insertPoints_ok reported inserted tracked
      have nothing : (session.capabilities.2.notify
          (.inserting request points.length)).held thread = 0 := known.held_eq thread
      rw [nothing, add_zero] at holds
      have exact := Encoding.forall_usesComparator_iff encoded watch
        (Capabilities.alignment_ne_zero_of_reply useful)
      have attached := Capabilities.comparatorFor?_isSome_iff given promised
      rw [holds]
      constructor
      · intro none
        obtain ⟨plain, freely, shape⟩ := encode_plain encoded
        have nonempty := (plain_encode freely).nonempty
        rcases shape with rfl | ⟨point, rfl, rfl⟩
        · exact nonempty (by simpa using none)
        · simp at none
      · rw [attached] at exact
        simp only [Multiset.mem_coe]
        rw [exact]
        constructor
        · rintro ⟨_, ⟨plain, width⟩, reach⟩
          exact ⟨plain, width, reach⟩
        · rintro ⟨plain, width, reach⟩
          exact ⟨plain, ⟨plain, width⟩, reach⟩

/-- Two bytes that the comparators can compare, on hardware without ranges. -/
theorem accelerable_insertion_compares_iff_two_bytes :
    let reply : Power.HardwareReply :=
      { version := 1, instructionPoints := 0, dataPoints := 2, comparators := 1,
        dataAlignment := 4, comparatorWidth := 4, features := 0x8 }
    let session := Session.start (SimulatedKernel.withHandles true reply) ⟨100⟩ .standard none
    let condition := Condition.memoryEquals ⟨0x1002⟩ 2 7
    let request := { PointRequest.watch .write ⟨0x1002⟩ 2 with condition := some condition }
    ∃ after, session.insert request = (.ok (), after) ∧
      ∀ point ∈ after.held ⟨100⟩, point.usesComparator = true := by
  intro reply session condition request
  have useful : Capabilities.ofReply? .powerpcBookE reply = some session.capabilities.1 := rfl
  have bare : session.IsBare := ThreadSets.all_empty
  have sound : session.Sound := sound_start _ _ _ _
  have promised : session.capabilities.1.canAccelerate request.address condition = true := by
    decide +kernel
  have done : (session.insert request).1 = .ok () := by decide +kernel
  have inserted : session.insert request = (.ok (), (session.insert request).2) :=
    Prod.ext done rfl
  refine ⟨_, inserted, ?_⟩
  exact (accelerable_insertion_compares_iff useful sound bare rfl rfl promised inserted
    (List.mem_singleton_self _)).2.mpr (by decide +kernel)

/-- Four bytes on hardware with ranges. The hardware says that it can evaluate the
condition, and the watch is inserted as a range without a comparator. -/
theorem accelerable_range_has_no_comparator :
    let session := Session.start SimulatedKernel.embedded ⟨100⟩ .standard none
    let condition := Condition.memoryEquals ⟨0x1000⟩ 4 7
    let request := { PointRequest.watch .write ⟨0x1000⟩ 4 with condition := some condition }
    session.IsBare ∧
      session.capabilities.1.canAccelerate request.address condition = true ∧
      (session.insert request).1 = .ok () ∧
      ((session.insert request).2.sets.get? ⟨100⟩).map
        (fun points => points.watchpoints.table.points.map EncodedPoint.usesComparator) =
          some [false] := by
  intro session condition request
  exact ⟨ThreadSets.all_empty, by decide +kernel, by decide +kernel, by decide +kernel⟩

end Session

end DebugRegisters
