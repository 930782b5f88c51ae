import DebugRegisters.Proofs.Kernel.Owning

/-!
# Registering the points of another thread

A thread that takes over points stops first and then registers the points of one
slot after the other, over both banks. It is refused at some point, and then what
it has registered by then is dropped again, or it gets all of them.
-/

set_option autoImplicit false

namespace DebugRegisters

def Slot.withHandle (slot : Slot) (handle : SlotHandle) : Slot :=
  { slot with handle := some handle }

@[simp] theorem Slot.isOccupied_withHandle (slot : Slot) (handle : SlotHandle) :
    (slot.withHandle handle).isOccupied = slot.isOccupied :=
  rfl

/-- Slots that get new handles have them. -/
theorem Slot.exists_handle_of_renewed {slots : List Slot} {handles : List SlotHandle} {slot : Slot}
    (member : slot ∈ List.zipWith withHandle slots handles) :
    ∃ handle ∈ handles, slot.handle = some handle := by
  rw [← List.map_uncurry_zip_eq_zipWith] at member
  obtain ⟨⟨before, handle⟩, paired, rfl⟩ := List.mem_map.mp member
  exact ⟨handle, (List.of_mem_zip paired).2, rfl⟩

namespace SlotTable

variable {table : SlotTable} {index : Nat}

theorem occupied_modify {change : Slot → Slot}
    (keeps : ∀ slot, (change slot).isOccupied = slot.isOccupied) :
    (table.modify index change).occupied =
      table.occupied.map fun entry =>
        if entry.1 = index then (entry.1, change entry.2) else entry := by
  have numbered : (table.slots.modify index change).zipIdx =
      table.slots.zipIdx.map fun entry =>
        if entry.2 = index then (change entry.1, entry.2) else entry := by
    refine List.ext_getElem? fun position => ?_
    simp only [List.getElem?_zipIdx, List.getElem?_modify, List.getElem?_map, Option.map_map]
    cases table.slots[position]? with
    | none => rfl
    | some slot => by_cases here : index = position <;> simp [here, eq_comm]
  unfold occupied modify
  rw [numbered, List.map_map, List.filter_map, List.filter_map, List.map_map]
  congr 1
  · funext ⟨slot, position⟩
    dsimp only [Function.comp_apply]
    split <;> rfl
  · congr 1
    funext ⟨slot, position⟩
    dsimp only [Function.comp_apply]
    split
    · exact keeps slot
    · rfl

/-- A slot in the middle of the occupied ones gets a handle, and the others keep theirs. -/
theorem occupied_setHandle {before behind : List (Nat × Slot)} {slot : Slot}
    (listed : table.occupied = before ++ (index, slot) :: behind) (handle : SlotHandle) :
    (table.setHandle index (some handle)).occupied =
      before ++ (index, slot.withHandle handle) :: behind := by
  have apart := table.nodup_occupied
  rw [listed, List.map_append, List.map_cons, List.nodup_append, List.nodup_cons] at apart
  obtain ⟨_, ⟨last, _⟩, first⟩ := apart
  have same : ∀ entries : List (Nat × Slot), index ∉ entries.map Prod.fst →
      entries.map (fun entry =>
        if entry.1 = index then (entry.1, entry.2.withHandle handle) else entry) = entries := by
    intro entries absent
    refine (List.map_congr_left fun entry member => if_neg ?_).trans (List.map_id entries)
    rintro rfl
    exact absent (List.mem_map_of_mem member)
  change (table.modify index fun slot => slot.withHandle handle).occupied = _
  rw [occupied_modify fun slot => slot.isOccupied_withHandle handle, listed, List.map_append,
    List.map_cons, if_pos rfl, same behind last,
    same before fun member => first index member index List.mem_cons_self rfl]

end SlotTable

def ThreadPoints.occupiedSlots (points : ThreadPoints) (banks : List RegisterBank) : List Slot :=
  banks.flatMap fun bank => (points.table bank).occupied.map Prod.snd

theorem ThreadPoints.occupiedSlots_cons (points : ThreadPoints) (bank : RegisterBank)
    (rest : List RegisterBank) :
    points.occupiedSlots (bank :: rest) =
      (points.table bank).occupied.map Prod.snd ++ points.occupiedSlots rest :=
  List.flatMap_cons

theorem ThreadPoints.mem_occupiedSlots_iff {points : ThreadPoints} {banks : List RegisterBank}
    {slot : Slot} :
    slot ∈ points.occupiedSlots banks ↔
      ∃ bank ∈ banks, ∃ index, (points.table bank).get? index = some slot ∧
        slot.isOccupied = true := by
  simp only [occupiedSlots, List.mem_flatMap, List.mem_map, Prod.exists, exists_eq_right,
    SlotTable.mem_occupied_iff]

namespace Session

variable {κ : Type} [Kernel κ] {thread : ThreadId} {session after broken : Session κ}
  {slots : List Slot} {entries : List (Nat × Slot)} {handles : List SlotHandle}
  {cause : KernelError} {pattern : ThreadPoints} {banks : List RegisterBank}

inductive Renews (thread : ThreadId) : Session κ → List Slot → List SlotHandle → Session κ → Prop where
  | done {session : Session κ} : Renews thread session [] [] session
  | next {session after : Session κ} {slot : Slot} {rest : List Slot} {point : EncodedPoint}
      {handle : SlotHandle} {handles : List SlotHandle} {kernel : κ} (holds : slot.point = some point)
      (registered : Kernel.register (session.dropStale thread slot.handle).kernel thread point =
        (.ok handle, kernel))
      (later : Renews thread { session.dropStale thread slot.handle with kernel } rest handles after) :
      Renews thread session (slot :: rest) (handle :: handles) after

/-- The point of one of the slots is not registered, for the given cause. Those
before it have got the handles. -/
inductive RefusedAt (thread : ThreadId) :
    Session κ → List Slot → KernelError → List SlotHandle → Session κ → Prop where
  | here {session : Session κ} {slot : Slot} {rest : List Slot} {point : EncodedPoint}
      {cause : KernelError} {kernel : κ} (holds : slot.point = some point)
      (refused : Kernel.register (session.dropStale thread slot.handle).kernel thread point =
        (.error cause, kernel)) :
      RefusedAt thread session (slot :: rest) cause []
        { session.dropStale thread slot.handle with kernel }
  | later {session broken : Session κ} {slot : Slot} {rest : List Slot} {point : EncodedPoint}
      {handle : SlotHandle} {handles : List SlotHandle} {cause : KernelError} {kernel : κ}
      (holds : slot.point = some point)
      (registered : Kernel.register (session.dropStale thread slot.handle).kernel thread point =
        (.ok handle, kernel))
      (refused : RefusedAt thread { session.dropStale thread slot.handle with kernel } rest cause
        handles broken) :
      RefusedAt thread session (slot :: rest) cause (handle :: handles) broken

theorem renews_or_refusedAt (thread : ThreadId) (session : Session κ) {slots : List Slot}
    (occupied : ∀ slot ∈ slots, slot.isOccupied = true) :
    (∃ handles after, Renews thread session slots handles after) ∨
      ∃ cause handles broken, RefusedAt thread session slots cause handles broken := by
  induction slots generalizing session with
  | nil => exact .inl ⟨[], session, .done⟩
  | cons slot rest ih =>
      obtain ⟨point, holds⟩ := Option.isSome_iff_exists.mp (occupied slot List.mem_cons_self)
      cases outcome :
          Kernel.register (session.dropStale thread slot.handle).kernel thread point with
      | mk answer kernel =>
          cases answer with
          | error cause => exact .inr ⟨cause, [], _, .here holds outcome⟩
          | ok handle =>
              rcases ih { session.dropStale thread slot.handle with kernel }
                  (fun slot member => occupied slot (List.mem_cons_of_mem _ member)) with
                ⟨handles, after, later⟩ | ⟨cause, handles, broken, refused⟩
              · exact .inl ⟨handle :: handles, after, .next holds outcome later⟩
              · exact .inr ⟨cause, handle :: handles, broken, .later holds outcome refused⟩

omit [Kernel κ] in
theorem isOccupied_of_occupiedSlots {slot : Slot} (member : slot ∈ pattern.occupiedSlots banks) :
    slot.isOccupied = true := by
  obtain ⟨_, _, _, _, occupied⟩ := ThreadPoints.mem_occupiedSlots_iff.mp member
  exact occupied

/-- Every slot has got a handle. -/
theorem Renews.length (renews : Renews thread session slots handles after) :
    slots.length = handles.length := by
  induction renews with
  | done => rfl
  | next _ _ _ ih => exact congrArg (· + 1) ih

structure Refills (bank : RegisterBank) (points : ThreadPoints) (before : List (Nat × Slot))
    (slots : List Slot) (handles : List SlotHandle) (filled : ThreadPoints) : Prop where
  elsewhere : ∀ other ≠ bank, filled.table other = points.table other
  occupied : (filled.table bank).occupied.map Prod.snd =
    before.map Prod.snd ++ List.zipWith Slot.withHandle slots handles

theorem registerSlots_of_registered {bank : RegisterBank} {index : Nat} {slot : Slot}
    {point : EncodedPoint} {handle : SlotHandle} {kernel : κ} (points : ThreadPoints)
    (registered : List SlotHandle) (rest : List (Nat × Slot)) (holds : slot.point = some point)
    (answered : Kernel.register (session.dropStale thread slot.handle).kernel thread point =
      (.ok handle, kernel)) :
    registerSlots thread bank points registered session ((index, slot) :: rest) =
      registerSlots thread bank
        (points.setTable bank ((points.table bank).setHandle index (some handle)))
        (registered ++ [handle]) { session.dropStale thread slot.handle with kernel } rest := by
  simp only [registerSlots, holds, answered]

theorem registerSlots_of_renews {bank : RegisterBank} (points : ThreadPoints)
    (registered : List SlotHandle) {before : List (Nat × Slot)}
    (listed : (points.table bank).occupied = before ++ entries)
    (renews : Renews thread session (entries.map Prod.snd) handles after) :
    ∃ filled, registerSlots thread bank points registered session entries =
        (.ok (filled, registered ++ handles), after) ∧
      Refills bank points before (entries.map Prod.snd) handles filled := by
  induction entries generalizing session points registered handles before with
  | nil =>
      cases renews
      refine ⟨points, by simp [registerSlots], fun _ _ => rfl, ?_⟩
      rw [listed, List.map_append]
      rfl
  | cons entry rest ih =>
      obtain ⟨index, slot⟩ := entry
      cases renews with
      | @next _ _ _ _ point handle handles kernel holds answered later =>
          let next := points.setTable bank ((points.table bank).setHandle index (some handle))
          have moved : (next.table bank).occupied =
              (before ++ [(index, slot.withHandle handle)]) ++ rest := by
            rw [ThreadPoints.table_setTable_self, SlotTable.occupied_setHandle listed,
              List.append_assoc]
            rfl
          obtain ⟨filled, ran, elsewhere, occupied⟩ := ih next (registered ++ [handle]) moved later
          refine ⟨filled, ?_, fun other different => ?_, ?_⟩
          · rw [registerSlots_of_registered points registered rest holds answered, ran,
              List.append_assoc]
            rfl
          · rw [elsewhere other different, ThreadPoints.table_setTable_of_ne _ _ different]
          · rw [occupied, List.map_append, List.append_assoc]
            rfl

theorem registerSlots_of_refusedAt {bank : RegisterBank} (points : ThreadPoints)
    (registered : List SlotHandle)
    (refused : RefusedAt thread session (entries.map Prod.snd) cause handles broken) :
    registerSlots thread bank points registered session entries =
      (.error (.kernel .register thread cause),
        dropRegistrations (.registrationNotUndone thread) broken thread (registered ++ handles)) := by
  induction entries generalizing session points registered handles with
  | nil => cases refused
  | cons entry rest ih =>
      obtain ⟨index, slot⟩ := entry
      cases refused with
      | @here _ _ _ point _ kernel holds answered =>
          change slot.point = some point at holds
          simp only [registerSlots, holds]
          rw [answered, List.append_nil]
      | later holds answered refused =>
          rw [registerSlots_of_registered points registered rest holds answered, ih _ _ refused,
            List.append_assoc]
          rfl

theorem Renews.split {earlier : List Slot} (renews : Renews thread session (earlier ++ slots) handles after) :
    ∃ middle first second, handles = first ++ second ∧
      Renews thread session earlier first middle ∧ Renews thread middle slots second after := by
  induction earlier generalizing session handles with
  | nil => exact ⟨session, [], handles, rfl, .done, renews⟩
  | cons slot rest ih =>
      cases renews with
      | @next _ _ _ _ _ handle _ _ holds registered later =>
          obtain ⟨middle, first, second, rfl, before, behind⟩ := ih later
          exact ⟨middle, handle :: first, second, rfl, .next holds registered before, behind⟩

theorem RefusedAt.split {earlier : List Slot}
    (refused : RefusedAt thread session (earlier ++ slots) cause handles broken) :
    RefusedAt thread session earlier cause handles broken ∨
      ∃ middle first second, handles = first ++ second ∧
        Renews thread session earlier first middle ∧
        RefusedAt thread middle slots cause second broken := by
  induction earlier generalizing session handles with
  | nil => exact .inr ⟨session, [], handles, rfl, .done, refused⟩
  | cons slot rest ih =>
      cases refused with
      | here holds answered => exact .inl (.here holds answered)
      | @later _ _ _ _ _ handle _ _ _ holds registered refused =>
          rcases ih refused with before | ⟨middle, first, second, rfl, before, behind⟩
          · exact .inl (.later holds registered before)
          · exact .inr ⟨middle, handle :: first, second, rfl, .next holds registered before, behind⟩

theorem registerBanks_of_renews {points : ThreadPoints} (registered : List SlotHandle)
    (apart : banks.Nodup) (same : ∀ bank ∈ banks, points.table bank = pattern.table bank)
    (renews : Renews thread session (pattern.occupiedSlots banks) handles after) :
    ∃ filled, registerBanks thread points registered session banks = (.ok filled, after) ∧
      (∀ bank ∉ banks, filled.table bank = points.table bank) ∧
      filled.occupiedSlots banks =
        List.zipWith Slot.withHandle (pattern.occupiedSlots banks) handles := by
  induction banks generalizing session points registered handles with
  | nil =>
      cases renews
      exact ⟨points, rfl, fun _ _ => rfl, rfl⟩
  | cons bank rest ih =>
      obtain ⟨absent, others⟩ := List.nodup_cons.mp apart
      rw [ThreadPoints.occupiedSlots_cons, ← same bank List.mem_cons_self] at renews ⊢
      obtain ⟨middle, first, second, rfl, now, later⟩ := renews.split
      obtain ⟨filled, ran, elsewhere, occupied⟩ :=
        registerSlots_of_renews points registered (List.nil_append _).symm now
      have kept : ∀ other ∈ rest, filled.table other = pattern.table other := by
        intro other member
        have different : other ≠ bank := fun here => absent (here ▸ member)
        rw [elsewhere other different, same other (List.mem_cons_of_mem _ member)]
      obtain ⟨final, finished, untouched, refilled⟩ :=
        ih (registered ++ first) others kept later
      refine ⟨final, ?_, fun other outside => ?_, ?_⟩
      · simp only [registerBanks, ran, finished]
      · obtain ⟨different, further⟩ := List.ne_and_not_mem_of_not_mem_cons outside
        rw [untouched other further, elsewhere other different]
      · rw [ThreadPoints.occupiedSlots_cons, untouched bank absent, occupied, refilled,
          List.zipWith_append now.length]
        rfl

theorem registerBanks_of_refusedAt {points : ThreadPoints} (registered : List SlotHandle)
    (apart : banks.Nodup) (same : ∀ bank ∈ banks, points.table bank = pattern.table bank)
    (refused : RefusedAt thread session (pattern.occupiedSlots banks) cause handles broken) :
    registerBanks thread points registered session banks =
      (.error (.kernel .register thread cause),
        dropRegistrations (.registrationNotUndone thread) broken thread (registered ++ handles)) := by
  induction banks generalizing session points registered handles with
  | nil => cases refused
  | cons bank rest ih =>
      obtain ⟨absent, others⟩ := List.nodup_cons.mp apart
      rw [ThreadPoints.occupiedSlots_cons, ← same bank List.mem_cons_self] at refused
      rcases refused.split with here | ⟨middle, first, second, rfl, now, later⟩
      · simp only [registerBanks, registerSlots_of_refusedAt points registered here]
      · obtain ⟨filled, ran, elsewhere, _⟩ :=
          registerSlots_of_renews points registered (List.nil_append _).symm now
        have kept : ∀ other ∈ rest, filled.table other = pattern.table other := by
          intro other member
          have different : other ≠ bank := fun here => absent (here ▸ member)
          rw [elsewhere other different, same other (List.mem_cons_of_mem _ member)]
        simp only [registerBanks, ran]
        rw [ih (registered ++ first) others kept later, List.append_assoc]

/-- Giving `thread` the points of `pattern` breaks off at a call that fails for the
given cause, in the session `broken`. By then `handles` were registered. -/
inductive BreaksOff (session : Session κ) (thread : ThreadId) (pattern : ThreadPoints) :
    KernelCall → KernelError → List SlotHandle → Session κ → Prop where
  | running {cause : KernelError} {kernel : κ}
      (refused : Kernel.pause session.kernel thread = (.error cause, kernel)) :
      BreaksOff session thread pattern .pause cause [] { session with kernel }
  | unregistered {cause : KernelError} {kernel : κ} {handles : List SlotHandle} {broken : Session κ}
      (paused : Kernel.pause session.kernel thread = (.ok (), kernel))
      (refused : RefusedAt thread { session with kernel } (pattern.occupiedSlots RegisterBank.all)
        cause handles broken) :
      BreaksOff session thread pattern .register cause handles broken

inductive Replicates (session : Session κ) (thread : ThreadId) (pattern : ThreadPoints) :
    Outcome κ ThreadPoints → Prop where
  | undone {call : KernelCall} {cause : KernelError} {handles : List SlotHandle} {broken : Session κ}
      (breaks : session.BreaksOff thread pattern call cause handles broken) :
      Replicates session thread pattern (.error (.kernel call thread cause),
        dropRegistrations (.registrationNotUndone thread) broken thread handles)
  | renewed {kernel : κ} {handles : List SlotHandle} {after : Session κ} {points : ThreadPoints}
      (paused : Kernel.pause session.kernel thread = (.ok (), kernel))
      (renews : Renews thread { session with kernel } (pattern.occupiedSlots RegisterBank.all)
        handles after)
      (copied : Copies thread pattern points)
      (renewed : points.occupiedSlots RegisterBank.all =
        List.zipWith Slot.withHandle (pattern.occupiedSlots RegisterBank.all) handles) :
      Replicates session thread pattern (.ok points, after)

omit [Kernel κ] in
theorem nodup_banks : RegisterBank.all.Nodup := by decide

omit [Kernel κ] in
theorem mem_banks (bank : RegisterBank) : bank ∈ RegisterBank.all := by
  cases bank <;> decide

omit [Kernel κ] in
theorem mem_occupiedSlots {points : ThreadPoints} {bank : RegisterBank} {index : Nat} {slot : Slot}
    (there : (points.table bank).get? index = some slot) (occupied : slot.isOccupied = true) :
    slot ∈ points.occupiedSlots RegisterBank.all :=
  ThreadPoints.mem_occupiedSlots_iff.mpr ⟨bank, mem_banks bank, index, there, occupied⟩

theorem replicate_of_breaksOff {call : KernelCall}
    (breaks : session.BreaksOff thread pattern call cause handles broken) :
    session.replicate thread pattern = (.error (.kernel call thread cause),
      dropRegistrations (.registrationNotUndone thread) broken thread handles) := by
  unfold replicate
  cases breaks with
  | running refused =>
      rw [refused]
      rfl
  | unregistered paused refused =>
      rw [paused]
      exact registerBanks_of_refusedAt [] nodup_banks
        (fun bank _ => ThreadPoints.table_inherit thread pattern bank) refused

theorem replicates (session : Session κ) (thread : ThreadId) (pattern : ThreadPoints) :
    session.Replicates thread pattern (session.replicate thread pattern) := by
  have copies := replicate_copies session thread pattern
  cases answered : Kernel.pause session.kernel thread with
  | mk answer kernel =>
      cases answer with
      | error cause =>
          have breaks : session.BreaksOff thread pattern .pause cause [] { session with kernel } :=
            .running answered
          rw [replicate_of_breaksOff breaks]
          exact .undone breaks
      | ok =>
          have occupied : ∀ slot ∈ pattern.occupiedSlots RegisterBank.all, slot.isOccupied = true :=
            fun _ => isOccupied_of_occupiedSlots
          rcases renews_or_refusedAt thread { session with kernel } occupied with
            ⟨handles, after, renews⟩ | ⟨cause, handles, broken, refused⟩
          · obtain ⟨points, ran, _, renewed⟩ := registerBanks_of_renews []
              nodup_banks (fun bank _ => ThreadPoints.table_inherit thread pattern bank) renews
            have replicated : session.replicate thread pattern = (.ok points, after) := by
              unfold replicate
              rw [answered]
              exact ran
            have copied := copies.2 points (congrArg Prod.fst replicated)
            rw [replicated]
            exact .renewed answered renews copied renewed
          · have breaks := BreaksOff.unregistered answered refused
            rw [replicate_of_breaksOff breaks]
            exact .undone breaks

end Session

end DebugRegisters
