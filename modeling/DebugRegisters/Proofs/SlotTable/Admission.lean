import DebugRegisters.Proofs.SlotTable.Room

/-!
# Admission and insertion

The check before a request compares one sum with the registers that are left.
Insertion looks for a free slot and for enough registers point by point. Both see
a table through the points it holds: what an inserted point takes of the registers
is what it counted for in the sum.
-/

set_option autoImplicit false

namespace DebugRegisters.SlotTable

section Insertion

variable {σ : Type}

def insertAll (register : σ → EncodedPoint → Except PointError (Option SlotHandle) × σ) :
    List EncodedPoint → SlotTable → σ → Except PointError Unit × SlotTable × σ
  | [], table, state => (.ok (), table, state)
  | point :: rest, table, state =>
      match table.insertWith point state register with
      | (.error error, table, state) => (.error error, table, state)
      | (.ok _, table, state) => insertAll register rest table state

end Insertion

section Needed

variable {table : SlotTable} {point : EncodedPoint}

theorem find?_isNone_iff : (table.find? point).isNone = true ↔ point ∉ table.points := by
  rw [Option.isNone_iff_eq_none]
  constructor
  · exact notMem_points_of_find?
  · intro absent
    refine find?_eq_none_iff.mpr fun index slot there holds => ?_
    exact absent (mem_points_of_get? there holds)

theorem neededFor_eq (table : SlotTable) (points : List EncodedPoint) :
    table.neededFor points =
      ((points.filter fun point => point ∉ table.points).map EncodedPoint.cost).sum := by
  have same : (points.filter fun point => (table.find? point).isNone) =
      points.filter fun point => point ∉ table.points :=
    List.filter_congr fun point _ => by
      rw [Bool.eq_iff_iff, find?_isNone_iff, decide_eq_true_iff]
  rw [neededFor, same]
  rfl

theorem neededFor_cons (table : SlotTable) (point : EncodedPoint) (rest : List EncodedPoint) :
    table.neededFor (point :: rest) = table.neededFor [point] + table.neededFor rest := by
  have split : point :: rest = [point] ++ rest := rfl
  rw [neededFor_eq, neededFor_eq, neededFor_eq, split, List.filter_append, List.map_append,
    List.sum_append]

theorem neededFor_of_held (held : point ∈ table.points) : table.neededFor [point] = 0 := by
  simp [neededFor_eq, held]

theorem neededFor_of_absent (absent : point ∉ table.points) :
    table.neededFor [point] = point.cost := by
  simp [neededFor_eq, absent]

/-- The more points a table holds, the fewer registers others need. -/
theorem neededFor_le {after : SlotTable} (kept : ∀ held ∈ table.points, held ∈ after.points)
    (points : List EncodedPoint) : after.neededFor points ≤ table.neededFor points := by
  induction points with
  | nil => exact Nat.le_refl _
  | cons point rest ih =>
      rw [neededFor_cons, neededFor_cons table]
      refine Nat.add_le_add ?_ ih
      by_cases now : point ∈ after.points
      · rw [neededFor_of_held now]
        exact Nat.zero_le _
      · have before : point ∉ table.points := fun held => now (kept point held)
        rw [neededFor_of_absent now, neededFor_of_absent before]

theorem neededFor_congr {after : SlotTable} {points : List EncodedPoint}
    (same : ∀ point ∈ points, point ∈ after.points ↔ point ∈ table.points) :
    after.neededFor points = table.neededFor points := by
  rw [neededFor_eq, neededFor_eq]
  have filtered : (points.filter fun point => point ∉ after.points) =
      points.filter fun point => point ∉ table.points :=
    List.filter_congr fun point member => by simp [same point member]
  rw [filtered]

end Needed

section Steps

variable {σ : Type} {table taken : SlotTable} {point : EncodedPoint} {state side : σ}
  {register : σ → EncodedPoint → Except PointError (Option SlotHandle) × σ}
  {insertion : Insertion}

/-- Besides the inserted point, a table holds what it held. -/
theorem Inserts.mem_points_iff {other : EncodedPoint}
    (inserted : table.Inserts point state register (.ok insertion, taken, side)) :
    other ∈ taken.points ↔ other = point ∨ other ∈ table.points := by
  cases inserted with
  | @shared index slot found there holds =>
      rw [points_recount]
      constructor
      · exact .inr
      · rintro (rfl | held)
        · exact mem_points_of_get? there holds
        · exact held
  | @taken index slot handle _ absent free there isFree registered fits =>
      constructor
      · intro member
        obtain ⟨twin, listed, holds⟩ := List.mem_filterMap.mp member
        obtain ⟨position, also⟩ := List.getElem?_of_mem listed
        by_cases here : position = index
        · subst here
          rw [← get?, get?_modify_self, there] at also
          cases also
          exact .inl (Option.some.inj holds).symm
        · rw [← get?, get?_modify_of_ne _ _ here] at also
          exact .inr (mem_points_of_get? also holds)
      · rintro (rfl | held)
        · have now : (table.modify index fun _ => ⟨some other, 1, handle⟩).get? index =
              some ⟨some other, 1, handle⟩ := by rw [get?_modify_self, there]; rfl
          exact mem_points_of_get? now rfl
        · obtain ⟨twin, listed, holds⟩ := List.mem_filterMap.mp held
          obtain ⟨position, also⟩ := List.getElem?_of_mem listed
          have different : position ≠ index := by
            rintro rfl
            rw [← get?, there] at also
            cases also
            rw [isFree] at holds
            cases holds
          have now : (table.modify index fun _ => ⟨some point, 1, handle⟩).get? position =
              some twin := (get?_modify_of_ne _ _ different).trans also
          exact mem_points_of_get? now holds

/-- An inserted point takes the registers that it was said to need. -/
theorem Inserts.available
    (inserted : table.Inserts point state register (.ok insertion, taken, side)) :
    taken.available + table.neededFor [point] = table.available := by
  unfold SlotTable.available
  cases inserted with
  | @shared index slot found there holds =>
      rw [neededFor_of_held (mem_points_of_get? there holds), capacity_modify, used_recount]
      rfl
  | @taken index slot handle _ absent free there isFree registered fits =>
      have counted := used_modify there fun _ => ⟨some point, 1, handle⟩
      have nothing : slot.cost = 0 := by simp [Slot.cost, isFree]
      have added : Slot.cost ⟨some point, 1, handle⟩ = point.cost := rfl
      rw [neededFor_of_absent (notMem_points_of_find? absent), capacity_modify]
      unfold SlotTable.available at fits
      omega

/-- Where the kernel's side never fails, an insertion fails for want of registers
only. -/
theorem inserts_of_accepts (accepts : ∀ state point, ∃ handle, (register state point).1 = .ok handle)
    (table : SlotTable) (point : EncodedPoint) (state : σ) :
    (∃ insertion taken side, table.insertWith point state register = (.ok insertion, taken, side) ∧
        table.Inserts point state register (.ok insertion, taken, side)) ∨
      table.available < table.neededFor [point] ∧ table.insertWith point state register =
        (.error (.capacityExceeded point.kind point.cost table.available), table, state) := by
  have inserted := inserts table point state register
  generalize outcome : table.insertWith point state register = result at inserted
  cases inserted with
  | shared found there holds => exact .inl ⟨_, _, _, rfl, .shared found there holds⟩
  | full absent crowded =>
      refine .inr ⟨?_, rfl⟩
      rw [neededFor_of_absent (notMem_points_of_find? absent)]
      rcases crowded with full | few
      · refine Nat.lt_of_not_le fun fits => ?_
        have free := findFree?_isSome_of_fits fits
        simp [full] at free
      · exact few
  | refused absent registered =>
      obtain ⟨handle, accepted⟩ := accepts state point
      rw [registered] at accepted
      cases accepted
  | taken absent free there isFree registered fits =>
      exact .inl ⟨_, _, _, rfl, .taken absent free there isFree registered fits⟩

end Steps

section Runs

variable {σ : Type} {register : σ → EncodedPoint → Except PointError (Option SlotHandle) × σ}

theorem insertAll_of_fits (accepts : ∀ state point, ∃ handle, (register state point).1 = .ok handle)
    {points : List EncodedPoint} {table : SlotTable}
    (fits : table.neededFor points ≤ table.available) (state : σ) :
    (insertAll register points table state).1 = .ok () := by
  induction points generalizing table state with
  | nil => rfl
  | cons point rest ih =>
      rw [neededFor_cons] at fits
      unfold insertAll
      rcases inserts_of_accepts accepts table point state with
        ⟨insertion, taken, side, outcome, inserted⟩ | ⟨short, -⟩
      · rw [outcome]
        refine ih ?_ side
        have fewer := neededFor_le (fun _ held => inserted.mem_points_iff.mpr (.inr held)) rest
        have left := inserted.available
        omega
      · omega

theorem fits_of_insertAll (accepts : ∀ state point, ∃ handle, (register state point).1 = .ok handle)
    {points : List EncodedPoint} (distinct : points.Nodup) {table : SlotTable} {state : σ}
    (inserted : (insertAll register points table state).1 = .ok ()) :
    table.neededFor points ≤ table.available := by
  induction points generalizing table state with
  | nil => exact Nat.zero_le _
  | cons point rest ih =>
      obtain ⟨fresh, distinct⟩ := List.nodup_cons.mp distinct
      rw [neededFor_cons]
      unfold insertAll at inserted
      rcases inserts_of_accepts accepts table point state with
        ⟨insertion, taken, side, outcome, first⟩ | ⟨-, outcome⟩
      · rw [outcome] at inserted
        have later := ih distinct inserted
        have same : taken.neededFor rest = table.neededFor rest := by
          refine neededFor_congr fun other member => ?_
          have different : other ≠ point := fun same => fresh (same ▸ member)
          rw [first.mem_points_iff]
          exact or_iff_right different
        have left := first.available
        omega
      · rw [outcome] at inserted
        cases inserted

/-- Where the kernel's side never fails, registers are all that can be missing. -/
theorem insertAll_cases (accepts : ∀ state point, ∃ handle, (register state point).1 = .ok handle)
    (points : List EncodedPoint) (table : SlotTable) (state : σ) :
    (insertAll register points table state).1 = .ok () ∨
      ∃ kind needed available, (insertAll register points table state).1 =
        .error (.capacityExceeded kind needed available) := by
  induction points generalizing table state with
  | nil => exact .inl rfl
  | cons point rest ih =>
      unfold insertAll
      rcases inserts_of_accepts accepts table point state with
        ⟨insertion, taken, side, outcome, -⟩ | ⟨-, outcome⟩
      · rw [outcome]
        exact ih taken side
      · rw [outcome]
        exact .inr ⟨_, _, _, rfl⟩

end Runs

/-- What the check tells is what insertion does, for every table: points that
pass are all inserted, distinct points that do not pass are not, and the error
carries the registers that are needed and those that are left. -/
theorem admission_matches_insertion {σ : Type}
    {register : σ → EncodedPoint → Except PointError (Option SlotHandle) × σ}
    (accepts : ∀ state point, ∃ handle, (register state point).1 = .ok handle)
    (table : SlotTable) (points : List EncodedPoint) (state : σ) :
    (table.canAccept points = .ok () → (insertAll register points table state).1 = .ok ()) ∧
      ∀ error, table.canAccept points = .error error →
        (∃ kind,
          let needed := ((points.filter fun point => point ∉ table.points).map EncodedPoint.cost).sum
          let available := table.capacity - (table.points.map EncodedPoint.cost).sum
          error = .capacityExceeded kind needed available ∧ available < needed) ∧
        (points.Nodup → ∃ kind needed available,
          (insertAll register points table state).1 =
            .error (.capacityExceeded kind needed available)) := by
  unfold canAccept
  split
  · next short =>
      refine ⟨nofun, fun error failed => ⟨?_, fun distinct => ?_⟩⟩
      · cases failed
        rw [← neededFor_eq, ← used_eq]
        exact ⟨_, rfl, short⟩
      · refine (insertAll_cases accepts points table state).resolve_left fun inserted => ?_
        exact absurd (fits_of_insertAll accepts distinct inserted) (Nat.not_le_of_lt short)
  · next fits =>
      exact ⟨fun _ => insertAll_of_fits accepts (Nat.le_of_not_lt fits) state, nofun⟩

/-- A range takes two registers. Next to it, two of three windows fit beside a
further request for the range, and the third is refused. -/
theorem admission_matches_insertion_range :
    let range : EncodedPoint :=
      ⟨.write, ⟨0x1000⟩, .range ⟨0x1800⟩, none, ⟨⟨0x1000⟩, ⟨0x1800⟩⟩, 2⟩
    let window : UInt64 → EncodedPoint := fun address =>
      ⟨.read, ⟨address⟩, .exact, none, ⟨⟨address⟩, ⟨address + 8⟩⟩, 1⟩
    let register : Nat → EncodedPoint → Except PointError (Option SlotHandle) × Nat :=
      fun issued _ => (.ok (some ⟨issued⟩), issued + 1)
    let table := ((empty .watchpoints 4).insertWith range 1 register).2.1
    (insertAll register [window 0x2000, range, window 0x3000] table 2).1 = .ok () ∧
      table.canAccept [window 0x2000, range, window 0x3000, window 0x4000] =
        .error (.capacityExceeded .read 3 2) ∧
      ∃ kind needed available,
        (insertAll register [window 0x2000, range, window 0x3000, window 0x4000] table 2).1 =
          .error (.capacityExceeded kind needed available) := by
  intro range window register table
  have accepts : ∀ state point, ∃ handle, (register state point).1 = .ok handle :=
    fun state _ => ⟨some ⟨state⟩, rfl⟩
  have refused : table.canAccept [window 0x2000, range, window 0x3000, window 0x4000] =
      .error (.capacityExceeded .read 3 2) := by decide +kernel
  refine ⟨?_, refused, ?_⟩
  · exact (admission_matches_insertion accepts table _ 2).1 (by decide +kernel)
  · exact ((admission_matches_insertion accepts table _ 2).2 _ refused).2 (by decide +kernel)

end DebugRegisters.SlotTable
