import DebugRegisters.Proofs.Encoding.Precise
import DebugRegisters.Proofs.Session.Accounting
import DebugRegisters.Proofs.Session.Parallel.Operations
import DebugRegisters.Proofs.Session.Rejection

/-!
# Restricting masks late

A session that keeps to its mask table from the start, and one that goes over to
it when a watchpoint bank is first rejected, answer every change alike. Until
the rejection their watchpoint tables differ by the restriction of each point,
and from then on they have the same tables.
-/

set_option autoImplicit false

namespace DebugRegisters

namespace Event

def IsChange : Event → Prop
  | .insert (.plain request) | .remove (.plain request) => request.EndsBelow
  | .newThread _ | .exit _ => True
  | _ => False

instance : DecidablePred IsChange
  | .insert (.plain request) | .remove (.plain request) =>
      inferInstanceAs (Decidable request.EndsBelow)
  | .newThread _ | .exit _ => .isTrue trivial
  | .insert (.masked _ _ _) | .remove (.masked _ _ _) | .resume _ | .stop _ | .probe
  | .askRange _ _ | .askMask _ _ | .fail _ | .vanish _ | .trap _ _ | .trigger _ _ _
  | .clearRecords => .isFalse id

def IsUpkeep : Event → Prop
  | .resume _ => True
  | .fail failure => failure.call = .writeRegisters
  | _ => False

end Event

namespace Session

/-- The pairs of sessions that are reached together: changes are made to both,
and each is looked after on its own. The flag tells whether a watchpoint bank of
the second was rejected. -/
inductive Tandem (early late : Session SimulatedKernel) :
    Bool → Session SimulatedKernel → Session SimulatedKernel → Prop where
  | start : Tandem early late false early late
  | change {rejected : Bool} {first second : Session SimulatedKernel} {event : Event}
      (reached : Tandem early late rejected first second) (changes : event.IsChange) :
      Tandem early late rejected (first.perform event).2 (second.perform event).2
  | upkeepFirst {rejected : Bool} {first second : Session SimulatedKernel} {event : Event}
      (reached : Tandem early late rejected first second) (upkeep : event.IsUpkeep) :
      Tandem early late rejected (first.perform event).2 second
  | upkeepSecond {rejected : Bool} {first second : Session SimulatedKernel} {event : Event}
      (reached : Tandem early late rejected first second) (upkeep : event.IsUpkeep)
      (calm : ∀ thread, event = .resume thread → ¬second.RejectsWatch thread) :
      Tandem early late rejected first (second.perform event).2
  | rejection {rejected : Bool} {first second : Session SimulatedKernel} {thread : ThreadId}
      (reached : Tandem early late rejected first second) (rejects : second.RejectsWatch thread) :
      Tandem early late true first (second.perform (.resume thread)).2

def difference (table : MaskTable) : Bool → EncodedPoint → EncodedPoint
  | false => table.restrictWatch
  | true => fun point => point

/-- Until a rejection, the points of the second session are precise. -/
def IsExpected : Bool → EncodedPoint → Prop
  | false => EncodedPoint.IsPrecise
  | true => fun _ => True

theorem separates_difference (table : MaskTable) (rejected : Bool) :
    Separates (difference table rejected) (IsExpected rejected) := by
  cases rejected with
  | false => exact separates_restrictWatch table
  | true => exact ⟨fun _ _ same => same, fun _ => rfl, fun _ => rfl, fun _ => rfl⟩

/-- Where the points differ by the restriction, restricting those of the second
session leaves no difference. -/
theorem images_restrict {table : MaskTable} {early late after : ThreadSets}
    (images : early.Images (difference table false) (IsExpected false) late)
    (restricted : after.layout = late.layout.map fun (thread, breakpoints, watchpoints) =>
      (thread, breakpoints, (watchpoints.mapPoints table.restrict).1)) :
    early.Images (difference table true) (IsExpected true) after := by
  rw [ThreadSets.images_iff_layout] at images ⊢
  rw [restricted, List.forall₂_map_right_iff]
  refine images.imp fun one two related => ?_
  obtain ⟨thread, code, data⟩ := one
  obtain ⟨other, codeLate, dataLate⟩ := two
  obtain ⟨same, ⟨codes, watches⟩, tidyCode, tidyData⟩ := related
  have plain := SlotTable.slotwise_restrictWatch_breakpoints table tidyCode
  have masked := SlotTable.slotwise_restrictWatch_watchpoints table tidyData
  have mapped := SlotTable.mapPoints_eq_slotwise (separates_restrict table) tidyData
  refine ⟨same, ⟨?_, ?_⟩, ?_, ?_⟩
  · exact (codes.trans plain).trans (SlotTable.slotwise_id codeLate).symm
  · refine (watches.trans masked).trans ?_
    rw [mapped]
    exact (SlotTable.slotwise_id _).symm
  · exact ⟨fun there holds => ⟨trivial, (tidyCode.within there holds).2⟩, tidyCode.apart⟩
  · rw [mapped]
    refine SlotTable.Tidy.slotwise (separates_restrict table) tidyData fun point member => ?_
    rw [(separates_restrict table).kind]
    exact ⟨trivial, member.2⟩

structure InStep (caps : Capabilities) (table : MaskTable) (rejected : Bool)
    (first second : Session SimulatedKernel) : Prop where
  parallel : first.Parallel (difference table rejected) (IsExpected rejected) second
  knownFirst : first.capabilities.1 = caps
  knownSecond : second.capabilities.1 = caps
  restrictedFirst : first.restriction = ⟨.degraded, table⟩
  restrictedSecond : second.restriction = ⟨if rejected then .degraded else .capable, table⟩

section Keeping

variable {session after : Session SimulatedKernel} {event : Event}

theorem capabilities_of_same (same : after.capabilities? = session.capabilities.2.capabilities?) :
    after.capabilities.1 = session.capabilities.1 := by
  have known : after.capabilities? = some session.capabilities.1 := same
  rw [capabilities_of_known known]

theorem perform_change_keeps (trust : session.kernel.OnlyWritesFail) (changes : event.IsChange) :
    (session.perform event).2.capabilities.1 = session.capabilities.1 ∧
      (session.perform event).2.restriction = session.restriction := by
  cases event with
  | insert demand =>
      have same := insertDemand_sameProcess session demand
      exact ⟨capabilities_of_same same.capabilities?, same.restriction⟩
  | remove demand =>
      have same := removeDemand_sameProcess session demand
      exact ⟨capabilities_of_same same.capabilities?, same.restriction⟩
  | newThread thread =>
      have basis := addThread_basis session thread
      exact ⟨capabilities_of_same basis.capabilities?, restriction_addThread session thread⟩
  | exit thread =>
      have same := removeThread_sameTables session thread
      have follows := removeThread_follows session thread
      exact ⟨capabilities_congr trust (trust.follows follows) follows.architecture follows.facility
        same.leader same.capabilities?, same.restriction⟩
  | _ => exact absurd changes id

theorem perform_upkeep_keeps (trust : session.kernel.OnlyWritesFail) (upkeep : event.IsUpkeep) :
    (session.perform event).2.capabilities.1 = session.capabilities.1 ∧
      (session.perform event).2.threads = session.threads ∧
      (session.perform event).2.kernel.OnlyWritesFail := by
  cases event with
  | resume thread =>
      obtain ⟨basis, threads⟩ := prepareToResume_basis session thread
      exact ⟨capabilities_of_same basis.capabilities?, threads,
        trust.follows (prepareToResume_follows session thread)⟩
  | fail failure =>
      have still : (session.perform (.fail failure)).2.kernel.OnlyWritesFail :=
        @History.onlyWritesFail_after (.ofSession session) trust (.fail failure) upkeep
      exact ⟨capabilities_congr trust still rfl rfl rfl rfl, rfl, still⟩
  | _ => exact absurd upkeep id

/-- Unless a watchpoint bank is rejected while masks are free, looking after a
session changes no table. -/
theorem perform_upkeep_sameLayout (upkeep : event.IsUpkeep)
    (calm : session.restriction.state = .capable →
      ∀ thread, event = .resume thread → ¬session.RejectsWatch thread) :
    session.SameLayout (session.perform event).2 := by
  cases event with
  | resume thread => exact prepareToResume_sameLayout fun capable => calm capable thread rfl
  | fail failure => exact ⟨rfl, rfl⟩
  | _ => exact absurd upkeep id

end Keeping

namespace InStep

variable {table : MaskTable} {rejected : Bool} {first second : Session SimulatedKernel}
  {event : Event}

section Words

variable {architecture : Architecture} {one two : Option UInt32}

/-- Rounding masks while encoding comes to the same as restricting the points. -/
theorem encodesAlike (step : InStep (.ofInfoWords architecture one two) table rejected first second)
    (valid : table.IsValid) {request : PointRequest} (below : request.EndsBelow) :
    EncodesAlike (difference table rejected) (IsExpected rejected)
      (.ofInfoWords architecture one two) request first second := by
  have restricted := encode_restricted valid architecture one two request
  obtain ⟨_, _, _, left, right⟩ := step
  constructor
  · unfold encodeRequest
    rw [left, right]
    cases rejected with
    | false => exact restricted
    | true =>
        change encode request (.ofInfoWords architecture one two) ⟨some table, none⟩ =
          (encode request (.ofInfoWords architecture one two) ⟨some table, none⟩).map
            (List.map fun point => point)
        cases encode request (.ofInfoWords architecture one two) ⟨some table, none⟩ with
        | error error => rfl
        | ok points => exact congrArg Except.ok (List.map_id points).symm
  · intro points served point member
    unfold encodeRequest at served
    have kind := (plain_encode served).kinds point member
    refine ⟨?_, by rw [kind]⟩
    rw [right] at served
    cases rejected with
    | false => exact Encoding.isPrecise_of_encode served below point member
    | true => trivial

theorem change (step : InStep (.ofInfoWords architecture one two) table rejected first second)
    (valid : table.IsValid) (changes : event.IsChange) :
    (first.perform event).1 = (second.perform event).1 ∧
      InStep (.ofInfoWords architecture one two) table rejected (first.perform event).2
        (second.perform event).2 := by
  have separates := separates_difference table rejected
  have deferred : (Capabilities.ofInfoWords architecture one two).interface = .registerArray ∨
      (Capabilities.ofInfoWords architecture one two).interface = .unavailable := .inl rfl
  obtain ⟨parallel, knownFirst, knownSecond, restrictedFirst, restrictedSecond⟩ := id step
  have agree : Agree (difference table rejected) (IsExpected rejected) (first.perform event)
      (second.perform event) := by
    cases event with
    | insert demand =>
        cases demand with
        | plain request =>
            exact insert_agree deferred separates parallel knownFirst knownSecond rfl
              (step.encodesAlike valid changes)
        | masked => exact absurd changes id
    | remove demand =>
        cases demand with
        | plain request =>
            exact remove_agree deferred separates parallel knownFirst knownSecond rfl
              (step.encodesAlike valid changes)
        | masked => exact absurd changes id
    | newThread thread => exact addThread_agree deferred parallel knownFirst knownSecond thread
    | exit thread => exact ⟨rfl, removeThread_parallel parallel thread⟩
    | _ => exact absurd changes id
  obtain ⟨known, same⟩ := perform_change_keeps parallel.trustEarly changes
  obtain ⟨also, still⟩ := perform_change_keeps parallel.trustLate changes
  exact ⟨agree.answers, agree.parallel, known.trans knownFirst, also.trans knownSecond,
    same.trans restrictedFirst, still.trans restrictedSecond⟩

end Words

variable {caps : Capabilities}

theorem upkeepFirst (step : InStep caps table rejected first second) (upkeep : event.IsUpkeep) :
    InStep caps table rejected (first.perform event).2 second := by
  obtain ⟨parallel, knownFirst, knownSecond, restrictedFirst, restrictedSecond⟩ := step
  obtain ⟨known, threads, trust⟩ := perform_upkeep_keeps parallel.trustEarly upkeep
  obtain ⟨layout, same⟩ := perform_upkeep_sameLayout upkeep fun capable => by
    rw [restrictedFirst] at capable
    cases capable
  refine ⟨⟨threads.trans parallel.threads, parallel.images.congr_layout layout rfl, trust,
    parallel.trustLate⟩, known.trans knownFirst, knownSecond, same.trans restrictedFirst,
    restrictedSecond⟩

theorem upkeepSecond (step : InStep caps table rejected first second) (upkeep : event.IsUpkeep)
    (calm : second.restriction.state = .capable →
      ∀ thread, event = .resume thread → ¬second.RejectsWatch thread) :
    InStep caps table rejected first (second.perform event).2 := by
  obtain ⟨parallel, knownFirst, knownSecond, restrictedFirst, restrictedSecond⟩ := step
  obtain ⟨known, threads, trust⟩ := perform_upkeep_keeps parallel.trustLate upkeep
  obtain ⟨layout, same⟩ := perform_upkeep_sameLayout upkeep calm
  refine ⟨⟨parallel.threads.trans threads.symm, parallel.images.congr_layout rfl layout,
    parallel.trustEarly, trust⟩, knownFirst, known.trans knownSecond, restrictedFirst,
    same.trans restrictedSecond⟩

theorem rejection {thread : ThreadId} (step : InStep caps table rejected first second)
    (rejects : second.RejectsWatch thread) :
    InStep caps table true first (second.perform (.resume thread)).2 := by
  cases rejected with
  | true =>
      refine @upkeepSecond _ _ _ _ (.resume thread) _ step trivial fun capable => ?_
      rw [step.restrictedSecond] at capable
      cases capable
  | false =>
      obtain ⟨parallel, knownFirst, knownSecond, restrictedFirst, restrictedSecond⟩ := step
      have upkeep : (Event.resume thread).IsUpkeep := trivial
      obtain ⟨known, threads, trust⟩ := perform_upkeep_keeps parallel.trustLate upkeep
      obtain ⟨layout, degraded⟩ := prepareToResume_degrades
        (congrArg Restriction.state restrictedSecond) rejects
      rw [restrictedSecond] at layout degraded
      refine ⟨⟨parallel.threads.trans threads.symm, ?_, parallel.trustEarly, trust⟩, knownFirst,
        known.trans knownSecond, restrictedFirst, degraded⟩
      exact images_restrict parallel.images layout

end InStep

theorem Tandem.inStep {architecture : Architecture} {one two : Option UInt32} {table : MaskTable}
    {early late first second : Session SimulatedKernel} {rejected : Bool} (valid : table.IsValid)
    (start : InStep (.ofInfoWords architecture one two) table false early late)
    (reached : Tandem early late rejected first second) :
    InStep (.ofInfoWords architecture one two) table rejected first second := by
  induction reached with
  | start => exact start
  | change _ changes ih => exact (ih.change valid changes).2
  | upkeepFirst _ upkeep ih => exact ih.upkeepFirst upkeep
  | upkeepSecond _ upkeep calm ih => exact ih.upkeepSecond upkeep fun _ => calm
  | rejection _ rejects ih => exact ih.rejection rejects

/-- Two sessions with the same register arrays and mask table get the same
changes. The first keeps to the table from the start, the second from the first
rejection of a watchpoint bank on; only bank writes fail, and no watch reaches the
end of the address space. Then every change has the same result in both. Until
the rejection the points of the watchpoint tables differ by the restriction
alone, and from then on the tables are the same. -/
theorem restricting_late_equals_restricting_early {architecture : Architecture}
    {one two : Option UInt32} {kernel other : SimulatedKernel} {leader : ThreadId}
    {settings free : Settings} {capabilities? known? : Option Capabilities}
    (trust : kernel.OnlyWritesFail) (also : other.OnlyWritesFail)
    (arrays : (Session.start kernel leader settings capabilities?).capabilities.1 =
      .ofInfoWords architecture one two)
    (same : (Session.start other leader free known?).capabilities.1 =
      .ofInfoWords architecture one two)
    (restricted : settings.assumesRestriction = true) (capable : free.assumesRestriction = false)
    (table : free.maskTable = settings.maskTable) (valid : settings.maskTable.IsValid)
    {rejected : Bool} {first second : Session SimulatedKernel}
    (reached : Tandem (.start kernel leader settings capabilities?)
      (.start other leader free known?) rejected first second) :
    (∀ event : Event, event.IsChange → (first.perform event).1 = (second.perform event).1) ∧
    first.threads = second.threads ∧
    (rejected = false → first.sets.layout =
      second.sets.layout.map fun (thread, breakpoints, watchpoints) =>
        (thread, breakpoints, watchpoints.slotwise settings.maskTable.restrict)) ∧
    (rejected = true → first.sets.layout = second.sets.layout) := by
  have start : InStep (.ofInfoWords architecture one two) settings.maskTable false
      (.start kernel leader settings capabilities?) (.start other leader free known?) := by
    refine ⟨⟨rfl, .nil, trust, also⟩, arrays, same, ?_, ?_⟩
    · simp [Session.start, Settings.restriction, restricted]
    · simp [Session.start, Settings.restriction, capable, table]
  have step := reached.inStep valid start
  refine ⟨fun event changes => (step.change valid changes).1, step.parallel.threads, ?_, ?_⟩
  · rintro rfl
    exact step.parallel.images.layout_eq
      (fun _ => SlotTable.slotwise_restrictWatch_breakpoints settings.maskTable)
      fun _ => SlotTable.slotwise_restrictWatch_watchpoints settings.maskTable
  · rintro rfl
    have equal := step.parallel.images.layout_eq (fun table _ => table.slotwise_id)
      fun table _ => table.slotwise_id
    exact equal.trans (List.map_id _)

/-- A watch over two windows becomes two points, and the mask of the first is not
in the table. -/
theorem restricting_late_equals_restricting_early_rejection :
    let kernel := { SimulatedKernel.withArrays 2 2 with maskTable := some .standard }
    let insertion := Event.insert (.plain (.watch .write ⟨0x1006⟩ 4))
    let early := Session.start kernel ⟨1⟩ { Settings.standard with assumesRestriction := true } none
    let late := Session.start kernel ⟨1⟩ .standard none
    let first := (early.perform insertion).2
    let second := (late.perform insertion).2
    let restricted := (second.perform (.resume ⟨1⟩)).2
    first.sets.layout ≠ second.sets.layout ∧
    (first.sets.layout =
      second.sets.layout.map fun (thread, breakpoints, watchpoints) =>
        (thread, breakpoints, watchpoints.slotwise Settings.standard.maskTable.restrict)) ∧
    first.sets.layout = restricted.sets.layout := by
  intro kernel insertion early late first second restricted
  have trust : kernel.OnlyWritesFail := ⟨fun _ none => absurd none List.not_mem_nil, rfl⟩
  have valid : Settings.standard.maskTable.IsValid := ⟨[0x01, 0x03, 0x0f, 0xff], by decide⟩
  have inserted : Tandem early late false first second := .change .start (by decide)
  have rejects : second.RejectsWatch ⟨1⟩ := by decide +kernel
  have found : early.capabilities.1 = .ofInfoWords .aarch64 (some (Arm.InfoWord.ofSlots 2))
      (some (Arm.InfoWord.ofSlots 2)) := rfl
  have same : late.capabilities.1 = .ofInfoWords .aarch64 (some (Arm.InfoWord.ofSlots 2))
      (some (Arm.InfoWord.ofSlots 2)) := rfl
  obtain ⟨_, _, before, _⟩ := restricting_late_equals_restricting_early trust trust found same rfl
    rfl rfl valid inserted
  obtain ⟨_, _, _, after⟩ := restricting_late_equals_restricting_early trust trust found same rfl
    rfl rfl valid (inserted.rejection rejects)
  exact ⟨by decide +kernel, before rfl, after rfl⟩

end Session

end DebugRegisters
