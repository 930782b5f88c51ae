import DebugRegisters.Proofs.Kernel.Scripted
import DebugRegisters.Proofs.Session.Deferred
import DebugRegisters.Proofs.Session.Reaching
import DebugRegisters.Proofs.Session.Requests

/-!
# Threads that agree

With register arrays all threads of a session have the same tables, at any time
and whatever fails: a thread that has no set yet counts as one with empty tables.
Each operation changes the tables of all tracked threads in one way, and a thread
that appears copies those of another.
-/

set_option autoImplicit false

namespace DebugRegisters

def MaskTable.restrictSlots (masks : MaskTable) : RegisterBank → SlotTable → SlotTable
  | .breakpoints, table => table
  | .watchpoints, table => (table.mapPoints masks.restrict).1

theorem MaskTable.restrictSlots_empty (masks : MaskTable) (bank : RegisterBank) (capacity : Nat) :
    masks.restrictSlots bank (.empty bank capacity) = .empty bank capacity := by
  cases bank with
  | breakpoints => rfl
  | watchpoints =>
      have fixed : ∀ slot ∈ (SlotTable.empty .watchpoints capacity).slots, ∀ point,
          slot.point = some point → masks.restrict point = point := by
        intro slot member point holds
        rw [List.eq_of_mem_replicate member] at holds
        cases holds
      simp [restrictSlots, SlotTable.mapPoints, SlotTable.mapPointsFrom_of_fixed fixed]

theorem ThreadPoints.table_restrict (points : ThreadPoints) (masks : MaskTable)
    (bank : RegisterBank) :
    (points.restrict masks).table bank = masks.restrictSlots bank (points.table bank) := by
  cases bank with
  | breakpoints => exact points.table_restrict_breakpoints masks
  | watchpoints => exact points.table_restrict_watchpoints masks

namespace Session

section Views

variable {κ : Type} {session : Session κ} {caps : Capabilities} {thread : ThreadId}

theorem held_eq_tableOf (session : Session κ) (caps : Capabilities) (thread : ThreadId) :
    session.held thread = (session.tableOf caps thread .breakpoints).contents +
      (session.tableOf caps thread .watchpoints).contents :=
  held_eq session caps thread

@[simp] theorem tableOf_markWritten (session : Session κ) (caps : Capabilities) (thread : ThreadId)
    (bank : RegisterBank) : (session.markWritten thread bank).tableOf caps = session.tableOf caps := by
  have keeps : ∀ points : ThreadPoints, (points.clearDirty bank).thread = points.thread :=
    fun points => ThreadPoints.thread_clearDirty points bank
  funext other place
  unfold tableOf pointsOf markWritten notify
  by_cases here : other = thread
  · subst here
    rw [ThreadSets.get?_update_self keeps]
    cases session.sets.get? other with
    | none => rfl
    | some points => exact ThreadPoints.table_clearDirty points bank place
  · rw [ThreadSets.get?_update_of_ne keeps _ here]

theorem tableOf_restrictTo (session : Session κ) (restriction : Restriction) (caps : Capabilities)
    (thread : ThreadId) (bank : RegisterBank) :
    (session.restrictTo restriction).tableOf caps thread bank =
      restriction.table.restrictSlots bank (session.tableOf caps thread bank) := by
  unfold tableOf pointsOf
  rw [sets_restrictTo, ThreadSets.get?_map fun points => ThreadPoints.thread_restrict points _]
  cases session.sets.get? thread with
  | some points => exact points.table_restrict restriction.table bank
  | none => cases bank <;> exact (restriction.table.restrictSlots_empty _ _).symm

end Views

section Changes

variable {κ : Type} [Kernel κ] {session : Session κ}

/-- An insertion adds the points of a demand to the tables of all tracked threads, or
it changes no table. -/
theorem tableOf_insertDemand
    (deferred : session.capabilities.1.interface = .registerArray ∨
      session.capabilities.1.interface = .unavailable)
    (sound : session.capabilities.2.Sound) (demand : Demand) :
    (session.insertDemand demand).2.tableOf session.capabilities.1 =
        session.tableOf session.capabilities.1 ∨
      ∃ points, Serves session.capabilities.1 session.restriction.table? demand points ∧
        ∀ thread ∈ session.threads, ∀ bank,
          (session.insertDemand demand).2.tableOf session.capabilities.1 thread bank =
            points.foldl (SlotTable.addTo bank)
              (session.tableOf session.capabilities.1 thread bank) := by
  rcases insertDemand_cases session demand with ⟨error, refused⟩ | ⟨notice, points, serves, begun⟩
  · rw [refused]
    exact .inl rfl
  · have told : (session.capabilities.2.notify notice).Sound := sound.congr rfl rfl
    rw [begun]
    cases outcome : insertPoints session.capabilities.1 (session.capabilities.2.notify notice)
      points with
    | mk result after =>
        cases result with
        | error error =>
            exact .inl (((brokenOff_of_insertPoints outcome).tableOf_eq deferred
              (told.tablesKept _)).trans (tableOf_congr rfl _))
        | ok =>
            exact .inr ⟨points, serves, fun thread tracked bank =>
              tableOf_insertPoints deferred told.distinct outcome tracked bank⟩

/-- A removal drops points from the tables of all tracked threads, or it changes no
table. -/
theorem tableOf_removeDemand
    (deferred : session.capabilities.1.interface = .registerArray ∨
      session.capabilities.1.interface = .unavailable)
    (sound : session.capabilities.2.Sound) (demand : Demand) :
    ∃ points : List EncodedPoint, ∀ thread ∈ session.threads, ∀ bank,
      (session.removeDemand demand).2.tableOf session.capabilities.1 thread bank =
        points.foldl (SlotTable.dropFrom bank)
          (session.tableOf session.capabilities.1 thread bank) := by
  rcases removeDemand_cases session demand with
    ⟨error, refused⟩ | ⟨points, serves, installed, begun⟩
  · rw [refused]
    exact ⟨[], fun _ _ _ => rfl⟩
  · have told : (session.capabilities.2.notify demand.removalNotice).Sound := sound.congr rfl rfl
    obtain ⟨after, removed, tables⟩ := tableOf_removePoints deferred told.distinct points
    rw [begun, removed]
    exact ⟨points, tables⟩

end Changes

structure Agreed {κ : Type} (caps : Capabilities) (session : Session κ) : Prop where
  sound : session.Sound
  same : ∀ first ∈ session.threads, ∀ second ∈ session.threads,
    session.tableOf caps first = session.tableOf caps second
  bare : caps.interface = .unavailable → session.sets.toList = []

namespace Agreed

section Steps

variable {κ : Type} {caps : Capabilities} {session after : Session κ} {thread : ThreadId}

/-- Agreement outlasts a change that is the same on all threads. -/
theorem change (edit : RegisterBank → SlotTable → SlotTable) (agreed : session.Agreed caps)
    (sound : after.Sound) (threads : after.threads = session.threads)
    (bare : caps.interface = .unavailable → after.sets.toList = [])
    (edited : ∀ thread ∈ session.threads, ∀ bank,
      after.tableOf caps thread bank = edit bank (session.tableOf caps thread bank)) :
    after.Agreed caps where
  sound
  same first there second also := by
    rw [threads] at there also
    funext bank
    rw [edited first there, edited second also, agreed.same first there second also]
  bare

theorem congr (agreed : session.Agreed caps) (sets : after.sets = session.sets)
    (threads : after.threads = session.threads) : after.Agreed caps :=
  agreed.change (fun _ table => table) (agreed.sound.congr sets threads) threads
    (fun nothing => sets ▸ agreed.bare nothing) fun _ _ _ => by rw [tableOf_congr sets]

theorem keptByResuming (caps : Capabilities) :
    KeptByResuming fun session : Session κ => session.Agreed caps where
  call agreed _ := agreed.congr rfl rfl
  markWritten agreed thread bank :=
    agreed.change (fun _ table => table) (agreed.sound.markWritten thread bank) rfl
      (fun nothing => by simp [markWritten, notify, ThreadSets.update, agreed.bare nothing])
      fun _ _ _ => by rw [tableOf_markWritten]
  restrictTo {session} agreed _ := by
    refine agreed.change session.restriction.table.restrictSlots (agreed.sound.restrictTo _)
      (restrictTo_basis session .degraded).2 (fun nothing => ?_)
      fun thread _ bank => tableOf_restrictTo session _ caps thread bank
    rw [sets_restrictTo]
    simp [ThreadSets.map, agreed.bare nothing]

/-- A thread with the tables of the others, or none if it is the first, joins them. -/
theorem join (agreed : session.Agreed caps) (sound : (after.follow thread).Sound)
    (threads : after.threads = session.threads)
    (bare : caps.interface = .unavailable → after.sets.toList = [])
    (others : ∀ other ∈ session.threads, after.tableOf caps other = session.tableOf caps other)
    (self : ∀ other ∈ session.threads, after.tableOf caps thread = session.tableOf caps other) :
    (after.follow thread).Agreed caps where
  sound
  same first there second also := by
    rw [tableOf_congr (sets_follow after thread)]
    rw [mem_follow, threads] at there also
    rcases there with early | rfl <;> rcases also with too | rfl
    · rw [others first early, others second too, agreed.same first early second too]
    · rw [others first early, self first early]
    · rw [others second too, self second too]
    · rfl
  bare nothing := by
    rw [sets_follow]
    exact bare nothing

/-- A thread that appears without a pattern joins threads with empty tables, or it
is the only thread with a set and is there already. -/
theorem alone (agreed : session.Agreed caps)
    (nothing : session.pattern? thread = none ∨ caps.interface = .unavailable) :
    (session.follow thread).Agreed caps := by
  by_cases known : thread ∈ session.threads
  · have same : session.follow thread = session := if_pos known
    rwa [same]
  · have empty : session.sets.toList = [] := by
      rcases nothing with patternless | unavailable
      · cases last : session.sets.last? with
        | none => exact List.getLast?_eq_none_iff.mp last
        | some points =>
            have own : points.thread = thread := by simpa [pattern?, last] using patternless
            exact absurd (own ▸ agreed.sound.tracked.last? last) known
      · exact agreed.bare unavailable
    refine agreed.join agreed.sound.follow rfl agreed.bare (fun _ _ => rfl) fun _ _ => ?_
    funext bank
    rw [tableOf_of_bare empty, tableOf_of_bare empty]

/-- A thread that appears with the tables of a tracked thread has those of all. -/
theorem copy (agreed : session.Agreed caps) {model points : ThreadPoints}
    (member : model ∈ session.sets.toList) (named : points.thread = thread)
    (tables : ∀ bank, points.table bank = model.table bank)
    (available : caps.interface ≠ .unavailable) :
    (Session.follow { session with sets := session.sets.insert points } thread).Agreed caps := by
  have kept : points.IsKept := fun bank => tables bank ▸ agreed.sound.kept model member bank
  have copied : ∀ other ∈ session.threads,
      tableOf { session with sets := session.sets.insert points } caps thread =
        session.tableOf caps other := by
    intro other tracked
    rw [← agreed.same model.thread (agreed.sound.tracked model member) other tracked]
    funext bank
    rw [tableOf_of_get? (agreed.sound.get?_of_mem member), ← tables, ← named]
    exact tableOf_of_get? (ThreadSets.get?_insert_self _ points) caps bank
  refine agreed.join (agreed.sound.adopt named kept) rfl (fun nothing => absurd nothing available)
    (fun other tracked => ?_) copied
  by_cases here : other = thread
  · exact here ▸ copied other tracked
  · exact tableOf_insert_of_ne (named ▸ here) session caps

theorem table_eq (agreed : session.Agreed caps) {points : ThreadPoints}
    (member : points ∈ session.sets.toList) (bank : RegisterBank) :
    points.table bank = session.tableOf caps points.thread bank :=
  (tableOf_of_get? (agreed.sound.get?_of_mem member) caps bank).symm

theorem forget [Kernel κ] (agreed : session.Agreed caps) (thread : ThreadId) :
    (session.forget thread).Agreed caps where
  sound := agreed.sound.forget thread
  same first there second also := by
    have stays : ∀ other ∈ (session.forget thread).threads, other ∈ session.threads ∧
        (session.forget thread).tableOf caps other = session.tableOf caps other := by
      intro other member
      obtain ⟨tracked, apart⟩ := List.mem_filter.mp member
      exact ⟨tracked, tableOf_forget_of_ne (by simpa using apart) session caps⟩
    obtain ⟨early, one⟩ := stays first there
    obtain ⟨too, other⟩ := stays second also
    rw [one, other, agreed.same first early second too]
  bare nothing := by simp [Session.forget, ThreadSets.erase, agreed.bare nothing]

end Steps

section Operations

variable {κ : Type} [Kernel κ] {session : Session κ}

omit [Kernel κ] in
theorem exists_holder {caps : Capabilities} (agreed : session.Agreed caps) {first : EncodedPoint}
    {rest : List EncodedPoint} (installed : session.isInstalled (first :: rest) = true) :
    ∃ thread ∈ session.threads,
      ((session.tableOf caps thread first.kind.bank).find? first).isSome = true := by
  obtain ⟨set, member, all⟩ := List.any_eq_true.mp installed
  refine ⟨set.thread, agreed.sound.tracked set member, ?_⟩
  rw [tableOf_of_get? (agreed.sound.get?_of_mem member)]
  exact List.all_eq_true.mp all first List.mem_cons_self

omit [Kernel κ] in
/-- Points that are dropped everywhere are lost by all threads alike, and one of
them is, if some thread held them. -/
theorem lost {caps : Capabilities} {after : Session κ} (agreed : session.Agreed caps)
    {points : List EncodedPoint} {kind : PointKind} (kinds : ∀ point ∈ points, point.kind = kind)
    (installed : session.isInstalled points = true)
    (dropped : ∀ thread ∈ session.threads, ∀ bank, after.tableOf caps thread bank =
      points.foldl (SlotTable.dropFrom bank) (session.tableOf caps thread bank)) :
    ∃ removed : Multiset EncodedPoint, removed ≤ ↑points ∧ removed ≠ 0 ∧
      ∀ thread ∈ session.threads, session.held thread = removed + after.held thread := by
  obtain ⟨first, rest, rfl⟩ : ∃ first rest, points = first :: rest := by
    cases points with
    | nil => cases installed
    | cons first rest => exact ⟨first, rest, rfl⟩
  obtain ⟨leader, listed, found⟩ := agreed.exists_holder installed
  have sorted : ∀ point ∈ first :: rest, point.kind.bank = kind.bank :=
    fun point member => congrArg PointKind.bank (kinds point member)
  rw [sorted first List.mem_cons_self] at found
  obtain ⟨removed, few, split, held⟩ :=
    SlotTable.contents_foldl_dropFrom (agreed.sound.tablesKept caps leader kind.bank) sorted
  refine ⟨removed, few, fun none => ?_, fun thread tracked => ?_⟩
  · exact Multiset.notMem_zero first (none ▸ held first rfl found)
  · have others : ∀ bank, kind.bank ≠ bank → ∀ point ∈ first :: rest, point.kind.bank ≠ bank :=
      fun bank apart point member => sorted point member ▸ apart
    rw [held_eq_tableOf session caps, held_eq_tableOf after caps, dropped thread tracked,
      dropped thread tracked, agreed.same thread tracked leader listed]
    cases bank : kind.bank with
    | breakpoints =>
        rw [bank] at split others
        rw [SlotTable.foldl_dropFrom_of_ne (others .watchpoints (by decide)), split, add_assoc]
    | watchpoints =>
        rw [bank] at split others
        rw [SlotTable.foldl_dropFrom_of_ne (others .breakpoints (by decide)), split]
        ac_rfl

theorem insertDemand
    (deferred : session.capabilities.1.interface = .registerArray ∨
      session.capabilities.1.interface = .unavailable)
    (agreed : session.capabilities.2.Agreed session.capabilities.1) (demand : Demand) :
    (session.insertDemand demand).2.Agreed session.capabilities.1 := by
  have process := insertDemand_sameProcess session demand
  have sound := insertDemand_keeps (keptByChanges_sound session.capabilities.1) agreed.sound demand
  have bare (nothing : session.capabilities.1.interface = .unavailable) :
      (session.insertDemand demand).2.sets.toList = [] := by
    rw [insertDemand_of_unavailable nothing]
    exact agreed.bare nothing
  rcases tableOf_insertDemand deferred agreed.sound demand with same | ⟨points, _, added⟩
  · exact agreed.change (fun _ table => table) sound process.threads bare
      fun thread _ bank => congrFun (congrFun same thread) bank
  · exact agreed.change (fun bank table => points.foldl (SlotTable.addTo bank) table) sound
      process.threads bare added

theorem removeDemand
    (deferred : session.capabilities.1.interface = .registerArray ∨
      session.capabilities.1.interface = .unavailable)
    (agreed : session.capabilities.2.Agreed session.capabilities.1) (demand : Demand) :
    (session.removeDemand demand).2.Agreed session.capabilities.1 := by
  have process := removeDemand_sameProcess session demand
  have sound := removeDemand_keeps (keptByChanges_sound session.capabilities.1) agreed.sound demand
  have bare (nothing : session.capabilities.1.interface = .unavailable) :
      (session.removeDemand demand).2.sets.toList = [] := by
    rw [removeDemand_of_unavailable nothing]
    exact agreed.bare nothing
  obtain ⟨points, dropped⟩ := tableOf_removeDemand deferred agreed.sound demand
  exact agreed.change (fun bank table => points.foldl (SlotTable.dropFrom bank) table) sound
    process.threads bare dropped

theorem addThread
    (deferred : session.capabilities.1.interface = .registerArray ∨
      session.capabilities.1.interface = .unavailable)
    (agreed : session.capabilities.2.Agreed session.capabilities.1) (thread : ThreadId) :
    (session.addThread thread).2.Agreed session.capabilities.1 := by
  have announced : (session.announce thread).Agreed session.capabilities.1 := agreed.congr rfl rfl
  have shown : ∀ {after : Session κ}, (after.follow thread).Agreed session.capabilities.1 →
      ((after.follow thread).showRegisters "new thread").Agreed session.capabilities.1 :=
    fun kept => kept.congr (sameTables_showRegisters _ _).sets (sameTables_showRegisters _ _).threads
  rw [addThread_eq]
  rcases deferred with arrays | unavailable
  · cases pattern : session.pattern? thread with
    | none =>
        simp only [equip, arrays]
        exact shown (announced.alone (.inl pattern))
    | some model =>
        have member : model ∈ (session.announce thread).sets.toList :=
          mem_of_pattern? pattern
        have tables : ∀ bank,
            (ThreadPoints.inherit thread model).markAllDirty.table bank = model.table bank :=
          fun bank => by rw [ThreadPoints.table_markAllDirty, ThreadPoints.table_inherit]
        simp only [equip, arrays]
        refine shown (announced.copy member rfl tables fun unavailable => ?_)
        rw [arrays] at unavailable
        cases unavailable
  · have nothing : equip session.capabilities.1 (session.announce thread) thread
        (session.pattern? thread) = (.ok (), session.announce thread) := by
      cases session.pattern? thread <;> simp only [equip, unavailable]
    rw [nothing]
    exact shown (announced.alone (.inr unavailable))

theorem inserted {demand : Demand} {after : Session κ}
    (agreed : session.capabilities.2.Agreed session.capabilities.1)
    (done : session.insertDemand demand = (.ok (), after)) :
    ∃ points ≠ [], Serves session.capabilities.1 session.restriction.table? demand points ∧
      ∀ thread ∈ session.threads, after.held thread = ↑points + session.held thread := by
  rcases insertDemand_cases session demand with ⟨error, refused⟩ | ⟨notice, points, serves, begun⟩
  · rw [refused] at done
    cases done
  · have told : (session.capabilities.2.notify notice).Agreed session.capabilities.1 :=
      agreed.congr rfl rfl
    obtain ⟨kind, some, _⟩ := serves.shape
    rw [begun] at done
    exact ⟨points, some, serves, fun thread tracked => insertPoints_ok told.sound done tracked⟩

theorem removed
    (deferred : session.capabilities.1.interface = .registerArray ∨
      session.capabilities.1.interface = .unavailable)
    {demand : Demand} {after : Session κ}
    (agreed : session.capabilities.2.Agreed session.capabilities.1)
    (done : session.removeDemand demand = (.ok (), after)) :
    ∃ points, ∃ removed : Multiset EncodedPoint,
      Serves session.capabilities.1 session.restriction.table? demand points ∧
      removed ≤ ↑points ∧ removed ≠ 0 ∧
      ∀ thread ∈ session.threads, session.held thread = removed + after.held thread := by
  rcases removeDemand_cases session demand with
    ⟨error, refused⟩ | ⟨points, serves, installed, begun⟩
  · rw [refused] at done
    cases done
  · have told : (session.capabilities.2.notify demand.removalNotice).Agreed session.capabilities.1 :=
      agreed.congr rfl rfl
    obtain ⟨final, given, tables⟩ := tableOf_removePoints deferred told.sound.distinct points
    rw [begun, given] at done
    cases done
    obtain ⟨kind, _, kinds⟩ := serves.shape
    obtain ⟨removed, few, some, lost⟩ := told.lost kinds installed tables
    exact ⟨points, removed, serves, few, some, lost⟩

theorem failed
    (deferred : session.capabilities.1.interface = .registerArray ∨
      session.capabilities.1.interface = .unavailable)
    {demand : Demand} {error : PointError} {after : Session κ}
    (agreed : session.capabilities.2.Agreed session.capabilities.1)
    (failed : session.insertDemand demand = (.error error, after) ∨
      session.removeDemand demand = (.error error, after)) :
    after.tableOf session.capabilities.1 =
      session.capabilities.2.tableOf session.capabilities.1 := by
  have told : ∀ notice, (session.capabilities.2.notify notice).Agreed session.capabilities.1 :=
    fun _ => agreed.congr rfl rfl
  rcases failed with failed | failed
  · rcases insertDemand_cases session demand with ⟨cause, refused⟩ | ⟨notice, points, _, begun⟩
    · rw [refused] at failed
      cases failed
      rfl
    · rw [begun] at failed
      exact ((brokenOff_of_insertPoints failed).tableOf_eq deferred
        ((told notice).sound.tablesKept _)).trans (tableOf_congr rfl _)
  · rcases removeDemand_cases session demand with
      ⟨cause, refused⟩ | ⟨points, _, _, begun⟩
    · rw [refused] at failed
      cases failed
      rfl
    · obtain ⟨final, given, _⟩ := tableOf_removePoints deferred (told demand.removalNotice).sound.distinct points
      rw [begun, given] at failed
      cases failed

end Operations

/-- With register arrays, no operation makes threads differ. -/
theorem keptOnceKnown {κ : Type} [Kernel κ] :
    KeptOnceKnown fun (caps : Capabilities) (session : Session κ) =>
      caps.interface = .registerArray ∨ caps.interface = .unavailable → session.Agreed caps where
  congr kept sets threads deferred := (kept deferred).congr sets threads
  bare sound bare _ := by
    refine ⟨sound, fun first _ second _ => ?_, fun _ => bare⟩
    funext bank
    rw [tableOf_of_bare bare, tableOf_of_bare bare]
  insertDemand _ kept demand deferred := (kept deferred).insertDemand deferred demand
  removeDemand _ kept demand deferred := (kept deferred).removeDemand deferred demand
  addThread _ kept thread deferred := (kept deferred).addThread deferred thread
  prepareToResume kept thread deferred := (keptByResuming _).prepareToResume (kept deferred) thread
  forget kept thread deferred := (kept deferred).forget thread

end Agreed

/-- The sets belong to different tracked threads and have the same tables, and as
long as a tracked thread has none, nothing is installed. An insertion reaches all
tracked threads, as does a removal, or it changes no table. -/
structure Unanimous {κ : Type} [Kernel κ] (session : Session κ) : Prop where
  unique : (session.sets.toList.map ThreadPoints.thread).Nodup
  tracked : ∀ points ∈ session.sets.toList, points.thread ∈ session.threads
  alike : ∀ first ∈ session.sets.toList, ∀ second ∈ session.sets.toList, ∀ bank,
    first.table bank = second.table bank
  bare : ∀ thread ∈ session.threads, session.sets.get? thread = none →
    ∀ points ∈ session.sets.toList, ∀ bank, ∀ slot ∈ (points.table bank).slots, slot = .free
  inserted {demand : Demand} {after : Session κ}
    (done : session.insertDemand demand = (.ok (), after)) :
    ∃ points ≠ [], Serves session.capabilities.1 session.restriction.table? demand points ∧
      ∀ thread ∈ session.threads, after.held thread = ↑points + session.held thread
  removed {demand : Demand} {after : Session κ}
    (done : session.removeDemand demand = (.ok (), after)) :
    ∃ points, ∃ removed : Multiset EncodedPoint,
      Serves session.capabilities.1 session.restriction.table? demand points ∧
      removed ≤ ↑points ∧ removed ≠ 0 ∧
      ∀ thread ∈ session.threads, session.held thread = removed + after.held thread
  failed {demand : Demand} {error : PointError} {after : Session κ}
    (failed : session.insertDemand demand = (.error error, after) ∨
      session.removeDemand demand = (.error error, after)) :
    after.tableOf session.capabilities.1 = session.tableOf session.capabilities.1

theorem Agreed.unanimous {κ : Type} [Kernel κ] {session : Session κ}
    (deferred : session.capabilities.1.interface = .registerArray ∨
      session.capabilities.1.interface = .unavailable)
    (agreed : session.Agreed session.capabilities.1) : session.Unanimous := by
  have probed : session.capabilities.2.Agreed session.capabilities.1 := agreed.congr rfl rfl
  have listed := fun points member => agreed.sound.tracked points member
  refine ⟨agreed.sound.unique, listed, fun first there second also bank => ?_,
    fun thread tracked absent points member bank slot there => ?_, probed.inserted,
    probed.removed deferred,
    fun failed => (probed.failed deferred failed).trans (tableOf_congr rfl _)⟩
  · rw [agreed.table_eq there, agreed.table_eq also, agreed.same _ (listed _ there) _ (listed _ also)]
  · rw [agreed.table_eq member, agreed.same _ (listed _ member) _ tracked,
      tableOf_of_none absent] at there
    exact List.eq_of_mem_replicate there

/-- On any kernel with register arrays all threads agree, however the operations on a
session follow each other and whichever of the kernel's calls fail. -/
theorem threads_agree {κ : Type} [Kernel κ] {kernel : κ} {leader : ThreadId} {settings : Settings}
    {capabilities? : Option Capabilities} {session : Session κ}
    (reached : Reaches (.start kernel leader settings capabilities?) session)
    (deferred : session.capabilities.1.interface = .registerArray ∨
      session.capabilities.1.interface = .unavailable) : session.Unanimous := by
  have kept := Agreed.keptOnceKnown.reached reached
    (Agreed.keptOnceKnown.start kernel leader settings capabilities?)
  have probed := (Agreed.keptOnceKnown.probed kept).2 deferred
  have agreed : session.Agreed session.capabilities.1 := probed.congr rfl rfl
  exact agreed.unanimous deferred

/-- A watch over two windows is put on three threads, one of which exits, and another
is announced again. For a second watch the last thread is stopped once, for the first
window, and cannot be stopped again for the second. -/
theorem threads_agree_second_pause :
    let kernel : ScriptedKernel SimulatedKernel := ⟨.withArrays 2 4, []⟩
    let started : Session (ScriptedKernel SimulatedKernel) := .start kernel ⟨1⟩ .standard none
    let watched := ((started.addThread ⟨2⟩).2.addThread ⟨3⟩).2.insertDemand
      (.plain ⟨.write, ⟨0x1004⟩, 8, 0, none⟩)
    let arranged := ((watched.2.removeThread ⟨3⟩).addThread ⟨1⟩).2
    let session := { arranged with
      kernel := { arranged.kernel with script := [none, none, none, some (.os 3)] } }
    let outcome := session.insertDemand (.plain ⟨.read, ⟨0x2004⟩, 8, 0, none⟩)
    watched.1 = .ok () ∧ session.sets.toList.map ThreadPoints.thread = [⟨2⟩, ⟨1⟩] ∧
    session.Unanimous ∧ outcome.1 = .error (.kernel .pause ⟨2⟩ (.os 3)) ∧
    outcome.2.tableOf session.capabilities.1 = session.tableOf session.capabilities.1 := by
  intro kernel started watched arranged session outcome
  have early : Reaches started watched.2 :=
    ((Reaches.start.addThread ⟨2⟩).addThread ⟨3⟩).insertDemand _
  have late : Reaches started arranged := (early.removeThread ⟨3⟩).addThread ⟨1⟩
  have reached : Reaches started session := late.outside session.kernel arranged.notices
  have unanimous : session.Unanimous := threads_agree reached (.inl (by decide))
  have refused : outcome.1 = .error (.kernel .pause ⟨2⟩ (.os 3)) := by decide
  have failed : outcome = (outcome.1, outcome.2) := Prod.mk.eta.symm
  rw [refused] at failed
  exact ⟨by decide, by decide, unanimous, refused, unanimous.failed (.inl failed)⟩

end Session

end DebugRegisters
