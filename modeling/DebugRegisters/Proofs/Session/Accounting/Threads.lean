import DebugRegisters.Proofs.Session.Accounting.Steps
import DebugRegisters.Proofs.Session.WriteBack.Steps

/-!
# Balanced accounts on threads that come, go and resume

A new thread copies the points of one that is tracked, or there are none to
copy. A thread that resumes has its banks written, and at most once all
watchpoints are restricted, which is what encoding the demands again does too.
-/

set_option autoImplicit false

namespace DebugRegisters

namespace ThreadPoints

theorem contents_of_copies {thread : ThreadId} {pattern points : ThreadPoints}
    (copied : Session.Copies thread pattern points) : points.contents = pattern.contents := by
  unfold contents
  rw [(copied.tables .breakpoints).contents, (copied.tables .watchpoints).contents]

theorem IsKept.copies {thread : ThreadId} {pattern points : ThreadPoints}
    (kept : pattern.IsKept) (copied : Session.Copies thread pattern points) : points.IsKept :=
  fun bank => (copied.tables bank).kept bank (kept bank)

variable {points : ThreadPoints}

theorem contents_clearDirty (points : ThreadPoints) (bank : RegisterBank) :
    (points.clearDirty bank).contents = points.contents := by
  simp only [contents, table_clearDirty]

theorem contents_restrict (kept : points.IsKept) (table : MaskTable) :
    (points.restrict table).contents = points.contents.map table.restrictWatch := by
  have sorted : ∀ bank, ∀ point ∈ (points.table bank).contents, point.kind.bank = bank :=
    fun bank point member => SlotTable.bank_of_mem_contents (kept bank) member
  have breakpoints : (points.table .breakpoints).contents.map table.restrictWatch =
      (points.table .breakpoints).contents := by
    refine (Multiset.map_congr rfl fun point member => ?_).trans (Multiset.map_id _)
    exact table.restrictWatch_of_breakpoints (sorted .breakpoints point member)
  have watchpoints : (points.table .watchpoints).contents.map table.restrictWatch =
      (points.table .watchpoints).contents.map table.restrict :=
    Multiset.map_congr rfl fun point member =>
      (table.restrict_eq_restrictWatch (sorted .watchpoints point member)).symm
  unfold contents
  rw [table_restrict_breakpoints, table_restrict_watchpoints, SlotTable.contents_mapPoints,
    Multiset.map_add, breakpoints, watchpoints]

theorem IsKept.restrict (kept : points.IsKept) (table : MaskTable) :
    (points.restrict table).IsKept := by
  intro bank
  cases bank with
  | breakpoints =>
      rw [table_restrict_breakpoints]
      exact kept .breakpoints
  | watchpoints =>
      rw [table_restrict_watchpoints]
      refine (kept .watchpoints).mapPoints fun point => ?_
      obtain ⟨span, same⟩ := table.restrict_eq point
      rw [same]

end ThreadPoints

namespace Session

variable {κ : Type} {session after : Session κ} {thread other : ThreadId}

theorem mem_follow :
    other ∈ (session.follow thread).threads ↔ other ∈ session.threads ∨ other = thread := by
  unfold follow
  split
  · next there =>
      constructor
      · exact .inl
      · rintro (tracked | rfl)
        · exact tracked
        · exact there
  · rw [List.mem_append, List.mem_singleton]

theorem sets_follow (session : Session κ) (thread : ThreadId) :
    (session.follow thread).sets = session.sets := by
  unfold follow
  split <;> rfl

theorem restriction_follow (session : Session κ) (thread : ThreadId) :
    (session.follow thread).restriction = session.restriction := by
  unfold follow
  split <;> rfl

theorem distinct_follow (distinct : session.threads.Nodup) :
    (session.follow thread).threads.Nodup := by
  unfold follow
  split
  · exact distinct
  · next fresh =>
      refine List.nodup_append.mpr ⟨distinct, List.nodup_singleton _, fun first member last added => ?_⟩
      rw [List.mem_singleton.mp added]
      exact fun same => fresh (same ▸ member)

theorem Sound.get?_of_untracked (sound : session.Sound) (untracked : thread ∉ session.threads) :
    session.sets.get? thread = none := by
  cases found : session.sets.get? thread with
  | none => rfl
  | some points =>
      have tracked := sound.tracked.get? found
      rw [ThreadSets.thread_of_get? found] at tracked
      exact absurd tracked untracked

theorem Sound.held_of_untracked (sound : session.Sound) (untracked : thread ∉ session.threads) :
    session.held thread = 0 := by
  simp only [held, sound.get?_of_untracked untracked]

theorem Sound.follow (sound : session.Sound) : (session.follow thread).Sound where
  kept := sets_follow session thread ▸ sound.kept
  tracked := by
    rw [sets_follow]
    exact fun points member => mem_follow.mpr (.inl (sound.tracked points member))
  unique := sets_follow session thread ▸ sound.unique
  distinct := distinct_follow sound.distinct

theorem Sound.adopt (sound : session.Sound) {points : ThreadPoints}
    (named : points.thread = thread) (kept : points.IsKept) :
    (Session.follow { session with sets := session.sets.insert points } thread).Sound where
  kept := by
    rw [sets_follow]
    exact sound.kept.insert kept
  tracked := by
    rw [sets_follow]
    intro set member
    rcases List.mem_append.mp member with before | last
    · exact mem_follow.mpr (.inl (sound.tracked set (List.mem_filter.mp before).1))
    · rw [List.mem_singleton.mp last, named]
      exact mem_follow.mpr (.inr rfl)
  unique := by
    rw [sets_follow]
    have others : ((session.sets.erase points.thread).toList.map ThreadPoints.thread).Nodup :=
      sound.unique.sublist (List.filter_sublist.map _)
    have missing : points.thread ∉
        (session.sets.erase points.thread).toList.map ThreadPoints.thread := by
      intro member
      obtain ⟨set, there, same⟩ := List.mem_map.mp member
      have different := (List.mem_filter.mp there).2
      exact absurd same (by simpa using different)
    unfold ThreadSets.insert
    rw [List.map_append, List.nodup_append]
    refine ⟨others, List.nodup_singleton _, fun first member last added same => ?_⟩
    rw [List.map_singleton, List.mem_singleton] at added
    rw [same.trans added] at member
    exact missing member
  distinct := by
    have distinct : (Session.threads { session with sets := session.sets.insert points }).Nodup :=
      sound.distinct
    exact distinct_follow distinct

theorem Sound.forget (sound : session.Sound) (thread : ThreadId) : (session.forget thread).Sound where
  kept := sound.kept.erase thread
  tracked points member := by
    obtain ⟨there, different⟩ := List.mem_filter.mp member
    exact List.mem_filter.mpr ⟨sound.tracked points there, different⟩
  unique := sound.unique.sublist (List.filter_sublist.map _)
  distinct := sound.distinct.sublist List.filter_sublist

theorem Sound.markWritten (sound : session.Sound) (thread : ThreadId) (bank : RegisterBank) :
    (session.markWritten thread bank).Sound := by
  have cleared : Sound { session with
      sets := session.sets.update thread fun points => points.clearDirty bank } := by
    refine sound.update (fun points => ThreadPoints.thread_clearDirty points bank) ?_
    intro points _ kept other
    rw [ThreadPoints.table_clearDirty]
    exact kept other
  exact cleared.congr rfl rfl

theorem Sound.restrictTo (sound : session.Sound) (restriction : Restriction) :
    (session.restrictTo restriction).Sound := by
  have keepsThread : ∀ points : ThreadPoints,
      (points.restrict restriction.table).thread = points.thread := fun points =>
    ThreadPoints.thread_restrict points restriction.table
  have names : (session.sets.map fun points => points.restrict restriction.table).toList.map
      ThreadPoints.thread = session.sets.toList.map ThreadPoints.thread := by
    unfold ThreadSets.map
    rw [List.map_map]
    exact List.map_congr_left fun points _ => keepsThread points
  have restricted :
      { session with sets := session.sets.map fun points => points.restrict restriction.table }.Sound :=
    ⟨sound.kept.map fun points kept => kept.restrict restriction.table,
      sound.tracked.map fun points listed => (keepsThread points).symm ▸ listed,
      names.symm ▸ sound.unique, sound.distinct⟩
  refine restricted.congr (sets_restrictTo session restriction) ?_
  unfold Session.restrictTo showRegisters
  dsimp only
  split <;> rfl

section Arriving

variable [Kernel κ]

theorem restriction_addThread (session : Session κ) (thread : ThreadId) :
    (session.addThread thread).2.restriction = session.restriction := by
  have arrived := arrives session thread
  generalize session.addThread thread = outcome at arrived
  cases arrived with
  | refused tables => exact tables.restriction
  | bare tables nothing followed =>
      exact followed.restriction.trans ((restriction_follow _ thread).trans tables.restriction)
  | copied tables given copied followed =>
      exact followed.restriction.trans ((restriction_follow _ thread).trans tables.restriction)

theorem mem_addThread_of_mem (thread : ThreadId) (tracked : other ∈ session.threads) :
    other ∈ (session.addThread thread).2.threads := by
  have arrived := arrives session thread
  generalize session.addThread thread = outcome at arrived
  cases arrived with
  | refused tables => exact tables.threads ▸ tracked
  | bare tables nothing followed =>
      exact followed.threads ▸ mem_follow.mpr (.inl (tables.threads ▸ tracked))
  | copied tables given copied followed =>
      exact followed.threads ▸ mem_follow.mpr (.inl (tables.threads ▸ tracked))

theorem mem_of_mem_addThread (member : other ∈ (session.addThread thread).2.threads) :
    other ∈ session.threads ∨ other = thread := by
  have arrived := arrives session thread
  generalize session.addThread thread = outcome at arrived member
  cases arrived with
  | refused tables => exact .inl (tables.threads ▸ member)
  | bare tables nothing followed =>
      rw [followed.threads] at member
      exact (mem_follow.mp member).imp_left fun there => tables.threads ▸ there
  | copied tables given copied followed =>
      rw [followed.threads] at member
      exact (mem_follow.mp member).imp_left fun there => tables.threads ▸ there

theorem Sound.addThread (sound : session.capabilities.2.Sound) (thread : ThreadId) :
    (session.addThread thread).2.Sound := by
  have arrived := arrives session thread
  generalize session.addThread thread = outcome at arrived
  cases arrived with
  | refused tables => exact tables.sound sound
  | bare tables nothing followed => exact followed.sound (tables.sound sound).follow
  | @copied before _ model points tables given copied followed =>
      have middle : before.Sound := tables.sound sound
      have kept := (sound.kept model (mem_of_pattern? given)).copies copied
      exact followed.sound (middle.adopt copied.thread kept)

omit [Kernel κ] in
/-- Without a pattern for a new thread, no thread has points. -/
theorem held_of_patternless (sound : session.Sound) (untracked : thread ∉ session.threads)
    (patternless : session.pattern? thread = none) (other : ThreadId) : session.held other = 0 := by
  have bare : session.sets.last? = none := by
    cases last : session.sets.last? with
    | none => rfl
    | some points =>
        have own : points.thread = thread := by
          simpa [pattern?, last] using patternless
        exact absurd (own ▸ sound.tracked.last? last) untracked
  have empty : session.sets.toList = [] := List.getLast?_eq_none_iff.mp bare
  simp [held, ThreadSets.get?, empty]

/-- Where all threads hold the same, a new one does so too. -/
theorem held_addThread (sound : session.Sound) {total : Multiset EncodedPoint}
    (holds : ∀ thread ∈ session.threads, session.held thread = total)
    (nothing : session.threads = [] ∨ session.capabilities.1.interface = .unavailable → total = 0)
    (member : other ∈ (session.addThread thread).2.threads) :
    (session.addThread thread).2.held other = total := by
  have tracked := mem_of_mem_addThread member
  have arrived := arrives session thread
  generalize session.addThread thread = outcome at arrived member
  cases arrived with
  | refused tables =>
      rw [held_congr tables.sets]
      exact holds other (tables.threads ▸ member)
  | @bare before _ tables empty followed =>
      rw [held_congr (followed.sets.trans (sets_follow before thread)), held_congr tables.sets]
      by_cases there : other ∈ session.threads
      · exact holds other there
      · obtain rfl := tracked.resolve_left there
        change session.held other = total
        rw [sound.held_of_untracked there]
        rcases empty with patternless | unavailable
        · cases threads : session.threads with
          | nil => exact (nothing (.inl threads)).symm
          | cons first rest =>
              rw [← holds first (threads ▸ List.mem_cons_self)]
              exact (held_of_patternless sound there patternless first).symm
        · exact (nothing (.inr unavailable)).symm
  | @copied before _ model points tables given copied followed =>
      rw [held_congr (followed.sets.trans (sets_follow _ thread))]
      have named : points.thread = thread := copied.thread
      by_cases here : other = thread
      · subst here
        have found : session.sets.get? model.thread = some model :=
          sound.get?_of_mem (mem_of_pattern? given)
        have lookup : (before.sets.insert points).get? other = some points :=
          named ▸ ThreadSets.get?_insert_self before.sets points
        have copies : held { before with sets := before.sets.insert points } other =
            points.contents := held_of_get? lookup
        rw [copies, ThreadPoints.contents_of_copies copied, ← held_of_get? found]
        exact holds model.thread (sound.tracked model (mem_of_pattern? given))
      · have lookup := ThreadSets.get?_insert_of_ne before.sets points (named ▸ here)
        have same : held { before with sets := before.sets.insert points } other =
            session.held other := by
          simp only [held, lookup]
          rw [tables.sets]
          rfl
        rw [same]
        exact holds other (tracked.resolve_right here)

end Arriving

namespace Balanced

variable {caps : Capabilities} {outstanding : List Demand}

theorem addThread [Kernel κ]
    (balanced : session.capabilities.2.Balanced session.capabilities.1 outstanding)
    (thread : ThreadId) :
    (session.addThread thread).2.Balanced session.capabilities.1 outstanding := by
  obtain ⟨total, ledger, holds⟩ := balanced.ledger
  obtain ⟨first, tracked⟩ := List.exists_mem_of_ne_nil _ balanced.inhabited
  have sound : session.Sound := balanced.sound.congr rfl rfl
  have stays : first ∈ (session.addThread thread).2.threads := mem_addThread_of_mem thread tracked
  refine ⟨balanced.sound.addThread thread, List.ne_nil_of_mem stays, total, ?_, fun other member => ?_⟩
  · rw [restriction_addThread]
    exact ledger
  · refine held_addThread sound holds (fun nothing => ?_) member
    rcases nothing with empty | unavailable
    · exact absurd empty balanced.inhabited
    · exact (ledger.eq_nil_of_unavailable unavailable).2

/-- A thread that exits takes its points with it, as long as another stays. -/
theorem removeThread [Kernel κ] (balanced : session.Balanced caps outstanding)
    (stays : ∃ other ∈ session.threads, other ≠ thread) :
    (session.removeThread thread).Balanced caps outstanding := by
  obtain ⟨total, ledger, holds⟩ := balanced.ledger
  have forgotten : (session.forget thread).Balanced caps outstanding := by
    refine ⟨balanced.sound.forget thread, ?_, total, ledger, fun other member => ?_⟩
    · obtain ⟨other, tracked, different⟩ := stays
      exact List.ne_nil_of_mem (List.mem_filter.mpr ⟨tracked, by simpa using different⟩)
    · obtain ⟨tracked, apart⟩ := List.mem_filter.mp member
      have different : other ≠ thread := by simpa using apart
      have lookup := ThreadSets.get?_erase_of_ne session.sets different
      have same : (session.forget thread).held other = session.held other := by
        simp only [held, Session.forget, lookup]
      rw [same]
      exact holds other tracked
  exact forgotten.sameTables (removeThread_sameTables session thread)

section Resuming

variable [Kernel κ] {bank : RegisterBank}

theorem attempt (balanced : session.Balanced caps outstanding) {outcome : Outcome κ Unit}
    (attempted : Attempts session thread bank outcome) : outcome.2.Balanced caps outstanding := by
  cases attempted with
  | failed wrote => exact balanced.sameTables ⟨⟨rfl, rfl, rfl, rfl, rfl⟩, rfl, rfl⟩
  | @written kernel wrote =>
      obtain ⟨total, ledger, holds⟩ := balanced.ledger
      have failed : { session with kernel }.Sound := balanced.sound.congr rfl rfl
      refine ⟨failed.markWritten thread bank, balanced.inhabited, total, ledger,
        fun other tracked => ?_⟩
      have same : Session.held ({ session with kernel }.markWritten thread bank) = session.held :=
        held_update (fun points => ThreadPoints.thread_clearDirty points bank)
          (fun points => points.contents_clearDirty bank) session thread
      rw [same]
      exact holds other tracked

omit [Kernel κ] in
/-- Going over to the mask table restricts what all threads hold and what the
demands come to in the same way. -/
theorem restrictTo {architecture : Architecture} {first second : Option UInt32}
    (balanced : session.Balanced (.ofInfoWords architecture first second) outstanding)
    (capable : session.restriction.state = .capable)
    (valid : session.restriction.table.IsValid) :
    (session.restrictTo { session.restriction with state := .degraded }).Balanced
      (.ofInfoWords architecture first second) outstanding := by
  obtain ⟨total, ledger, holds⟩ := balanced.ledger
  let restriction : Restriction := { session.restriction with state := .degraded }
  have shown := sameProcess_showRegisters
    { session.notify (.degraded restriction.table) with
      restriction
      sets := session.sets.map fun points => points.restrict restriction.table } "degrade"
  refine ⟨balanced.sound.restrictTo restriction, shown.threads ▸ balanced.inhabited,
    total.map session.restriction.table.restrictWatch, ?_, fun thread tracked => ?_⟩
  · have free : session.restriction.table? = none := by
      unfold Restriction.table?
      rw [capable]
    rw [free] at ledger
    have served := ledger.restrict valid
    exact shown.restriction ▸ served
  · have lookup : (session.restrictTo restriction).sets.get? thread =
        (session.sets.get? thread).map fun points => points.restrict restriction.table := by
      rw [sets_restrictTo]
      exact ThreadSets.get?_map (fun points => ThreadPoints.thread_restrict points _) session.sets
        thread
    rw [← holds thread (shown.threads ▸ tracked)]
    unfold held
    rw [lookup]
    cases found : session.sets.get? thread with
    | none => rfl
    | some points =>
        exact ThreadPoints.contents_restrict (balanced.sound.kept.get? found) restriction.table

theorem flushBank {architecture : Architecture} {first second : Option UInt32}
    (balanced : session.Balanced (.ofInfoWords architecture first second) outstanding)
    (valid : session.restriction.table.IsValid) (thread : ThreadId) (bank : RegisterBank) :
    (session.flushBank thread bank).2.Balanced (.ofInfoWords architecture first second)
      outstanding := by
  have flushed := flushes session thread bank
  generalize session.flushBank thread bank = outcome at flushed
  cases flushed with
  | clean => exact balanced
  | once dirty attempted => exact balanced.attempt attempted
  | @twice kernel _ dirty watched capable wrote attempted =>
      have failed : { session with kernel }.Balanced (.ofInfoWords architecture first second)
          outstanding := balanced.sameTables ⟨⟨rfl, rfl, rfl, rfl, rfl⟩, rfl, rfl⟩
      exact (failed.restrictTo capable valid).attempt attempted

theorem flushBanks {architecture : Architecture} {first second : Option UInt32}
    (balanced : session.Balanced (.ofInfoWords architecture first second) outstanding)
    (valid : session.restriction.table.IsValid) (thread : ThreadId) (banks : List RegisterBank) :
    (session.flushBanks thread banks).2.Balanced (.ofInfoWords architecture first second)
      outstanding := by
  induction banks generalizing session with
  | nil => exact balanced
  | cons bank rest ih =>
      have first := balanced.flushBank valid thread bank
      have table := (flushBank_basis session thread bank).1.table
      unfold Session.flushBanks
      split
      · next failed => rwa [failed] at first
      · next flushed answered =>
          rw [answered] at first table
          exact ih first (table ▸ valid)

theorem prepareToResume
    (words : session.capabilities.1.interface = .registerArray →
      ∃ architecture first second, session.capabilities.1 = .ofInfoWords architecture first second)
    (balanced : session.capabilities.2.Balanced session.capabilities.1 outstanding)
    (valid : session.restriction.table.IsValid) (thread : ThreadId) :
    (session.prepareToResume thread).2.Balanced session.capabilities.1 outstanding := by
  unfold Session.prepareToResume
  dsimp only
  split
  · next arrays =>
      obtain ⟨architecture, first, second, found⟩ := words arrays
      rw [found] at balanced ⊢
      exact balanced.flushBanks valid thread RegisterBank.all
  · exact balanced

end Resuming

end Balanced

end Session

end DebugRegisters
