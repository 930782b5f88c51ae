import DebugRegisters.Proofs.Session.Journal
import DebugRegisters.Proofs.Session.Steady
import DebugRegisters.Proofs.Session.Taking
import DebugRegisters.Proofs.SlotTable.Replacing

/-!
# Slots given up and taken again

A removal that is given up half way takes the points again that it has let go.
They get new registrations, and may get other slots, but nothing else happens to
slots and registrations. Two relations say so: one for a session some removals
later, and one for a session that has then gone back part of the way.
-/

set_option autoImplicit false

namespace DebugRegisters.Session

open SimulatedKernel

section Orderly

variable {κ : Type} {caps : Capabilities} {session after : Session κ} {placement : Placement}

def TablesOrderly (session : Session κ) (caps : Capabilities) : Prop :=
  ∀ thread bank, (session.tableOf caps thread bank).Orderly bank (caps.slots bank)

def share (placement : Placement) (thread : ThreadId) (bank : RegisterBank) : Multiset EncodedPoint :=
  if thread = placement.thread ∧ bank = placement.point.kind.bank then {placement.point} else 0

theorem share_self (placement : Placement) :
    share placement placement.thread placement.point.kind.bank = {placement.point} :=
  if_pos ⟨rfl, rfl⟩

theorem TablesOrderly.congr (orderly : session.TablesOrderly caps)
    (same : after.tableOf caps = session.tableOf caps) : after.TablesOrderly caps :=
  fun thread bank => same ▸ orderly thread bank

theorem TablesOrderly.puts {table : SlotTable} (orderly : session.TablesOrderly caps)
    (puts : session.Puts caps placement table after)
    (fine : table.Orderly placement.point.kind.bank (caps.slots placement.point.kind.bank)) :
    after.TablesOrderly caps := by
  intro thread bank
  by_cases here : thread = placement.thread ∧ bank = placement.point.kind.bank
  · obtain ⟨rfl, rfl⟩ := here
    exact puts.here ▸ fine
  · exact puts.elsewhere thread bank here ▸ orderly thread bank

variable [Kernel κ]

theorem TablesOrderly.install (orderly : session.TablesOrderly caps)
    (installed : install caps session placement = (.ok (), after)) : after.TablesOrderly caps := by
  obtain ⟨_, _, _, _, _, inserted, _, _, _, puts⟩ := install_ok installed
  exact orderly.puts puts (inserted.orderly (orderly _ _) rfl)

theorem TablesOrderly.uninstall (orderly : session.TablesOrderly caps)
    (given : uninstall caps session placement = (.ok true, after)) : after.TablesOrderly caps := by
  obtain ⟨_, _, _, _, removed, _, _, _, puts⟩ := uninstall_true given
  exact orderly.puts puts (removed.orderly (orderly _ _))

theorem contents_install (installed : Session.install caps session placement = (.ok (), after))
    (thread : ThreadId) (bank : RegisterBank) :
    (after.tableOf caps thread bank).contents =
      share placement thread bank + (session.tableOf caps thread bank).contents := by
  obtain ⟨_, _, _, _, _, inserted, _, _, _, puts⟩ := install_ok installed
  unfold share
  split
  · next here =>
      obtain ⟨rfl, rfl⟩ := here
      rw [puts.here, inserted.contents, Multiset.singleton_add]
  · next apart => rw [puts.elsewhere thread bank apart, zero_add]

theorem contents_uninstall (orderly : session.TablesOrderly caps)
    (given : Session.uninstall caps session placement = (.ok true, after)) (thread : ThreadId)
    (bank : RegisterBank) :
    (session.tableOf caps thread bank).contents =
      share placement thread bank + (after.tableOf caps thread bank).contents := by
  obtain ⟨_, _, _, _, removed, _, _, _, puts⟩ := uninstall_true given
  unfold share
  split
  · next here =>
      obtain ⟨rfl, rfl⟩ := here
      rw [puts.here, Multiset.singleton_add]
      exact removed.contents (orderly _ _).kept
  · next apart => rw [puts.elsewhere thread bank apart, zero_add]

end Orderly

section Slots

variable {κ : Type} {caps : Capabilities} {base now after : Session κ} {placement : Placement}
  {thread : ThreadId} {bank : RegisterBank} {index position : Nat} {change : Slot → Slot} {slot : Slot}

/-- A slot, and what becomes of it when one slot is changed. -/
theorem Puts.get?_after
    (puts : now.Puts caps placement ((now.target caps placement).modify index change) after)
    (there : (now.tableOf caps thread bank).get? position = some slot) :
    (after.tableOf caps thread bank).get? position = some slot ∨
      (after.tableOf caps thread bank).get? position = some (change slot) ∧
        (now.target caps placement).get? index = some slot := by
  by_cases here : thread = placement.thread ∧ bank = placement.point.kind.bank
  · obtain ⟨rfl, rfl⟩ := here
    rw [puts.here]
    by_cases same : position = index
    · subst same
      exact .inr ⟨by rw [SlotTable.get?_modify_self, there]; rfl, there⟩
    · exact .inl ((SlotTable.get?_modify_of_ne _ _ same).trans there)
  · rw [puts.elsewhere thread bank here]
    exact .inl there

end Slots

section Reports

variable {κ : Type} {points : List EncodedPoint} {base now after : Session κ} {thread : ThreadId}
  {index : Nat} {point : EncodedPoint}

def reportsSince (base now : Session κ) : List Notice :=
  now.notices.drop base.notices.length

theorem mem_reportsSince {reports : List Notice} {notice : Notice}
    (before : base.notices <+: now.notices) (told : after.notices = now.notices ++ reports)
    (member : notice ∈ reports) : notice ∈ base.reportsSince after := by
  unfold reportsSince
  rw [told, List.drop_append_of_le_length before.length_le]
  exact List.mem_append_right _ member

/-- A slot was given up, and one of the points with it. -/
def Freed (points : List EncodedPoint) (base now : Session κ) (thread : ThreadId) (index : Nat)
    (point : EncodedPoint) : Prop :=
  point ∈ points ∧ .slotReleased thread point ⟨index, true⟩ ∈ base.reportsSince now

theorem Freed.mono (freed : Freed points base now thread index point)
    (told : now.notices <+: after.notices) : Freed points base after thread index point :=
  ⟨freed.1, (told.drop _).subset freed.2⟩

end Reports

section Relations

variable {caps : Capabilities} {points : List EncodedPoint}
  {base session now after : Session SimulatedKernel} {placement : Placement}
  {fresh wider : ThreadId → Nat → Slot → Prop} {index : Nat} {slot : Slot}

/-- The slot that had a registration was given up with its point, and stands for
another registration now or for none. -/
def Surrenders (caps : Capabilities) (points : List EncodedPoint) (base now : Session SimulatedKernel)
    (thread : ThreadId) (number : Int) : Prop :=
  ∃ bank index before slot, (base.tableOf caps thread bank).get? index = some before ∧
    before.handle = some ⟨number⟩ ∧
    (∃ point, before.point = some point ∧ Freed points base now thread index point) ∧
    (now.tableOf caps thread bank).get? index = some slot ∧ slot.handle ≠ before.handle

theorem Surrenders.puts {thread : ThreadId} {number : Int} {change : Slot → Slot}
    (given : Surrenders caps points base now thread number)
    (puts : now.Puts caps placement ((now.target caps placement).modify index change) after)
    (told : now.notices <+: after.notices)
    (other : ∀ slot, (now.target caps placement).get? index = some slot →
      (change slot).handle = slot.handle ∨ (change slot).handle ≠ some ⟨number⟩) :
    Surrenders caps points base after thread number := by
  obtain ⟨bank, position, before, slot, found, kept, ⟨point, holds, freed⟩, there, different⟩ := given
  have released : ∃ point, before.point = some point ∧
      Freed points base after thread position point := ⟨point, holds, freed.mono told⟩
  rcases puts.get?_after there with same | ⟨changed, target⟩
  · exact ⟨bank, position, before, slot, found, kept, released, same, different⟩
  · refine ⟨bank, position, before, change slot, found, kept, released, changed, ?_⟩
    rcases other slot target with same | new
    · rwa [same]
    · rwa [kept]

/-- A slot was taken, and one of the points is there. With handles the slot stands
for a live registration of the point that was made since. -/
def Renewed (caps : Capabilities) (points : List EncodedPoint) (base now : Session SimulatedKernel)
    (thread : ThreadId) (index : Nat) (slot : Slot) : Prop :=
  ∃ point ∈ points, slot.point = some point ∧
    .slotHolds thread point ⟨index, true⟩ ∈ base.reportsSince now ∧
    (caps.interface = .handles → ∃ number, base.kernel.nextHandle ≤ number ∧
      slot.handle = some ⟨number⟩ ∧
      (number, ⟨point, .ofPoint point⟩) ∈ (now.kernel.threads thread).registrations)

theorem Renewed.mono {thread : ThreadId} (renewed : Renewed caps points base now thread index slot)
    (told : now.notices <+: after.notices)
    (more : (now.kernel.threads thread).registrations ⊆ (after.kernel.threads thread).registrations) :
    Renewed caps points base after thread index slot := by
  obtain ⟨point, ours, holds, taken, live⟩ := renewed
  refine ⟨point, ours, holds, (told.drop _).subset taken, fun handles => ?_⟩
  obtain ⟨number, new, kept, member⟩ := live handles
  exact ⟨number, new, kept, more member⟩

/-- Of `base`, only slots that held some of the points were given up, and some of
the free ones are `fresh` now. -/
structure Differs (caps : Capabilities) (points : List EncodedPoint)
    (fresh : ThreadId → Nat → Slot → Prop) (base now : Session SimulatedKernel) : Prop where
  told : base.notices <+: now.notices
  orderly : now.TablesOrderly caps
  slots : ∀ thread bank, SlotTable.Becomes (Freed points base now thread) (fresh thread)
    (base.tableOf caps thread bank) (now.tableOf caps thread bank)
  nextHandle_le : base.kernel.nextHandle ≤ now.kernel.nextHandle
  dropped : ∀ thread, ∀ entry ∈ (base.kernel.threads thread).registrations,
    entry ∈ (now.kernel.threads thread).registrations ∨
      Surrenders caps points base now thread entry.1

structure Reduces (caps : Capabilities) (points : List EncodedPoint)
    (base now : Session SimulatedKernel) : Prop
    extends Differs caps points (fun _ _ _ => False) base now where
  fewer : ∀ thread,
    (now.kernel.threads thread).registrations ⊆ (base.kernel.threads thread).registrations

structure Regains (caps : Capabilities) (points : List EncodedPoint)
    (base session now : Session SimulatedKernel) : Prop
    extends Differs caps points (Renewed caps points base now) base now where
  contents : ∀ thread bank,
    (now.tableOf caps thread bank).contents = (session.tableOf caps thread bank).contents
  added : ∀ thread, ∀ entry ∈ (now.kernel.threads thread).registrations,
    entry ∈ (base.kernel.threads thread).registrations ∨
      ∃ bank index slot, (now.tableOf caps thread bank).get? index = some slot ∧
        slot.handle = some ⟨entry.1⟩ ∧ slot.point = some entry.2.point ∧
        Renewed caps points base now thread index slot
  rewritten : ∀ thread, session.kernel.timesSet thread < now.kernel.timesSet thread →
    ∃ point ∈ points, point ∈ (now.tableOf caps thread point.kind.bank).contents ∧
      (now.kernel.threads thread).legacy =
        Power.dataBreakpointValue point.address point.kind caps.architecture.isBookE

/-- Slots stand to `base` as before where nothing but reports, references and
registrations is new, and so does a slot that was changed if it does. -/
theorem Differs.slots_puts {table : SlotTable} (differs : Differs caps points fresh base now)
    (puts : now.Puts caps placement table after) (told : now.notices <+: after.notices)
    (more : ∀ thread index slot, fresh thread index slot → wider thread index slot)
    (placed : SlotTable.Becomes (Freed points base after placement.thread) (wider placement.thread)
        (base.target caps placement) (now.target caps placement) →
      SlotTable.Becomes (Freed points base after placement.thread) (wider placement.thread)
        (base.target caps placement) table) (thread : ThreadId) (bank : RegisterBank) :
    SlotTable.Becomes (Freed points base after thread) (wider thread)
      (base.tableOf caps thread bank) (after.tableOf caps thread bank) := by
  have before : ∀ thread bank, SlotTable.Becomes (Freed points base after thread) (wider thread)
      (base.tableOf caps thread bank) (now.tableOf caps thread bank) := fun thread bank =>
    (differs.slots thread bank).mono (fun _ _ freed => freed.mono told) (more thread)
  by_cases here : thread = placement.thread ∧ bank = placement.point.kind.bank
  · obtain ⟨rfl, rfl⟩ := here
    exact puts.here ▸ placed (before _ _)
  · exact puts.elsewhere thread bank here ▸ before thread bank

theorem Differs.recount {count : Slot → Nat} (differs : Differs caps points fresh base now)
    (orderly : after.TablesOrderly caps)
    (there : (now.target caps placement).get? index = some slot)
    (holds : slot.point = some placement.point)
    (puts : now.Puts caps placement
      ((now.target caps placement).modify index fun slot => { slot with references := count slot })
      after)
    (told : now.notices <+: after.notices) (idle : now.kernel.Idles after.kernel)
    (more : ∀ thread index slot, fresh thread index slot → wider thread index slot)
    (loose : ∀ thread index slot references,
      wider thread index slot → wider thread index { slot with references }) :
    Differs caps points wider base after where
  told := differs.told.trans told
  orderly
  slots := differs.slots_puts puts told more fun becomes =>
    becomes.recount (loose _) index fun other found isFree => by
      rw [there] at found
      cases found
      rw [isFree] at holds
      cases holds
  nextHandle_le := idle.nextHandle ▸ differs.nextHandle_le
  dropped thread entry member := by
    rw [idle.threads]
    exact (differs.dropped thread entry member).imp_right fun given =>
      given.puts puts told fun _ _ => .inl rfl

theorem Differs.occupy {new : Slot} (differs : Differs caps points fresh base now)
    (numbered : base.kernel.IsNumbered) (orderly : after.TablesOrderly caps)
    (there : (now.target caps placement).get? index = some slot) (isFree : slot.point = none)
    (puts : now.Puts caps placement ((now.target caps placement).modify index fun _ => new) after)
    (told : now.notices <+: after.notices)
    (more : ∀ thread index slot, fresh thread index slot → wider thread index slot)
    (isFresh : wider placement.thread index new)
    (later : ∀ number, new.handle = some ⟨number⟩ → now.kernel.nextHandle ≤ number)
    (next : now.kernel.nextHandle ≤ after.kernel.nextHandle)
    (kept : ∀ thread,
      (now.kernel.threads thread).registrations ⊆ (after.kernel.threads thread).registrations) :
    Differs caps points wider base after where
  told := differs.told.trans told
  orderly
  slots := differs.slots_puts puts told more fun becomes =>
    becomes.replace there (fun point holds => by rw [isFree] at holds; cases holds) (.inr isFresh)
  nextHandle_le := Int.le_trans differs.nextHandle_le next
  dropped thread entry member := by
    refine (differs.dropped thread entry member).imp (fun live => kept thread live) fun given =>
      given.puts puts told fun _ _ => .inr fun same => ?_
    have low := numbered thread entry member
    have high := later entry.1 same
    have between := differs.nextHandle_le
    omega

section Reducing

theorem Reduces.refl (orderly : base.TablesOrderly caps) (points : List EncodedPoint) :
    Reduces caps points base base where
  told := List.prefix_rfl
  orderly
  slots _ _ := .refl _ _ _
  nextHandle_le := Int.le_refl _
  dropped _ _ member := .inl member
  fewer _ := List.Subset.refl _

/-- A slot becomes free, and at most its registration is dropped. -/
theorem Reduces.freed (reduced : Reduces caps points base now) (orderly : after.TablesOrderly caps)
    (there : (now.target caps placement).get? index = some slot)
    (holds : slot.point = some placement.point) (asked : placement.point ∈ points)
    (puts : now.Puts caps placement ((now.target caps placement).modify index fun _ => .free) after)
    (told : ∃ reports, after.notices = now.notices ++ (reports ++
      [.slotReleased placement.thread placement.point ⟨index, true⟩]))
    (next : after.kernel.nextHandle = now.kernel.nextHandle)
    (fewer : ∀ thread,
      (after.kernel.threads thread).registrations ⊆ (now.kernel.threads thread).registrations)
    (only : ∀ thread, ∀ entry ∈ (now.kernel.threads thread).registrations,
      entry ∈ (after.kernel.threads thread).registrations ∨
        thread = placement.thread ∧ slot.handle = some ⟨entry.1⟩) :
    Reduces caps points base after := by
  obtain ⟨reports, told⟩ := told
  have longer : now.notices <+: after.notices := told ▸ List.prefix_append _ _
  have freed : Freed points base after placement.thread index placement.point :=
    ⟨asked, mem_reportsSince reduced.told told (List.mem_append_right _ List.mem_cons_self)⟩
  refine ⟨⟨reduced.told.trans longer, orderly, ?_, next ▸ reduced.nextHandle_le, ?_⟩,
    fun thread _ live => reduced.fewer thread (fewer thread live)⟩
  · refine reduced.slots_puts puts longer (fun _ _ _ => id) fun becomes =>
      becomes.replace there (fun point same => ?_) (.inl rfl)
    rw [holds] at same
    cases same
    exact freed
  · intro thread entry member
    rcases reduced.dropped thread entry member with live | given
    · refine (only thread entry live).imp_right ?_
      rintro ⟨rfl, kept⟩
      obtain ⟨before, found, ⟨point, handle⟩ | ⟨_, isFree | isFresh⟩⟩ := reduced.slots _ _ _ slot there
      · refine ⟨_, index, before, .free, found, handle ▸ kept,
          ⟨_, point.symm.trans holds, freed⟩, ?_, ?_⟩
        · rw [puts.here, SlotTable.get?_modify_self, there]
          rfl
        · rw [← handle, kept]
          exact nofun
      · rw [isFree] at holds
        cases holds
      · exact isFresh.elim
    · exact .inr (given.puts puts longer fun _ _ => .inr nofun)

theorem Reduces.givesUp (reduced : Reduces caps points base now)
    (orderly : after.TablesOrderly caps) (asked : placement.point ∈ points)
    (given : now.GivesUp caps placement after) : Reduces caps points base after := by
  cases given with
  | left same there holds _ puts told =>
      obtain ⟨reports, told⟩ := told
      exact ⟨reduced.toDiffers.recount orderly there holds puts (told ▸ List.prefix_append _ _)
        (same ▸ .refl _) (fun _ _ _ => id) fun _ _ _ _ => id, fun thread => same ▸ reduced.fewer thread⟩
  | apart same _ _ there holds puts told =>
      exact reduced.freed orderly there holds asked puts told (by rw [same])
        (fun _ => by rw [same]; exact List.Subset.refl _) fun _ _ live => .inl (by rwa [same])
  | @dropped index slot held entered handles kept begun made there holds puts told =>
      have live : ∀ {thread entry}, entry ∈ (after.kernel.threads thread).registrations ↔
          entry ∈ (now.kernel.threads thread).registrations ∧
            ¬(thread = placement.thread ∧ entry.1 = held.number) := by
        intro thread entry
        rw [made, mem_registrations_withoutRegistration, begun.threads]
      refine reduced.freed orderly there holds asked puts told (by rw [made]; exact begun.nextHandle)
        (fun _ _ now => (live.mp now).1) fun thread entry before => ?_
      by_cases gone : thread = placement.thread ∧ entry.1 = held.number
      · exact .inr ⟨gone.1, by rw [kept, gone.2]⟩
      · exact .inl (live.mpr ⟨before, gone⟩)
  | gone _ _ _ refused there holds puts told =>
      have idle : now.kernel.Idles after.kernel := by
        cases refused with
        | refused entered | unknown entered => exact entered.idles (.inl (by decide))
      exact reduced.freed orderly there holds asked puts told idle.nextHandle
        (fun _ => by rw [idle.threads]; exact List.Subset.refl _)
        fun _ _ live => .inl (by rwa [idle.threads])
  | cleared _ begun made there holds puts told =>
      have same : ∀ thread, (after.kernel.threads thread).registrations =
          (now.kernel.threads thread).registrations := fun thread => by
        rw [made, registrations_withLegacy, begun.threads]
      exact reduced.freed orderly there holds asked puts told (by rw [made]; exact begun.nextHandle)
        (fun thread => by rw [same]; exact List.Subset.refl _)
        fun thread _ live => .inl (by rwa [same])

end Reducing

section Regaining

/-- Nothing was taken again yet, and a call may have failed. -/
theorem Regains.start (reduced : Reduces caps points base now)
    (tables : after.tableOf caps = now.tableOf caps) (idle : now.kernel.Idles after.kernel)
    (told : now.notices <+: after.notices) : Regains caps points base now after where
  told := reduced.told.trans told
  orderly := reduced.orderly.congr tables
  slots thread bank := by
    rw [tables]
    exact (reduced.slots thread bank).mono (fun _ _ freed => freed.mono told) fun _ _ => False.elim
  nextHandle_le := idle.nextHandle ▸ reduced.nextHandle_le
  dropped thread entry member := by
    rw [idle.threads]
    refine (reduced.dropped thread entry member).imp_right ?_
    rintro ⟨bank, index, before, slot, found, kept, ⟨point, holds, freed⟩, there, different⟩
    exact ⟨bank, index, before, slot, found, kept, ⟨point, holds, freed.mono told⟩, tables ▸ there,
      different⟩
  contents _ _ := by rw [tables]
  added thread _ live := .inl (reduced.fewer thread (by rwa [← idle.threads]))
  rewritten _ more := by
    rw [idle.timesSet] at more
    exact absurd more (Nat.lt_irrefl _)

/-- A data breakpoint register is set where a slot becomes free, and only there. -/
theorem GivesUp.timesSet_eq (orderly : session.TablesOrderly caps)
    (given : session.GivesUp caps placement after) {thread : ThreadId}
    (apart : thread ≠ placement.thread ∨ caps.interface = .handles ∨
      placement.point ∈ (after.target caps placement).contents) :
    after.kernel.timesSet thread = session.kernel.timesSet thread := by
  cases given with
  | left same | apart same => rw [same]
  | dropped _ _ begun made =>
      rw [made]
      exact begun.timesSet_eq (.inl (by decide)) thread
  | gone _ _ _ refused =>
      cases refused with
      | refused entered | unknown entered => exact entered.timesSet_eq (.inl (by decide)) thread
  | cleared legacy begun made there holds puts =>
      rcases apart with different | handles | member
      · rw [made]
        exact begun.timesSet_of_ne different
      · rw [legacy] at handles
        cases handles
      · rw [target, puts.here] at member
        exact absurd member ((orderly _ _).notMem_freed there holds)

variable {later : Session SimulatedKernel}

/-- What the kernel has registered anew belongs to its slot still, when another
one was taken. -/
theorem Regains.added_occupied {new : Slot} (regained : Regains caps points base later now)
    (there : (now.target caps placement).get? index = some slot) (isFree : slot.point = none)
    (puts : now.Puts caps placement ((now.target caps placement).modify index fun _ => new) after)
    (told : now.notices <+: after.notices)
    (kept : ∀ thread,
      (now.kernel.threads thread).registrations ⊆ (after.kernel.threads thread).registrations)
    {thread : ThreadId} {entry : Int × Registration}
    (live : entry ∈ (now.kernel.threads thread).registrations) :
    entry ∈ (base.kernel.threads thread).registrations ∨
      ∃ bank index slot, (after.tableOf caps thread bank).get? index = some slot ∧
        slot.handle = some ⟨entry.1⟩ ∧ slot.point = some entry.2.point ∧
        Renewed caps points base after thread index slot := by
  refine (regained.added thread entry live).imp_right ?_
  rintro ⟨bank, position, before, found, handle, holds, renewed⟩
  rcases puts.get?_after found with same | ⟨_, target⟩
  · exact ⟨bank, position, before, same, handle, holds, renewed.mono told (kept thread)⟩
  · rw [there] at target
    cases target
    rw [isFree] at holds
    cases holds

theorem Regains.join (regained : Regains caps points base later now)
    (ordered : after.TablesOrderly caps)
    (there : (now.target caps placement).get? index = some slot)
    (holds : slot.point = some placement.point)
    (puts : now.Puts caps placement
      ((now.target caps placement).modify index fun slot =>
        { slot with references := slot.references + 1 }) after)
    (told : now.notices <+: after.notices) (idle : now.kernel.Idles after.kernel)
    (contents : ∀ thread bank,
      (after.tableOf caps thread bank).contents = (session.tableOf caps thread bank).contents)
    (more : ∀ thread bank,
      (now.tableOf caps thread bank).contents ⊆ (after.tableOf caps thread bank).contents)
    (silent : ∀ thread, later.kernel.timesSet thread = session.kernel.timesSet thread) :
    Regains caps points base session after := by
  have renewed : ∀ thread index slot, Renewed caps points base now thread index slot →
      Renewed caps points base after thread index slot := fun thread _ _ before =>
    before.mono told (by rw [idle.threads]; exact List.Subset.refl _)
  have loose : ∀ thread index slot references, Renewed caps points base after thread index slot →
      Renewed caps points base after thread index { slot with references } := fun _ _ _ _ => id
  refine ⟨regained.toDiffers.recount ordered there holds puts told idle renewed loose, contents,
    ?_, ?_⟩
  · intro thread entry live
    rw [idle.threads] at live
    refine (regained.added thread entry live).imp_right ?_
    rintro ⟨bank, position, before, found, kept, same, new⟩
    rcases puts.get?_after found with unchanged | ⟨changed, _⟩
    · exact ⟨bank, position, before, unchanged, kept, same, renewed _ _ _ new⟩
    · exact ⟨bank, position, _, changed, kept, same, loose _ _ _ _ (renewed _ _ _ new)⟩
  · intro thread set
    rw [idle.timesSet, ← silent] at set
    obtain ⟨point, ours, member, value⟩ := regained.rewritten thread set
    exact ⟨point, ours, more _ _ member, by rwa [idle.threads]⟩

theorem Regains.register {entered : SimulatedKernel} (regained : Regains caps points base later now)
    (numbered : base.kernel.IsNumbered) (asked : placement.point ∈ points)
    (ordered : after.TablesOrderly caps)
    (there : (now.target caps placement).get? index = some slot) (isFree : slot.point = none)
    (puts : now.Puts caps placement
      ((now.target caps placement).modify index fun _ =>
        ⟨some placement.point, 1, some ⟨now.kernel.nextHandle⟩⟩) after)
    (told : after.notices =
      now.notices ++ [.slotHolds placement.thread placement.point ⟨index, true⟩])
    (idle : now.kernel.Idles entered)
    (made : after.kernel = entered.withRegistration placement.thread placement.point)
    (contents : ∀ thread bank,
      (after.tableOf caps thread bank).contents = (session.tableOf caps thread bank).contents)
    (more : ∀ thread bank,
      (now.tableOf caps thread bank).contents ⊆ (after.tableOf caps thread bank).contents)
    (silent : ∀ thread, later.kernel.timesSet thread = session.kernel.timesSet thread) :
    Regains caps points base session after := by
  have live : ∀ {thread entry}, entry ∈ (after.kernel.threads thread).registrations ↔
      entry ∈ (now.kernel.threads thread).registrations ∨ thread = placement.thread ∧
        entry = (now.kernel.nextHandle, ⟨placement.point, .ofPoint placement.point⟩) := by
    intro thread entry
    rw [made, mem_registrations_withRegistration, idle.threads, idle.nextHandle]
  have kept : ∀ thread, (now.kernel.threads thread).registrations ⊆
      (after.kernel.threads thread).registrations := fun _ _ before => live.mpr (.inl before)
  have next : after.kernel.nextHandle = now.kernel.nextHandle + 1 := by
    rw [made, ← idle.nextHandle]
    rfl
  have longer : now.notices <+: after.notices := told ▸ List.prefix_append _ _
  have taken : Renewed caps points base after placement.thread index
      ⟨some placement.point, 1, some ⟨now.kernel.nextHandle⟩⟩ :=
    ⟨placement.point, asked, rfl, mem_reportsSince regained.told told List.mem_cons_self,
      fun _ => ⟨_, regained.nextHandle_le, rfl, live.mpr (.inr ⟨rfl, rfl⟩)⟩⟩
  refine ⟨regained.toDiffers.occupy numbered ordered there isFree puts longer
    (fun _ _ _ renewed => renewed.mono longer (kept _)) taken ?_ (by omega) kept, contents, ?_, ?_⟩
  · rintro number same
    cases same
    exact Int.le_refl _
  · intro thread entry now
    rcases live.mp now with before | ⟨rfl, rfl⟩
    · exact regained.added_occupied there isFree puts longer kept before
    · refine .inr ⟨placement.point.kind.bank, index,
        ⟨some placement.point, 1, some ⟨_⟩⟩, ?_, rfl, rfl, taken⟩
      rw [puts.here, SlotTable.get?_modify_self, there]
      rfl
  · intro thread set
    have counted : after.kernel.timesSet thread = now.kernel.timesSet thread := by
      rw [made]
      exact idle.timesSet thread
    rw [counted, ← silent] at set
    obtain ⟨point, ours, member, value⟩ := regained.rewritten thread set
    refine ⟨point, ours, more _ _ member, ?_⟩
    rw [made, (continues_withRegistration entered _ _).legacy thread rfl, idle.threads]
    exact value

theorem Regains.write {kernel entered : SimulatedKernel}
    (regained : Regains caps points base later now) (numbered : base.kernel.IsNumbered)
    (legacy : caps.interface = .legacy) (asked : placement.point ∈ points)
    (ordered : after.TablesOrderly caps)
    (there : (now.target caps placement).get? index = some slot) (isFree : slot.point = none)
    (puts : now.Puts caps placement
      ((now.target caps placement).modify index fun _ => ⟨some placement.point, 1, none⟩) after)
    (told : after.notices =
      now.notices ++ [.slotHolds placement.thread placement.point ⟨index, true⟩])
    (idle : now.kernel.Idles kernel) (begun : kernel.Enters .writeLegacy placement.thread none entered)
    (made : after.kernel = entered.withLegacy placement.thread
      (Power.dataBreakpointValue placement.point.address placement.point.kind
        caps.architecture.isBookE))
    (contents : ∀ thread bank,
      (after.tableOf caps thread bank).contents = (session.tableOf caps thread bank).contents)
    (more : ∀ thread bank,
      (now.tableOf caps thread bank).contents ⊆ (after.tableOf caps thread bank).contents)
    (held : placement.point ∈ (after.target caps placement).contents)
    (silent : ∀ thread ≠ placement.thread,
      later.kernel.timesSet thread = session.kernel.timesSet thread) :
    Regains caps points base session after := by
  have same : ∀ thread, (after.kernel.threads thread).registrations =
      (now.kernel.threads thread).registrations := fun thread => by
    rw [made, registrations_withLegacy, begun.threads, idle.threads]
  have kept : ∀ thread, (now.kernel.threads thread).registrations ⊆
      (after.kernel.threads thread).registrations := fun thread _ live => by rwa [same]
  have next : after.kernel.nextHandle = now.kernel.nextHandle := by
    rw [made, ← idle.nextHandle, ← begun.nextHandle]
    rfl
  have longer : now.notices <+: after.notices := told ▸ List.prefix_append _ _
  have taken : Renewed caps points base after placement.thread index
      ⟨some placement.point, 1, none⟩ := by
    refine ⟨placement.point, asked, rfl, mem_reportsSince regained.told told List.mem_cons_self,
      fun handles => ?_⟩
    rw [legacy] at handles
    cases handles
  refine ⟨regained.toDiffers.occupy numbered ordered there isFree puts longer
    (fun _ _ _ renewed => renewed.mono longer (kept _)) taken nofun next.ge kept, contents, ?_, ?_⟩
  · intro thread entry live
    rw [same] at live
    exact regained.added_occupied there isFree puts longer kept live
  · intro thread set
    by_cases here : thread = placement.thread
    · subst here
      exact ⟨placement.point, asked, held, by rw [made]; exact legacy_withLegacy _ _ _⟩
    · have counted : after.kernel.timesSet thread = now.kernel.timesSet thread := by
        rw [made]
        exact (begun.timesSet_of_ne here).trans (idle.timesSet thread)
      rw [counted, ← silent thread here] at set
      obtain ⟨point, ours, member, value⟩ := regained.rewritten thread set
      refine ⟨point, ours, more _ _ member, ?_⟩
      rw [made, threads_withLegacy_of_ne _ _ here, begun.threads, idle.threads]
      exact value

/-- One step back: a point that was given up is taken again. -/
theorem Regains.takes (numbered : base.kernel.IsNumbered)
    (immediate : caps.interface = .handles ∨ caps.interface = .legacy)
    (asked : placement.point ∈ points) (orderly : session.TablesOrderly caps)
    (given : uninstall caps session placement = (.ok true, later))
    (regained : Regains caps points base later now)
    (installed : install caps now placement = (.ok (), after)) :
    Regains caps points base session after := by
  have ordered := regained.orderly.install installed
  have gained := contents_install installed
  have contents : ∀ thread bank, (after.tableOf caps thread bank).contents =
      (session.tableOf caps thread bank).contents := fun thread bank => by
    rw [gained, regained.contents, ← contents_uninstall orderly given]
  have more : ∀ thread bank, (now.tableOf caps thread bank).contents ⊆
      (after.tableOf caps thread bank).contents := fun thread bank point member => by
    rw [gained]
    exact Multiset.mem_add.mpr (.inr member)
  have gives := givesUp_of_uninstall given
  cases takes_of_install installed with
  | marked later =>
      rcases immediate with same | same <;> rw [same] at later <;> rcases later with other | other <;>
        cases other
  | joined paused there holds puts told =>
      have held : placement.point ∈ (later.target caps placement).contents := by
        rw [target, ← regained.contents]
        exact (SlotTable.mem_points_iff (regained.orderly _ _).kept).mp
          (List.mem_filterMap.mpr ⟨_, List.mem_of_getElem? there, holds⟩)
      exact regained.join ordered there holds puts (told ▸ List.prefix_append _ _)
        (paused.idles (.inl (by decide))) contents more
        fun _ => gives.timesSet_eq orderly (.inr (.inr held))
  | registered handles paused begun made there isFree absent puts told =>
      have idle := (paused.idles (.inl (by decide))).trans (begun.idles (.inl (by decide)))
      exact regained.register numbered asked ordered there isFree puts told idle made contents more
        fun _ => gives.timesSet_eq orderly (.inr (.inl handles))
  | written legacy paused begun made there isFree absent puts told =>
      have held : placement.point ∈ (after.target caps placement).contents := by
        rw [target, gained, share_self]
        exact Multiset.mem_add.mpr (.inl (Multiset.mem_singleton_self _))
      exact regained.write numbered legacy asked ordered there isFree puts told
        (paused.idles (.inl (by decide))) begun made contents more held
        fun _ different => gives.timesSet_eq orderly (.inl different)

end Regaining

end Relations

end DebugRegisters.Session
