import DebugRegisters.Proofs.Session.Accounting
import DebugRegisters.Proofs.Session.WriteBack
import DebugRegisters.Proofs.SlotTable.Armed

/-!
# What the hardware watches

On a kernel with register arrays, a thread that was made ready to resume watches
every byte of every outstanding request, and stops at every outstanding
breakpoint. As long as byte masks are free it watches nothing else.

Three things come together here: each thread holds the points of the outstanding
requests, these points select the bytes of their request, and a bank with nothing
left to write holds the pairs of its table.
-/

set_option autoImplicit false

namespace DebugRegisters

open Arm
open ThreadPoints (ArmedPairs)

/-- The bytes of the request, counted without going round. -/
def PointRequest.Covers (request : PointRequest) (byte : Address) : Prop :=
  request.address.toNat ≤ byte.toNat ∧
    byte.toNat < request.address.toNat + request.length.toNat

def PointRequest.Fits (request : PointRequest) : Prop :=
  request.kind.isWatchpoint = true → request.address.toNat + request.length.toNat ≤ 2 ^ 64

instance (request : PointRequest) : Decidable request.Fits :=
  inferInstanceAs (Decidable (_ → _))

/-- What the armed pairs of a thread say about the outstanding demands. -/
structure ArmedFor (caps : Capabilities) (state : RestrictionState) (outstanding : List Demand)
    (armed : RegisterBank → ArmedPairs) : Prop where
  /-- Every byte of a watch is selected by a pair for accesses of its kind. -/
  watched : ∀ request, .plain request ∈ outstanding → request.kind.isWatchpoint = true →
    ∀ byte, request.Covers byte → ∃ entry ∈ armed .watchpoints,
      ControlWord.kind? .watchpoints entry.2.control = some request.kind ∧ entry.2.Selects byte
  /-- Every breakpoint has a pair with its address and the mask of its instruction. -/
  stopped : ∀ request, .plain request ∈ outstanding → request.kind = .execute →
    ∃ entry ∈ armed .breakpoints, entry.2.address = request.address.value ∧
      ∃ length, Encoding.instructionLength request.instructionLength caps.architecture = .ok length ∧
        ControlWord.mask entry.2.control = breakpointMask length
  /-- While masks are free, only bytes of watches are selected. -/
  onlyWatched : state = .capable → ∀ entry ∈ armed .watchpoints, ∀ byte, entry.2.Selects byte →
    ∃ request, .plain request ∈ outstanding ∧
      ControlWord.kind? .watchpoints entry.2.control = some request.kind ∧ request.Covers byte
  onlyStopped : ∀ entry ∈ armed .breakpoints, ∃ request, .plain request ∈ outstanding ∧
    request.kind = .execute ∧ entry.2.address = request.address.value

namespace Session

variable {caps : Capabilities} {outstanding : List Demand} {table : Option MaskTable}

/-- With register arrays, demands are served by plain encodings of requests. -/
theorem encoded_of_serves {demand : Demand} {points : List EncodedPoint}
    (words : caps.interface ≠ .unavailable →
      ∃ architecture first second, caps = .ofInfoWords architecture first second)
    (serves : Serves caps table demand points) :
    ∃ architecture first second request, caps = .ofInfoWords architecture first second ∧
      demand = .plain request ∧ encode request caps ⟨table, none⟩ = .ok points := by
  obtain ⟨architecture, first, second, found⟩ := words serves.interface_ne_unavailable
  subst found
  cases serves with
  | @plain request comparator _ chosen encoded =>
      have unconditional : comparator = none := by
        rcases chosen with none | removed
        · exact none
        · exact removed
      subst unconditional
      exact ⟨architecture, first, second, request, rfl, rfl, encoded⟩
  | masked encoded => cases (encodeMasked_shape encoded).2.2

variable {session : Session SimulatedKernel} {thread : ThreadId}

section Armed

variable (balanced : session.Balanced caps outstanding)
  (words : caps.interface ≠ .unavailable →
    ∃ architecture first second, caps = .ofInfoWords architecture first second)
  (tracked : thread ∈ session.threads) {armed : RegisterBank → ArmedPairs}
  (written : ∀ bank,
    armed bank = ((session.pointsOf caps thread).table bank).registerBlock.enabled)

include balanced words tracked written

theorem Balanced.armed_of_outstanding {request : PointRequest}
    (asked : .plain request ∈ outstanding) :
    ∃ architecture first second points, caps = .ofInfoWords architecture first second ∧
      encode request caps ⟨session.restriction.table?, none⟩ = .ok points ∧
      ∀ point ∈ points, ∀ mask, point.span = .bytes mask →
        ∃ entry ∈ armed request.kind.bank,
          entry.2 = ⟨point.address.value, ControlWord.encode request.kind mask⟩ := by
  obtain ⟨total, ledger, holds⟩ := balanced.ledger
  have kept := balanced.sound.kept_pointsOf caps thread
  have contents : (session.pointsOf caps thread).contents = total := by
    rw [← held_eq, holds thread tracked]
  obtain ⟨points, rest, serves, _, same⟩ := ledger.split asked
  obtain ⟨architecture, first, second, other, found, equal, encoded⟩ :=
    encoded_of_serves words serves
  cases equal
  refine ⟨architecture, first, second, points, found, encoded, fun point member mask masked => ?_⟩
  have kind := (plain_encode encoded).kinds point member
  have held : point ∈ (session.pointsOf caps thread).contents := by
    rw [contents, same]
    exact Multiset.mem_add.mpr (.inl (Multiset.mem_coe.mpr member))
  have there := (ThreadPoints.mem_contents_iff kept).mp held
  rw [written, ← kind]
  exact SlotTable.armed_of_mem_contents there masked

theorem Balanced.outstanding_of_armed {bank : RegisterBank} {entry : Nat × RegisterPair}
    (member : entry ∈ armed bank) :
    ∃ architecture first second request points point mask,
      caps = .ofInfoWords architecture first second ∧ .plain request ∈ outstanding ∧
      encode request caps ⟨session.restriction.table?, none⟩ = .ok points ∧ point ∈ points ∧
      point.span = .bytes mask ∧ request.kind.bank = bank ∧ point.kind = request.kind ∧
      entry.2 = ⟨point.address.value, ControlWord.encode point.kind mask⟩ := by
  obtain ⟨total, ledger, holds⟩ := balanced.ledger
  have kept := balanced.sound.kept_pointsOf caps thread
  have contents : (session.pointsOf caps thread).contents = total := by
    rw [← held_eq, holds thread tracked]
  rw [written] at member
  obtain ⟨point, mask, there, masked, pair⟩ := SlotTable.point_of_armed (kept bank) member
  have held : point ∈ total := by
    rw [← contents]
    cases bank with
    | breakpoints => exact Multiset.mem_add.mpr (.inl there)
    | watchpoints => exact Multiset.mem_add.mpr (.inr there)
  obtain ⟨demand, asked, points, serves, listed⟩ := ledger.owner held
  obtain ⟨architecture, first, second, request, found, equal, encoded⟩ :=
    encoded_of_serves words serves
  subst equal
  have kind := (plain_encode encoded).kinds point listed
  have sorted : point.kind.bank = bank := SlotTable.bank_of_mem_contents (kept bank) there
  exact ⟨architecture, first, second, request, points, point, mask, found, asked, encoded, listed,
    masked, kind ▸ sorted, kind, pair⟩

/-- Where the account is balanced and nothing is left to write, the armed pairs
are those that the demands ask for. -/
theorem Balanced.armedFor (valid : session.restriction.table.IsValid)
    (fits : ∀ request, .plain request ∈ outstanding → request.Fits) :
    ArmedFor caps session.restriction.state outstanding armed := by
  refine ⟨fun request asked data byte inside => ?_, fun request asked code => ?_,
    fun capable entry member byte selects => ?_, fun entry member => ?_⟩
  · obtain ⟨architecture, first, second, points, found, encoded, arms⟩ :=
      balanced.armed_of_outstanding words tracked written asked
    subst found
    have lawful : ∀ table, session.restriction.table? = some table → table.IsValid := by
      intro table given
      unfold Restriction.table? at given
      split at given <;> cases given
      exact valid
    obtain ⟨point, listed, selects⟩ := Encoding.selects_of_encode lawful encoded data
      (fits request asked data) inside
    obtain ⟨mask, masked, _⟩ := id selects
    obtain ⟨entry, there, pair⟩ := arms point listed mask masked
    have bank : request.kind.bank = .watchpoints := if_pos data
    have kind := (plain_encode encoded).kinds point listed
    rw [bank] at there
    refine ⟨entry, there, ?_, ?_⟩
    · rw [pair]
      exact ControlWord.kind?_encode data mask
    · rw [pair, ← kind]
      exact (EncodedPoint.selects_iff_pair masked byte).mp selects
  · obtain ⟨architecture, first, second, points, found, encoded, arms⟩ :=
      balanced.armed_of_outstanding words tracked written asked
    subst found
    obtain ⟨length, point, size, single, _, address, masked⟩ :=
      Encoding.breakpoint_of_encode encoded code
    subst single
    obtain ⟨entry, there, pair⟩ := arms point List.mem_cons_self _ masked
    rw [code] at there
    refine ⟨entry, there, ?_, length, size, ?_⟩
    · rw [pair, ← address]
    · rw [pair]
      exact ControlWord.mask_encode _ _
  · obtain ⟨architecture, first, second, request, points, point, mask, found, asked, encoded,
      listed, masked, bank, kind, pair⟩ := balanced.outstanding_of_armed words tracked written member
    subst found
    have data := PointKind.isWatchpoint_of_bank bank
    have free : session.restriction.table? = none := by
      unfold Restriction.table?
      rw [capable]
    rw [free] at encoded
    rw [pair] at selects ⊢
    have selected := (EncodedPoint.selects_iff_pair masked byte).mpr selects
    have inside := (Encoding.selects_iff_of_encode encoded data (fits request asked data)
      byte.toNat).mp ⟨point, listed, selected⟩
    refine ⟨request, asked, ?_, inside⟩
    rw [← kind]
    exact ControlWord.kind?_encode (kind ▸ data) mask
  · obtain ⟨architecture, first, second, request, points, point, mask, found, asked, encoded,
      listed, masked, bank, kind, pair⟩ := balanced.outstanding_of_armed words tracked written member
    subst found
    have code := PointKind.eq_execute_of_bank bank
    obtain ⟨length, only, _, single, _, address, _⟩ := Encoding.breakpoint_of_encode encoded code
    subst single
    obtain rfl := List.mem_singleton.mp listed
    refine ⟨request, asked, code, ?_⟩
    rw [pair, ← address]

end Armed

end Session

namespace History

/-- The account is kept, requests end within the address space, and no number of
an exited thread is taken again. -/
def Careful (history : History) (event : Event) : Prop :=
  match event with
  | .insert (.plain request) => request.Fits
  | .newThread thread => thread ∉ history.exited
  | event => KeepsAccount history event

instance (history : History) : ∀ event, Decidable (Careful history event)
  | .insert (.plain request) => inferInstanceAs (Decidable request.Fits)
  | .newThread thread => inferInstanceAs (Decidable (thread ∉ history.exited))
  | .remove demand => inferInstanceAs (Decidable (demand ∈ history.outstanding))
  | .exit thread =>
      inferInstanceAs (Decidable (∃ other ∈ history.session.threads, other ≠ thread))
  | .insert (.masked _ _ _) | .resume _ | .stop _ | .probe | .askRange _ _ | .askMask _ _
  | .fail _ | .vanish _ | .trap _ _ | .trigger _ _ _ | .clearRecords => .isTrue trivial

variable {history : History} {event : Event}

theorem Careful.keepsAccount (careful : Careful history event) : KeepsAccount history event := by
  cases event with
  | remove => exact careful
  | exit => exact careful
  | _ => trivial

theorem Careful.noReuse (careful : Careful history event) : NoReuse history event := by
  cases event with
  | newThread => exact careful
  | _ => trivial

def Fits (history : History) : Prop :=
  ∀ request, .plain request ∈ history.outstanding → request.Fits

theorem Fits.after (fits : history.Fits) (careful : Careful history event) :
    (history.after event).Fits := by
  intro request member
  unfold History.after at member
  cases event with
  | insert demand =>
      unfold outstandingAfter at member
      split at member
      · next added _ same _ =>
          cases same
          rcases List.mem_cons.mp member with rfl | before
          · exact careful
          · exact fits request before
      · next same _ => cases same
      · exact fits request member
  | remove demand =>
      unfold outstandingAfter at member
      split at member
      · next same _ => cases same
      · exact fits request (List.mem_of_mem_erase member)
      · exact fits request member
  | _ => exact fits request member

theorem WrittenBack.isReliable (written : history.WrittenBack) :
    history.session.capabilities.2.IsReliable history.session.capabilities.1 :=
  Session.isReliable_of_deferred (Session.HoldsFor.current written).deferred _

theorem Leads.careful {start history : History} (reached : Leads Careful start history)
    (written : start.WrittenBack) (balanced : start.Balanced) (fits : start.Fits) :
    history.WrittenBack ∧ history.Balanced ∧ history.Fits := by
  induction reached with
  | start => exact ⟨written, balanced, fits⟩
  | step before careful ih =>
      obtain ⟨written, balanced, fits⟩ := ih
      exact ⟨written.after careful.noReuse,
        balanced.after written.isReliable careful.keepsAccount, fits.after careful⟩

/-- On a kernel with register arrays, whatever fails, as long as some thread stays
tracked, only what is outstanding is removed, requests end within the address
space and no exited thread's number is taken again: once a tracked thread that is
not lost was made ready to resume, its armed pairs watch every byte of every
outstanding watch for accesses of its kind, and stop at every outstanding
breakpoint. They stop nowhere else, and while masks are free they watch nothing
else. -/
theorem armed_pairs_serve_demands {kernel : SimulatedKernel} {leader : ThreadId}
    {settings : Settings} {capabilities? : Option Capabilities} (unused : kernel.UnusedArrays)
    (preset : ∀ caps, capabilities? = some caps → kernel.facility.Supports caps)
    (valid : settings.maskTable.IsValid) {history : History}
    (reached : Leads Careful (ofSession (.start kernel leader settings capabilities?)) history)
    {thread : ThreadId} (tracked : thread ∈ history.session.threads)
    (there : thread ∉ history.session.kernel.vanished) {after : Session SimulatedKernel}
    (prepared : history.session.prepareToResume thread = (.ok (), after)) :
    ArmedFor after.capabilities.1 after.restriction.state history.outstanding
      (after.kernel.armed thread) := by
  have none : (ofSession (.start kernel leader settings capabilities?)).Fits :=
    fun _ member => absurd member List.not_mem_nil
  obtain ⟨written, balanced, fits⟩ :=
    reached.careful (writtenBack_start unused preset) (balanced_start preset valid) none
  have current := Session.HoldsFor.current written
  have account := Session.HoldsFor.current balanced.account
  have supported := Session.capabilities_supported balanced.account.supported
  have probed : history.session.capabilities.2.Balanced history.session.capabilities.1
      history.outstanding :=
    ⟨account.sound.congr rfl rfl, account.inhabited, account.ledger⟩
  have accounted := probed.prepareToResume supported.words_of_arrays balanced.table thread
  have later := current.prepareToResume thread
  have follows := Session.prepareToResume_follows history.session thread
  obtain ⟨basis, threads⟩ := Session.prepareToResume_basis history.session thread
  rw [prepared] at accounted later follows basis threads
  have known : after.capabilities? = some history.session.capabilities.1 := basis.capabilities?
  rw [Session.capabilities_of_known known]
  refine accounted.armedFor (fun able => ?_) (threads ▸ tracked) (fun bank => ?_)
    (basis.table ▸ balanced.table) fits
  · exact supported.words_of_arrays (current.deferred.resolve_right able)
  · have settled := later.settled thread (current.staying thread tracked) (follows.vanished ▸ there)
    refine settled bank ?_
    unfold Session.pointsOf
    cases found : after.sets.get? thread with
    | none => cases bank <;> exact .inl rfl
    | some points => exact current.isClean_prepareToResume prepared found bank

/-- A kernel that takes few masks rejects the two pieces of the watch at first. -/
theorem armed_pairs_serve_demands_degraded :
    let kernel := { SimulatedKernel.withArrays 2 2 with maskTable := some .standard }
    let history := (ofSession (.start kernel ⟨1⟩ .standard none)).afterAll
      [.insert (.plain (.watch .write ⟨0x1006⟩ 4)), .insert (.plain (.breakpoint ⟨0x4000⟩)),
        .newThread ⟨2⟩]
    (history.session.prepareToResume ⟨2⟩).1 = .ok () ∧
    ∀ after, history.session.prepareToResume ⟨2⟩ = (.ok (), after) →
      ArmedFor after.capabilities.1 after.restriction.state history.outstanding
        (after.kernel.armed ⟨2⟩) := by
  have unused : SimulatedKernel.UnusedArrays
      { SimulatedKernel.withArrays 2 2 with maskTable := some .standard } :=
    ⟨⟨_, _, rfl⟩, fun _ bank => by cases bank <;> rfl⟩
  have valid : Settings.standard.maskTable.IsValid := ⟨[0x01, 0x03, 0x0f, 0xff], by decide⟩
  refine ⟨by decide +kernel, fun after prepared => ?_⟩
  exact armed_pairs_serve_demands unused (fun _ known => by cases known) valid
    (leads_afterAll .start (by decide)) (by decide) (by decide) prepared

end History

end DebugRegisters
