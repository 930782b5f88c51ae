import DebugRegisters.Proofs.Encoding.ExactCover
import DebugRegisters.Proofs.Session.Invariants
import DebugRegisters.Proofs.Session.Requests

/-!
# Threads that hold the same

Points are inserted and removed on all tracked threads, and a new thread copies one
of them. So where slots can always be given up, all tracked threads hold the same
points at any time.

Of removals this is shown for a single watchpoint register only, where a demand is
served by one point.
-/

set_option autoImplicit false

namespace DebugRegisters

/-- Where there is one watchpoint register, one point serves a demand. -/
theorem Serves.single {caps : Capabilities} {table : Option MaskTable} {demand : Demand}
    {points : List EncodedPoint} (serves : Serves caps table demand points)
    (few : caps.watchpointSlots ≤ 1) : ∃ point, points = [point] := by
  obtain ⟨_, some, _⟩ := serves.shape
  cases serves with
  | masked encoded => exact ⟨_, rfl⟩
  | @plain request _ _ chosen encoded =>
      by_cases watch : request.kind.isWatchpoint = true
      · have bank : request.kind.bank = .watchpoints := if_pos watch
        have room := (Encoding.watches_of_encode encoded watch).length_le
        rw [bank] at room
        exact List.length_eq_one_iff.mp
          (Nat.le_antisymm (room.trans few) (List.length_pos_iff.mpr some))
      · unfold encode at encoded
        dsimp only at encoded
        split at encoded
        · cases encoded
        · obtain ⟨point, _, rfl⟩ := ok_of_map encoded
          exact ⟨point, rfl⟩

namespace Session

def Alike {κ : Type} (session : Session κ) : Prop :=
  ∃ total, ∀ thread ∈ session.threads, session.held thread = total

namespace Alike

variable {κ : Type} {session after : Session κ}

theorem congr (alike : session.Alike) (sets : after.sets = session.sets)
    (threads : after.threads = session.threads) : after.Alike := by
  obtain ⟨total, holds⟩ := alike
  refine ⟨total, fun thread tracked => ?_⟩
  rw [held_congr sets]
  exact holds thread (threads ▸ tracked)

/-- Where no thread is tracked, none holds anything. -/
theorem exists_total (alike : session.Alike) :
    ∃ total, (∀ thread ∈ session.threads, session.held thread = total) ∧
      (session.threads = [] → total = 0) := by
  obtain ⟨total, holds⟩ := alike
  by_cases empty : session.threads = []
  · refine ⟨0, fun thread tracked => ?_, fun _ => rfl⟩
    rw [empty] at tracked
    cases tracked
  · exact ⟨total, holds, fun none => absurd none empty⟩

theorem forget (alike : session.Alike) (thread : ThreadId) : (session.forget thread).Alike := by
  obtain ⟨total, holds⟩ := alike
  refine ⟨total, fun other member => ?_⟩
  obtain ⟨tracked, apart⟩ := List.mem_filter.mp member
  have lookup := ThreadSets.get?_erase_of_ne session.sets (of_decide_eq_true apart)
  have same : (session.forget thread).held other = session.held other := by
    simp only [held, Session.forget, lookup]
  exact same.trans (holds other tracked)

section Operations

variable [Kernel κ] {trusted : κ → Prop}

theorem insertDemand (alike : session.Alike) (sound : session.Sound)
    (reliable : Reliable session.capabilities.1 trusted)
    (trust : trusted session.capabilities.2.kernel) (demand : Demand) :
    (session.insertDemand demand).2.Alike := by
  obtain ⟨total, holds⟩ := alike
  rcases insertDemand_cases session demand with ⟨error, refused⟩ | ⟨notice, points, _, begun⟩
  · rw [refused]
    exact ⟨total, holds⟩
  · have process := insertDemand_sameProcess session demand
    have told : (session.capabilities.2.notify notice).Sound := sound.congr rfl rfl
    rw [begun] at process ⊢
    cases outcome : Session.insertPoints session.capabilities.1
        (session.capabilities.2.notify notice) points with
    | mk result after =>
        rw [outcome] at process
        cases result with
        | ok =>
            refine ⟨↑points + total, fun thread tracked => ?_⟩
            have before : thread ∈ session.threads := process.threads ▸ tracked
            exact (insertPoints_ok told outcome before).trans (by rw [← holds thread before]; rfl)
        | error error =>
            refine ⟨total, fun thread tracked => ?_⟩
            have before : thread ∈ session.threads := process.threads ▸ tracked
            have trust : trusted (session.capabilities.2.notify notice).kernel := trust
            rw [insertPoints_error reliable trust told outcome]
            exact holds thread before

theorem removeDemand (alike : session.Alike) (sound : session.Sound)
    (few : session.capabilities.1.watchpointSlots ≤ 1)
    (reliable : Reliable session.capabilities.1 trusted)
    (trust : trusted session.capabilities.2.kernel) (demand : Demand) :
    (session.removeDemand demand).2.Alike := by
  obtain ⟨total, holds⟩ := alike
  rcases removeDemand_cases session demand with
    ⟨error, refused⟩ | ⟨points, serves, installed, begun⟩
  · rw [refused]
    exact ⟨total, holds⟩
  · have process := removeDemand_sameProcess session demand
    have told : (session.capabilities.2.notify demand.removalNotice).Sound := sound.congr rfl rfl
    have trust : trusted (session.capabilities.2.notify demand.removalNotice).kernel := trust
    obtain ⟨point, rfl⟩ := serves.single few
    have member : point ∈ total := by
      obtain ⟨set, there, found⟩ := List.any_eq_true.mp installed
      have present : ((set.table point.kind.bank).find? point).isSome = true :=
        List.all_eq_true.mp found point List.mem_cons_self
      rw [← holds set.thread (sound.tracked set there), held_of_get? (sound.get?_of_mem there)]
      exact (ThreadPoints.find?_isSome_iff (sound.kept set there)).mp present
    obtain ⟨rest, split⟩ := Multiset.exists_cons_of_mem member
    have borne : ∀ thread ∈ (session.capabilities.2.notify demand.removalNotice).threads,
        (session.capabilities.2.notify demand.removalNotice).held thread = ↑[point] + rest :=
      fun thread tracked => (holds thread tracked).trans split
    obtain ⟨after, removed, left⟩ := removePoints_ok reliable trust told borne
    rw [begun, removed] at process ⊢
    exact ⟨rest, fun thread tracked => left thread (process.threads ▸ tracked)⟩

theorem addThread (alike : session.Alike) (sound : session.Sound)
    (immediate : session.capabilities.1.interface ≠ .unavailable) (thread : ThreadId) :
    (session.addThread thread).2.Alike := by
  obtain ⟨total, holds, nothing⟩ := alike.exists_total
  exact ⟨total, fun other member =>
    held_addThread sound holds (fun none => none.elim nothing fun missing => absurd missing immediate)
      member⟩

end Operations

end Alike

end Session

end DebugRegisters
