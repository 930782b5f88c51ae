import DebugRegisters.Proofs.Session.Accounting.Steps

/-!
# What requests come to

A request is refused before any point is touched, or points that serve it are
inserted or removed on all threads.
-/

set_option autoImplicit false

namespace DebugRegisters

def Demand.condition? : Demand → Option Condition
  | .plain request => request.condition
  | .masked .. => none

def Demand.removalNotice : Demand → Notice
  | .plain request => .removing request.kind request.address
  | .masked kind address mask => .removingMasked kind address mask

namespace Session

variable {κ : Type} [Kernel κ]

theorem insertDemand_cases (session : Session κ) (demand : Demand) :
    (∃ error, session.insertDemand demand = (.error error, session.capabilities.2)) ∨
      ∃ notice points,
        Serves session.capabilities.1 session.restriction.table? demand points ∧
        session.insertDemand demand =
          insertPoints session.capabilities.1 (session.capabilities.2.notify notice) points := by
  cases demand with
  | plain request =>
      unfold insertDemand insert
      dsimp only
      split
      · exact .inl ⟨_, rfl⟩
      · next encoded =>
          have chosen := insertComparator?_cases session.capabilities.2 request session.capabilities.1
          exact .inr ⟨_, _, .plain chosen encoded, rfl⟩
  | masked kind address mask =>
      unfold insertDemand insertMasked
      dsimp only
      split
      · exact .inl ⟨_, rfl⟩
      · next point encoded => exact .inr ⟨_, _, .masked encoded, rfl⟩

/-- Points are removed only where some thread holds them all. -/
theorem removeDemand_cases (session : Session κ) (demand : Demand) :
    (∃ error, session.removeDemand demand = (.error error, session.capabilities.2)) ∨
      ∃ points,
        Serves session.capabilities.1 session.restriction.table? demand points ∧
        session.capabilities.2.isInstalled points = true ∧
        session.removeDemand demand = removePoints session.capabilities.1
          (session.capabilities.2.notify demand.removalNotice) points := by
  cases demand with
  | plain request =>
      unfold removeDemand remove
      dsimp only
      split
      · exact .inl ⟨_, rfl⟩
      · next preferred encoded =>
          split
          · exact .inl ⟨_, rfl⟩
          · next points chosen =>
              have serves : Serves session.capabilities.1 session.restriction.table?
                  (.plain request) points := by
                split at chosen
                · exact .plain (.inl rfl) chosen
                · cases chosen
                  exact .plain (.inr rfl) encoded
              split
              · next installed => exact .inr ⟨_, serves, installed, rfl⟩
              · exact .inl ⟨_, rfl⟩
  | masked kind address mask =>
      unfold removeDemand removeMasked
      dsimp only
      split
      · exact .inl ⟨_, rfl⟩
      · next point encoded =>
          split
          · next installed => exact .inr ⟨_, .masked encoded, installed, rfl⟩
          · exact .inl ⟨_, rfl⟩

/-- Without a condition the points that served a demand are the ones that its
removal takes away. -/
theorem removeDemand_of_serves {session : Session κ} {demand : Demand} {points : List EncodedPoint}
    (unconditional : demand.condition? = none)
    (serves : Serves session.capabilities.1 session.restriction.table? demand points)
    (installed : session.capabilities.2.isInstalled points = true) :
    ∃ notice, session.removeDemand demand =
      removePoints session.capabilities.1 (session.capabilities.2.notify notice) points := by
  cases serves with
  | @plain request comparator _ chosen encoded =>
      have bare : removeComparator? request session.capabilities.1 = none := by
        change request.condition = none at unconditional
        simp [removeComparator?, Capabilities.comparatorFor?, unconditional]
      have none : comparator = none := by
        rw [bare] at chosen
        exact chosen.elim id id
      subst none
      have found : session.capabilities.2.encodeRequest request session.capabilities.1 none =
          .ok points := encoded
      refine ⟨.removing request.kind request.address, ?_⟩
      unfold removeDemand remove
      simp [bare, found, installed]
  | @masked kind address mask point encoded =>
      refine ⟨.removingMasked kind address mask, ?_⟩
      unfold removeDemand removeMasked
      simp [encoded, installed]

section Unavailable

variable {session : Session κ} (nothing : session.capabilities.1.interface = .unavailable)

include nothing

theorem insertDemand_of_unavailable (demand : Demand) :
    (session.insertDemand demand).2 = session.capabilities.2 := by
  rcases insertDemand_cases session demand with ⟨error, refused⟩ | ⟨_, _, serves, _⟩
  · rw [refused]
  · exact absurd nothing serves.interface_ne_unavailable

theorem removeDemand_of_unavailable (demand : Demand) :
    (session.removeDemand demand).2 = session.capabilities.2 := by
  rcases removeDemand_cases session demand with ⟨error, refused⟩ | ⟨_, serves, _⟩
  · rw [refused]
  · exact absurd nothing serves.interface_ne_unavailable

end Unavailable

end Session

end DebugRegisters
