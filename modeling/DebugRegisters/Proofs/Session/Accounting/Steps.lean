import DebugRegisters.Proofs.Session.Accounting.Balance
import DebugRegisters.Proofs.Session.Accounting.Ledger
import DebugRegisters.Proofs.Session.Arrivals
import DebugRegisters.Proofs.ThreadPoints.Settled

/-!
# What keeps the account balanced

Every tracked thread holds exactly the points of the outstanding demands. A
change adds or takes away the same points everywhere, a new thread copies them,
and going over to a mask table restricts all of them at once.
-/

set_option autoImplicit false

namespace DebugRegisters.Session

variable {κ : Type}

/-- Every tracked thread holds the points of the outstanding demands, and no others. -/
structure Balanced (caps : Capabilities) (outstanding : List Demand) (session : Session κ) :
    Prop where
  sound : session.Sound
  inhabited : session.threads ≠ []
  ledger : ∃ total, Ledger caps session.restriction.table? outstanding total ∧
    ∀ thread ∈ session.threads, session.held thread = total

theorem SameTables.sound {session after : Session κ} (same : session.SameTables after)
    (sound : session.Sound) : after.Sound :=
  sound.congr same.sets same.threads

/-- Points of one kind that a thread holds are installed. -/
theorem isInstalled_of_held {session : Session κ} (sound : session.Sound) (thread : ThreadId)
    {points : List EncodedPoint} {kind : PointKind} (some : points ≠ [])
    (kinds : ∀ point ∈ points, point.kind = kind)
    (held : ∀ point ∈ points, point ∈ session.held thread) : session.isInstalled points = true := by
  obtain ⟨first, rest, rfl⟩ := List.exists_cons_of_ne_nil some
  cases lookup : session.sets.get? thread with
  | none =>
      have nothing : session.held thread = 0 := by simp only [Session.held, lookup]
      have member := held first List.mem_cons_self
      rw [nothing] at member
      exact absurd member (Multiset.notMem_zero _)
  | some set =>
      have there := ThreadSets.mem_of_get? lookup
      refine List.any_eq_true.mpr ⟨set, there, List.all_eq_true.mpr fun point member => ?_⟩
      have bank : first.kind.bank = point.kind.bank := by
        rw [kinds point member, kinds first List.mem_cons_self]
      rw [bank, ThreadPoints.find?_isSome_iff (sound.kept set there), ← held_of_get? lookup]
      exact held point member

namespace Balanced

variable {caps : Capabilities} {outstanding : List Demand} {session after : Session κ}

theorem sameTables (balanced : session.Balanced caps outstanding)
    (same : session.SameTables after) : after.Balanced caps outstanding := by
  obtain ⟨total, ledger, holds⟩ := balanced.ledger
  refine ⟨same.sound balanced.sound, same.threads ▸ balanced.inhabited, total, ?_, ?_⟩
  · rw [same.restriction]
    exact ledger
  · rw [same.threads, held_congr same.sets]
    exact holds

theorem isInstalled_iff (sound : session.Sound) (inhabited : session.threads ≠ [])
    {total : Multiset EncodedPoint} (holds : ∀ thread ∈ session.threads, session.held thread = total)
    {points : List EncodedPoint} {kind : PointKind} (some : points ≠ [])
    (kinds : ∀ point ∈ points, point.kind = kind) :
    session.isInstalled points = true ↔ ∀ point ∈ points, point ∈ total := by
  constructor
  · intro installed point member
    obtain ⟨first, rest, rfl⟩ := List.exists_cons_of_ne_nil some
    obtain ⟨set, there, all⟩ := List.any_eq_true.mp installed
    have bank : first.kind.bank = point.kind.bank := by
      rw [kinds point member, kinds first List.mem_cons_self]
    have found := List.all_eq_true.mp all point member
    rw [bank, ThreadPoints.find?_isSome_iff (sound.kept set there)] at found
    rwa [← holds set.thread (sound.tracked set there), held_of_get? (sound.get?_of_mem there)]
  · intro all
    obtain ⟨thread, tracked⟩ := List.exists_mem_of_ne_nil _ inhabited
    exact isInstalled_of_held sound thread some kinds fun point member =>
      holds thread tracked ▸ all point member

section Changes

variable [Kernel κ] {trusted : κ → Prop}

theorem insertPoints_ok (balanced : session.Balanced caps outstanding) {demand : Demand}
    {points : List EncodedPoint}
    (serves : Serves caps session.restriction.table? demand points)
    (inserted : insertPoints caps session points = (.ok (), after)) :
    after.Balanced caps (demand :: outstanding) := by
  obtain ⟨total, ledger, holds⟩ := balanced.ledger
  have same := (keptByChanges_sameProcess caps session).insertPoints points (.refl session)
  have sound := (keptByChanges_sound caps).insertPoints points balanced.sound
  rw [inserted] at same sound
  refine ⟨sound, same.threads ▸ balanced.inhabited, ↑points + total, ?_, fun thread tracked => ?_⟩
  · rw [same.restriction]
    exact .cons serves ledger
  · have before : thread ∈ session.threads := same.threads ▸ tracked
    rw [Session.insertPoints_ok balanced.sound inserted before, holds thread before]

theorem insertPoints_error (reliable : Reliable caps trusted) (trust : trusted session.kernel)
    (balanced : session.Balanced caps outstanding) {points : List EncodedPoint} {error : PointError}
    (failed : insertPoints caps session points = (.error error, after)) :
    after.Balanced caps outstanding := by
  obtain ⟨total, ledger, holds⟩ := balanced.ledger
  have same := (keptByChanges_sameProcess caps session).insertPoints points (.refl session)
  have sound := (keptByChanges_sound caps).insertPoints points balanced.sound
  rw [failed] at same sound
  refine ⟨sound, same.threads ▸ balanced.inhabited, total, ?_, ?_⟩
  · rw [same.restriction]
    exact ledger
  · rw [same.threads, Session.insertPoints_error reliable trust balanced.sound failed]
    exact holds

/-- Points of which the ledger can do without one copy each are removed. -/
theorem removePoints (reliable : Reliable caps trusted) (trust : trusted session.kernel)
    (sound : session.Sound) (inhabited : session.threads ≠ []) {points : List EncodedPoint}
    {base : Multiset EncodedPoint}
    (ledger : Ledger caps session.restriction.table? outstanding base)
    (holds : ∀ thread ∈ session.threads, session.held thread = ↑points + base) :
    ∃ after, removePoints caps session points = (.ok (), after) ∧
      after.Balanced caps outstanding := by
  obtain ⟨after, removed, left⟩ := removePoints_ok reliable trust sound holds
  have same := (keptByChanges_sameProcess caps session).removePoints points (.refl session)
  have sound := (keptByChanges_sound caps).removePoints points sound
  rw [removed] at same sound
  refine ⟨after, removed, sound, same.threads ▸ inhabited, base, ?_, ?_⟩
  · rw [same.restriction]
    exact ledger
  · rw [same.threads]
    exact left

end Changes

end Balanced

section Demands

variable [Kernel κ] {trusted : κ → Prop} {session : Session κ} {outstanding : List Demand}
  {demand : Demand}

omit [Kernel κ] in
theorem insertComparator?_cases (session : Session κ) (request : PointRequest)
    (caps : Capabilities) :
    session.insertComparator? request caps = none ∨
      session.insertComparator? request caps = removeComparator? request caps := by
  unfold insertComparator? removeComparator?
  split
  · exact .inl rfl
  · next few =>
      refine .inr (if_neg fun none => few ?_).symm
      rw [none]
      exact Nat.zero_le _

/-- A demand that is taken is outstanding from then on, and one that is refused
leaves the account as it was. -/
theorem Balanced.insertDemand (reliable : Reliable session.capabilities.1 trusted)
    (trust : trusted session.capabilities.2.kernel)
    (balanced : session.capabilities.2.Balanced session.capabilities.1 outstanding)
    (demand : Demand) :
    (session.insertDemand demand).2.Balanced session.capabilities.1
      (match (session.insertDemand demand).1 with
        | .ok () => demand :: outstanding
        | .error _ => outstanding) := by
  have settle : ∀ (notice : Notice) (points : List EncodedPoint),
      Serves session.capabilities.1 session.capabilities.2.restriction.table? demand points →
      (Session.insertPoints session.capabilities.1 (session.capabilities.2.notify notice)
        points).2.Balanced session.capabilities.1
        (match (Session.insertPoints session.capabilities.1 (session.capabilities.2.notify notice)
            points).1 with
          | .ok () => demand :: outstanding
          | .error _ => outstanding) := by
    intro notice points serves
    have noted : (session.capabilities.2.notify notice).Balanced session.capabilities.1
        outstanding := balanced.sameTables (.of_kernel _ _ _)
    cases outcome : Session.insertPoints session.capabilities.1 (session.capabilities.2.notify notice)
        points with
    | mk result after =>
        cases result with
        | ok => exact noted.insertPoints_ok serves outcome
        | error error =>
            have trustNoted : trusted (session.capabilities.2.notify notice).kernel := trust
            exact noted.insertPoints_error reliable trustNoted outcome
  cases demand with
  | plain request =>
      change (session.insert request).2.Balanced _ (match (session.insert request).1 with
        | .ok () => Demand.plain request :: outstanding
        | .error _ => outstanding)
      unfold insert
      dsimp only
      cases encoded : encodeRequest session.capabilities.2 request session.capabilities.1
          (session.capabilities.2.insertComparator? request session.capabilities.1) with
      | error error => exact balanced
      | ok points => exact settle _ points (.plain (insertComparator?_cases _ _ _) encoded)
  | masked kind address mask =>
      change (session.insertMasked kind address mask).2.Balanced _
        (match (session.insertMasked kind address mask).1 with
          | .ok () => Demand.masked kind address mask :: outstanding
          | .error _ => outstanding)
      unfold insertMasked
      dsimp only
      cases encoded : encodeMasked kind address mask session.capabilities.1 with
      | error error => exact balanced
      | ok point => exact settle _ [point] (.masked encoded)

theorem Balanced.removeDemand (reliable : Reliable session.capabilities.1 trusted)
    (trust : trusted session.capabilities.2.kernel)
    (balanced : session.capabilities.2.Balanced session.capabilities.1 outstanding)
    (member : demand ∈ outstanding) :
    ∃ after, session.removeDemand demand = (.ok (), after) ∧
      after.Balanced session.capabilities.1 (outstanding.erase demand) := by
  obtain ⟨total, ledger, holds⟩ := balanced.ledger
  have sound := balanced.sound
  have inhabited := balanced.inhabited
  have take : ∀ (notice : Notice) (points : List EncodedPoint) (base : Multiset EncodedPoint),
      total = ↑points + base →
      Ledger session.capabilities.1 session.capabilities.2.restriction.table?
        (outstanding.erase demand) base →
      ∃ after, Session.removePoints session.capabilities.1
          (session.capabilities.2.notify notice) points = (.ok (), after) ∧
        after.Balanced session.capabilities.1 (outstanding.erase demand) := by
    intro notice points base same remaining
    have noted : (session.capabilities.2.notify notice).Sound := sound.congr rfl rfl
    have trustNoted : trusted (session.capabilities.2.notify notice).kernel := trust
    exact Balanced.removePoints reliable trustNoted noted inhabited remaining
      fun thread tracked => (holds thread tracked).trans same
  have installed : ∀ {points : List EncodedPoint},
      Serves session.capabilities.1 session.capabilities.2.restriction.table? demand points →
      (session.capabilities.2.isInstalled points = true ↔ ∀ point ∈ points, point ∈ total) := by
    intro points serves
    obtain ⟨kind, some, kinds⟩ := serves.shape
    exact Balanced.isInstalled_iff sound inhabited holds some kinds
  cases demand with
  | plain request =>
      have possible : ∃ preferred, session.capabilities.2.encodeRequest request
          session.capabilities.1 (removeComparator? request session.capabilities.1) =
            .ok preferred := by
        obtain ⟨points, _, serves, _, _⟩ := ledger.split member
        cases serves with
        | plain chosen stored =>
            obtain ⟨bare, plain, _⟩ := encode_plain stored
            exact encode_isOk plain _
      obtain ⟨preferred, encoded⟩ := possible
      have there := installed (.plain (.inr rfl) encoded)
      change ∃ after, session.remove request = _ ∧ _
      unfold remove
      simp only [encoded]
      by_cases whole : ∀ point ∈ preferred, point ∈ total
      · obtain ⟨base, same, remaining⟩ := ledger.takePreferred member encoded whole
        have present := there.mpr whole
        simp only [present, Bool.not_true, Bool.and_false, Bool.false_eq_true, if_false, if_true]
        exact take _ preferred base same remaining
      -- Some conditional point is missing, so this demand or another one was served
      -- without a comparator, and the removal falls back to that.
      · obtain ⟨bare, base, plain, same, remaining⟩ := ledger.takePlain member encoded whole
        have absent : session.capabilities.2.isInstalled preferred = false :=
          Bool.eq_false_iff.mpr fun present => whole (there.mp present)
        have present : session.capabilities.2.isInstalled bare = true := by
          refine (installed (.plain (.inl rfl) plain)).mpr fun point listed => ?_
          rw [same]
          exact Multiset.mem_add.mpr (.inl (Multiset.mem_coe.mpr listed))
        have compares : (removeComparator? request session.capabilities.1).isSome = true := by
          refine Option.isSome_iff_ne_none.mpr fun unconditional => whole ?_
          rw [unconditional] at encoded
          rw [encodeRequest, plain] at encoded
          cases encoded
          exact (installed (.plain (.inl rfl) plain)).mp present
        have second : session.capabilities.2.encodeRequest request session.capabilities.1 none =
            .ok bare := plain
        simp only [compares, absent, Bool.not_false, Bool.and_self, if_true, second, present]
        exact take _ bare base same remaining
  | masked kind address mask =>
      obtain ⟨points, base, serves, remaining, same⟩ := ledger.split member
      have there := installed serves
      cases serves with
      | @masked _ _ _ point encoded =>
          have present : session.capabilities.2.isInstalled [point] = true := by
            refine there.mpr fun other listed => ?_
            rw [same]
            exact Multiset.mem_add.mpr (.inl (Multiset.mem_coe.mpr listed))
          change ∃ after, session.removeMasked kind address mask = _ ∧ _
          unfold removeMasked
          simp only [encoded, present, if_true]
          exact take _ [point] base same remaining

end Demands

end DebugRegisters.Session
