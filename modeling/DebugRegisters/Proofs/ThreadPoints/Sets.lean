import DebugRegisters.ThreadPoints.Lemmas

/-!
# Properties of all sets

What holds of every thread's points holds after sets are made, changed, dropped
or added, as long as each set that is made or changed has the property.
-/

set_option autoImplicit false

namespace DebugRegisters.ThreadSets

/-- Every set has the property, those that a lookup does not find included. -/
def All (holds : ThreadPoints → Prop) (sets : ThreadSets) : Prop :=
  ∀ points ∈ sets.toList, holds points

variable {holds : ThreadPoints → Prop} {sets : ThreadSets}

theorem all_empty : empty.All holds :=
  fun _ none => by cases none

theorem All.get? (all : sets.All holds) {thread : ThreadId} {points : ThreadPoints}
    (found : sets.get? thread = some points) : holds points :=
  all points (mem_of_get? found)

theorem All.last? (all : sets.All holds) {points : ThreadPoints}
    (last : sets.last? = some points) : holds points :=
  all points (List.mem_of_getLast? last)

theorem All.ensure (all : sets.All holds) {thread : ThreadId} {caps : Capabilities}
    (made : holds (.empty thread caps)) : (sets.ensure thread caps).All holds := by
  unfold ThreadSets.ensure
  split
  · exact all
  · intro points member
    rcases List.mem_append.mp member with before | added
    · exact all points before
    · exact List.mem_singleton.mp added ▸ made

theorem All.update (all : sets.All holds) {thread : ThreadId} {change : ThreadPoints → ThreadPoints}
    (changed : ∀ points, points.thread = thread → holds points → holds (change points)) :
    (sets.update thread change).All holds := by
  intro points member
  obtain ⟨before, there, rfl⟩ := List.mem_map.mp member
  split
  · next same => exact changed before same (all before there)
  · exact all before there

theorem All.map (all : sets.All holds) {change : ThreadPoints → ThreadPoints}
    (changed : ∀ points, holds points → holds (change points)) : (sets.map change).All holds := by
  intro points member
  obtain ⟨before, there, rfl⟩ := List.mem_map.mp member
  exact changed before (all before there)

theorem All.erase (all : sets.All holds) (thread : ThreadId) : (sets.erase thread).All holds :=
  fun points member => all points (List.mem_filter.mp member).1

theorem All.insert (all : sets.All holds) {points : ThreadPoints} (added : holds points) :
    (sets.insert points).All holds := by
  intro other member
  rcases List.mem_append.mp member with before | last
  · exact all.erase points.thread other before
  · exact List.mem_singleton.mp last ▸ added

end DebugRegisters.ThreadSets
