import LongPoll.Transport

set_option autoImplicit false

/-!
The categories that a channel carries, each with its direction. Main statements: a later entry for
a category replaces an earlier one, and the list of pairs says what the look-up says.
-/

namespace LongPoll

/-- A direction for some of the categories. -/
structure SupportedTypes where
  direction? : TransportType → Option Direction

namespace SupportedTypes

def empty : SupportedTypes := ⟨fun _ => none⟩

/-- Gives a category a direction, in place of any it had. -/
def insert (types : SupportedTypes) (type : TransportType) (direction : Direction) :
    SupportedTypes :=
  ⟨fun other => if other = type then some direction else types.direction? other⟩

/-- The last pair for a category decides. -/
def ofList (pairs : List (TransportType × Direction)) : SupportedTypes :=
  pairs.foldl (fun types pair => types.insert pair.1 pair.2) empty

/-- The pairs in ascending order of their categories. -/
def toList (types : SupportedTypes) : List (TransportType × Direction) :=
  TransportType.all.filterMap fun type => (types.direction? type).map (type, ·)

def contains (types : SupportedTypes) (type : TransportType) : Bool :=
  (types.direction? type).isSome

def size (types : SupportedTypes) : Nat := types.toList.length

def isEmpty (types : SupportedTypes) : Bool := types.size = 0

/-- A synchronization may be asked for what the client sends. -/
def isSyncAllowed (types : SupportedTypes) (type : TransportType) : Bool :=
  (types.direction? type).any Direction.isOutgoing

/-- The categories that the client sends, in ascending order. -/
def outgoing (types : SupportedTypes) : List TransportType :=
  (types.toList.filter fun pair => pair.2.isOutgoing).map (·.1)

theorem ext_direction {first second : SupportedTypes}
    (same : ∀ type, first.direction? type = second.direction? type) : first = second := by
  cases first
  cases second
  exact congrArg SupportedTypes.mk (funext same)

theorem direction?_insert (types : SupportedTypes) (type other : TransportType)
    (direction : Direction) : (types.insert type direction).direction? other
      = if other = type then some direction else types.direction? other := rfl

theorem mem_toList {types : SupportedTypes} {type : TransportType} {direction : Direction} :
    (type, direction) ∈ types.toList ↔ types.direction? type = some direction := by
  simp only [toList, List.mem_filterMap, Option.map_eq_some_iff, Prod.mk.injEq]
  constructor
  · rintro ⟨found, _, value, present, rfl, rfl⟩
    exact present
  · intro present
    exact ⟨type, type.mem_all, direction, present, rfl, rfl⟩

theorem direction?_foldl_of_absent {entries : List (TransportType × Direction)}
    {type : TransportType} (absent : ∀ pair ∈ entries, pair.1 ≠ type) (start : SupportedTypes) :
    (entries.foldl (fun types pair => types.insert pair.1 pair.2) start).direction? type =
      start.direction? type := by
  induction entries generalizing start with
  | nil => rfl
  | cons pair entries ih =>
    rw [List.foldl_cons, ih fun other member => absent other (List.mem_cons_of_mem _ member),
      direction?_insert, if_neg (absent pair List.mem_cons_self).symm]

/-- Among entries for distinct categories, the one for a category decides. -/
theorem direction?_foldl_of_mem {entries : List (TransportType × Direction)}
    {type : TransportType} {direction : Direction}
    (distinct : entries.Pairwise fun first second => first.1 ≠ second.1)
    (member : (type, direction) ∈ entries) (start : SupportedTypes) :
    (entries.foldl (fun types pair => types.insert pair.1 pair.2) start).direction? type =
      some direction := by
  induction entries generalizing start with
  | nil => cases member
  | cons pair entries ih =>
    obtain ⟨others, distinct⟩ := List.pairwise_cons.mp distinct
    rw [List.foldl_cons]
    rcases List.mem_cons.mp member with rfl | later
    · rw [direction?_foldl_of_absent (fun other member => (others other member).symm),
        direction?_insert, if_pos rfl]
    · exact ih distinct later _

theorem pairwise_toList (types : SupportedTypes) :
    types.toList.Pairwise fun first second => first.1 ≠ second.1 := by
  have distinct : TransportType.all.Pairwise (· ≠ ·) := by decide
  refine distinct.filterMap _ ?_
  intro first second differ one shown other found
  obtain ⟨_, -, rfl⟩ := Option.map_eq_some_iff.mp shown
  obtain ⟨_, -, rfl⟩ := Option.map_eq_some_iff.mp found
  exact differ

/-- The entries make up the types again, in whatever order they come. -/
theorem ofList_of_perm {types : SupportedTypes} {entries : List (TransportType × Direction)}
    (order : entries.Perm types.toList) : ofList entries = types := by
  have distinct : entries.Pairwise fun first second => first.1 ≠ second.1 :=
    order.symm.pairwise types.pairwise_toList fun differ => differ.symm
  apply ext_direction
  intro type
  unfold ofList
  cases known : types.direction? type with
  | some direction =>
    exact direction?_foldl_of_mem distinct (order.mem_iff.mpr (mem_toList.mpr known)) _
  | none =>
    rw [direction?_foldl_of_absent]
    · rfl
    · rintro ⟨other, direction⟩ member rfl
      rw [mem_toList.mp (order.mem_iff.mp member)] at known
      cases known

instance : DecidableEq SupportedTypes := fun first second =>
  if same : ∀ type ∈ TransportType.all, first.direction? type = second.direction? type then
    isTrue (ext_direction fun type => same type type.mem_all)
  else
    isFalse fun equal => same fun _ _ => equal ▸ rfl

end SupportedTypes
end LongPoll
