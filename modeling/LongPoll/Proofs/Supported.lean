import LongPoll.Proofs.LastEntry
import LongPoll.Transport.Supported

set_option autoImplicit false

/-!
The views of supported types. A table is built from pairs one after another and hands out its
entries in an order of its own. What is looked up in it, what is counted, what it hands out and what
is sorted from that describe the same thing: the last direction of each category among the pairs.
-/

namespace LongPoll.SupportedTypes

variable {pairs entries : List (TransportType × Direction)}

/-! ### Look-up -/

theorem ofList_concat (pairs : List (TransportType × Direction))
    (pair : TransportType × Direction) :
    ofList (pairs ++ [pair]) = (ofList pairs).insert pair.1 pair.2 := by
  unfold ofList
  rw [List.foldl_append, List.foldl_cons, List.foldl_nil]

theorem direction?_ofList (pairs : List (TransportType × Direction)) (type : TransportType) :
    (ofList pairs).direction? type = lastValue? pairs type := by
  induction pairs using List.reverseRecOn with
  | nil => rfl
  | append_singleton pairs pair ih =>
      rw [ofList_concat, direction?_insert, lastValue?_concat, ih]

theorem contains_ofList (pairs : List (TransportType × Direction)) (type : TransportType) :
    (ofList pairs).contains type = true ↔ type ∈ pairs.map Prod.fst := by
  unfold contains
  rw [direction?_ofList, Option.isSome_iff_ne_none, ne_eq, lastValue?_eq_none_iff, not_not]

theorem ofList_eq_iff {others : List (TransportType × Direction)} :
    ofList pairs = ofList others ↔ ∀ type, lastValue? pairs type = lastValue? others type := by
  simp only [← direction?_ofList]
  constructor
  · intro same type
    rw [same]
  · exact ext_direction

/-! ### Entries in any order -/

theorem mem_entries {types : SupportedTypes} (order : entries.Perm types.toList)
    {type : TransportType} {direction : Direction} :
    (type, direction) ∈ entries ↔ types.direction? type = some direction :=
  order.mem_iff.trans mem_toList

theorem types_perm (order : entries.Perm (ofList pairs).toList) :
    (entries.map Prod.fst).Perm (pairs.map Prod.fst).eraseDups := by
  have once : (entries.map Prod.fst).Nodup := by
    apply (order.map Prod.fst).nodup_iff.mpr
    exact List.pairwise_map.mpr (ofList pairs).pairwise_toList
  -- Neither list repeats a category, so that it is enough to compare what they contain.
  apply (List.perm_ext_iff_of_nodup once (nodup_eraseDups _)).mpr
  intro type
  rw [List.mem_eraseDups, ← contains_ofList pairs, contains, Option.isSome_iff_exists, List.mem_map]
  constructor
  · rintro ⟨⟨_, direction⟩, member, rfl⟩
    exact ⟨direction, (mem_entries order).mp member⟩
  · rintro ⟨direction, known⟩
    exact ⟨(type, direction), (mem_entries order).mpr known, rfl⟩

/-! ### What the client sends -/

/-- What sorting the outgoing categories among the entries may give. -/
structure Arranges (entries : List (TransportType × Direction)) (types : List TransportType) :
    Prop where
  same : types.Perm ((entries.filter fun pair => pair.2.isOutgoing).map Prod.fst)
  ascending : types.Pairwise fun first second => (compare first second).isLE

theorem outgoing_ascending (types : SupportedTypes) :
    types.outgoing.Pairwise fun first second => compare first second = .lt := by
  have all : TransportType.all.Pairwise fun first second => compare first second = .lt := by decide
  have listed : types.toList.Pairwise fun first second => compare first.1 second.1 = .lt := by
    refine all.filterMap _ ?_
    intro first second less one shown other found
    obtain ⟨_, -, rfl⟩ := Option.map_eq_some_iff.mp shown
    obtain ⟨_, -, rfl⟩ := Option.map_eq_some_iff.mp found
    exact less
  exact List.pairwise_map.mpr (listed.filter _)

theorem mem_outgoing {types : SupportedTypes} {type : TransportType} :
    type ∈ types.outgoing ↔ types.isSyncAllowed type = true := by
  unfold outgoing isSyncAllowed
  rw [List.mem_map, Option.any_eq_true]
  constructor
  · rintro ⟨⟨_, direction⟩, member, rfl⟩
    obtain ⟨member, sent⟩ := List.mem_filter.mp member
    exact ⟨direction, mem_toList.mp member, sent⟩
  · rintro ⟨direction, known, sent⟩
    exact ⟨(type, direction), List.mem_filter.mpr ⟨mem_toList.mpr known, sent⟩, rfl⟩

theorem eq_of_compare {first second : TransportType} (le : (compare first second).isLE)
    (ge : (compare second first).isLE) : first = second := by
  have checked : ∀ first ∈ TransportType.all, ∀ second ∈ TransportType.all,
      (compare first second).isLE → (compare second first).isLE → first = second := by decide
  exact checked first first.mem_all second second.mem_all le ge

/-- However the entries come and are sorted, the outcome is the same. -/
theorem arranges_iff {types : SupportedTypes} (order : entries.Perm types.toList)
    {sent : List TransportType} : Arranges entries sent ↔ sent = types.outgoing := by
  have outgoing : types.outgoing.Perm
      ((entries.filter fun pair => pair.2.isOutgoing).map Prod.fst) :=
    ((order.filter _).map _).symm
  have ascending : types.outgoing.Pairwise fun first second => (compare first second).isLE :=
    types.outgoing_ascending.imp fun less => by rw [less]; rfl
  constructor
  · intro arranged
    -- The order is antisymmetric: two ascending lists of the same categories are equal.
    exact (arranged.same.trans outgoing.symm).eq_of_pairwise
      (fun _ _ _ _ le ge => eq_of_compare le ge) arranged.ascending ascending
  · rintro rfl
    exact ⟨outgoing, ascending⟩

/-- The views of what a list of pairs makes up agree, in whatever order its entries are handed out.
A category has the direction of its last pair. The categories contained, those handed out and their
number are the distinct ones of the list. The outgoing categories, however they are sorted, come in
strictly ascending order and are those for which a synchronization is allowed. Two lists make up the
same exactly if they have the same last direction for every category. -/
theorem views_agree (order : entries.Perm (ofList pairs).toList) :
    (∀ type, (ofList pairs).direction? type = lastValue? pairs type) ∧
    (∀ type, lastValue? pairs type = none ↔ type ∉ pairs.map Prod.fst) ∧
    (∀ type, (ofList pairs).contains type = true ↔ type ∈ pairs.map Prod.fst) ∧
    (ofList pairs).size = (pairs.map Prod.fst).eraseDups.length ∧
    (entries.map Prod.fst).Perm (pairs.map Prod.fst).eraseDups ∧
    (∀ type direction, (type, direction) ∈ entries ↔ lastValue? pairs type = some direction) ∧
    (∀ sent, Arranges entries sent ↔ sent = (ofList pairs).outgoing) ∧
    ((ofList pairs).outgoing.Pairwise fun first second => compare first second = .lt) ∧
    (∀ type, type ∈ (ofList pairs).outgoing ↔ (ofList pairs).isSyncAllowed type = true) ∧
    ∀ others, ofList pairs = ofList others ↔
      ∀ type, lastValue? pairs type = lastValue? others type := by
  refine ⟨direction?_ofList pairs, fun _ => lastValue?_eq_none_iff, contains_ofList pairs, ?_,
    types_perm order, ?_, fun _ => arranges_iff order, outgoing_ascending _,
    fun _ => mem_outgoing, fun _ => ofList_eq_iff⟩
  · have length := (types_perm (List.Perm.refl (ofList pairs).toList)).length_eq
    rw [List.length_map] at length
    exact length
  · intro type direction
    rw [mem_entries order, direction?_ofList]

/-- Repeated categories, of which one no longer goes out, and entries that come in no order. -/
theorem views_agree_repeated :
    ∃ pairs entries : List (TransportType × Direction),
      pairs = [(.event, .down), (.profile, .up), (.user, .up), (.event, .bidirectional),
        (.profile, .down)] ∧
      entries = [(.event, .bidirectional), (.profile, .down), (.user, .up)] ∧
      entries.Perm (ofList pairs).toList ∧ (ofList pairs).size = 3 ∧
      (ofList pairs).direction? .profile = some .down ∧ (ofList pairs).direction? .logging = none ∧
      [.user, .event] = (ofList pairs).outgoing ∧ ofList pairs = ofList entries := by
  refine ⟨_, _, rfl, rfl, ?_⟩
  have order : List.Perm [(.event, .bidirectional), (.profile, .down), (.user, .up)]
      (ofList [(.event, .down), (.profile, .up), (.user, .up), (.event, .bidirectional),
        (.profile, .down)]).toList := by decide
  obtain ⟨found, _, _, size, _, _, sorted, _, _, equal⟩ := views_agree order
  refine ⟨order, size, found .profile, found .logging, ?_, ?_⟩
  · exact (sorted _).mp ⟨by decide, by decide⟩
  · apply (equal _).mpr
    intro type
    cases type <;> rfl

end LongPoll.SupportedTypes
