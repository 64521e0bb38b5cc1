import Mathlib.Data.List.Induction
import Mathlib.Data.List.Nodup

set_option autoImplicit false

/-!
Lists of entries of which the last for a key counts, and the keys of such a list, each once and in
the order in which they first come. Both are followed as the list grows at its end.
-/

namespace LongPoll

variable {α β : Type} [DecidableEq α]

/-- What the last entry for a key says, if there is one. -/
def lastValue? (entries : List (α × β)) (key : α) : Option β := entries.reverse.lookup key

theorem lastValue?_concat (entries : List (α × β)) (entry : α × β) (key : α) :
    lastValue? (entries ++ [entry]) key =
      if key = entry.1 then some entry.2 else lastValue? entries key := by
  unfold lastValue?
  rw [List.reverse_append, List.reverse_singleton, List.singleton_append, List.lookup_cons]
  by_cases same : key = entry.1
  · rw [if_pos same, beq_iff_eq.mpr same]
  · rw [if_neg same, beq_eq_false_iff_ne.mpr same]

theorem lastValue?_eq_none_iff {entries : List (α × β)} {key : α} :
    lastValue? entries key = none ↔ key ∉ entries.map Prod.fst := by
  induction entries using List.reverseRecOn with
  | nil => exact ⟨fun _ => List.not_mem_nil, fun _ => rfl⟩
  | append_singleton entries entry ih =>
      rw [lastValue?_concat, List.map_append, List.mem_append, not_or, ← ih]
      by_cases same : key = entry.1
      · simp [same]
      · simp [same]

theorem eraseDups_concat (keys : List α) (key : α) :
    (keys ++ [key]).eraseDups =
      if key ∈ keys then keys.eraseDups else keys.eraseDups ++ [key] := by
  rw [List.eraseDups_append]
  by_cases known : key ∈ keys
  · simp [List.removeAll, known]
  · simp [List.removeAll, known, List.eraseDups_cons]

theorem nodup_eraseDups (keys : List α) : keys.eraseDups.Nodup := by
  induction keys using List.reverseRecOn with
  | nil => exact List.nodup_nil
  | append_singleton keys key ih =>
      rw [eraseDups_concat]
      split
      · exact ih
      · rename_i fresh
        rw [← List.concat_eq_append]
        exact ih.concat fun listed => fresh (List.mem_eraseDups.mp listed)

end LongPoll
