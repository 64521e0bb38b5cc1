import LongPoll.Proofs.LastEntry
import LongPoll.Proofs.Multipart

set_option autoImplicit false

/-!
The fields of a post as a map that keeps its order. A setting puts its name at the end, or finds it
and leaves the names as they are. So a name keeps the place of its first setting, while its value is
that of the last one: the two come from different settings.
-/

namespace LongPoll.FormPost

/-! ### One setting -/

theorem names_setIn (fields : List (String × Bytes)) (name : String) (value : Bytes) :
    (setIn fields name value).map Prod.fst =
      if name ∈ fields.map Prod.fst then fields.map Prod.fst
      else fields.map Prod.fst ++ [name] := by
  induction fields with
  | nil => rfl
  | cons field rest ih =>
      by_cases same : field.1 = name
      · simp [setIn, same]
      · have other : name ≠ field.1 := fun found => same found.symm
        simp only [setIn, if_neg same, List.map_cons, ih, List.mem_cons, other, false_or]
        split
        · rfl
        · rfl

theorem field?_set (post : FormPost) (name other : String) (value : Bytes) :
    (post.set name value).field? other = if other = name then some value else post.field? other := by
  by_cases same : other = name
  · rw [if_pos same, same, field?_set_same]
  · rw [if_neg same, field?_set_other post name other value same]

/-! ### All settings -/

theorem setAll_concat (post : FormPost) (settings : List (String × Bytes))
    (setting : String × Bytes) :
    post.setAll (settings ++ [setting]) = (post.setAll settings).set setting.1 setting.2 := by
  unfold setAll
  rw [List.foldl_append, List.foldl_cons, List.foldl_nil]

section New

variable (url : Url) (boundary : String) (settings : List (String × Bytes))

theorem names_setAll : (setAll { url, boundary } settings).fields.map Prod.fst =
    (settings.map Prod.fst).eraseDups := by
  induction settings using List.reverseRecOn with
  | nil => rfl
  | append_singleton settings setting ih =>
      rw [setAll_concat, List.map_append, List.map_cons, List.map_nil, eraseDups_concat]
      -- A name set again is found in its place, and a new one comes behind all that are there.
      refine (names_setIn _ setting.1 setting.2).trans ?_
      rw [ih]
      simp only [List.mem_eraseDups]

theorem field?_setAll (name : String) :
    (setAll { url, boundary } settings).field? name = lastValue? settings name := by
  induction settings using List.reverseRecOn with
  | nil => rfl
  | append_singleton settings setting ih =>
      rw [setAll_concat, field?_set, lastValue?_concat, ih]

end New

/-! ### What the fields are -/

/-- Every name that has been set, in the order of first setting, with the value of its last. -/
def settled (settings : List (String × Bytes)) : List (String × Bytes) :=
  (settings.map Prod.fst).eraseDups.filterMap fun name =>
    (lastValue? settings name).map (name, ·)

theorem names_settled (settings : List (String × Bytes)) :
    (settled settings).map Prod.fst = (settings.map Prod.fst).eraseDups := by
  have kept : ∀ name ∈ (settings.map Prod.fst).eraseDups,
      ((lastValue? settings name).map (name, ·)).map Prod.fst = some name := by
    intro name listed
    cases value : lastValue? settings name with
    | none => exact absurd (List.mem_eraseDups.mp listed) (lastValue?_eq_none_iff.mp value)
    | some value => rfl
  rw [settled, List.map_filterMap, List.filterMap_congr kept, List.filterMap_some]

/-- A field that stands alone under its name is the one found by it. -/
theorem field?_of_mem {post : FormPost} (distinct : (post.fields.map Prod.fst).Nodup)
    {field : String × Bytes} (member : field ∈ post.fields) :
    post.field? field.1 = some field.2 := by
  unfold field?
  generalize post.fields = fields at distinct member ⊢
  induction fields with
  | nil => cases member
  | cons first rest ih =>
      obtain ⟨alone, distinct⟩ := List.nodup_cons.mp distinct
      rcases List.mem_cons.mp member with rfl | later
      · simp
      · have other : first.1 ≠ field.1 := by
          intro same
          exact alone (List.mem_map.mpr ⟨field, later, same.symm⟩)
        rw [List.find?_cons_of_neg (by simpa using other)]
        exact ih distinct later

theorem fields_setAll_eq (url : Url) (boundary : String) (settings : List (String × Bytes)) :
    (setAll { url, boundary } settings).fields = settled settings := by
  -- Names that do not repeat leave one value for each: the one that is found.
  have names := names_setAll url boundary settings
  have distinct : ((setAll { url, boundary } settings).fields.map Prod.fst).Nodup :=
    names ▸ nodup_eraseDups _
  have own : ∀ field ∈ (setAll { url, boundary } settings).fields,
      (lastValue? settings field.1).map (field.1, ·) = some field := by
    intro field member
    rw [← field?_setAll url boundary, field?_of_mem distinct member, Option.map_some]
  rw [settled, ← names, List.filterMap_map]
  exact ((List.filterMap_congr own).trans List.filterMap_some).symm

/-- A part line by line: the delimiter, the name, the type, a blank line and the value. -/
def lines (boundary : String) (field : String × Bytes) : Bytes :=
  delimiter boundary ++ lineEnd ++ disposition field.1 ++ lineEnd ++ octets ++ lineEnd ++
    lineEnd ++ field.2 ++ lineEnd

theorem body_eq_lines (post : FormPost) : post.body =
    post.fields.flatMap (lines post.boundary) ++
      (delimiter post.boundary ++ utf8 "--" ++ lineEnd) := by
  have parts : part post.boundary = lines post.boundary := by
    funext field
    rw [part_eq, lines]
    simp only [List.append_assoc]
  have closing : utf8 ("--" ++ post.boundary ++ "--\r\n") =
      delimiter post.boundary ++ utf8 "--" ++ lineEnd := by
    have ended : utf8 "--\r\n" = utf8 "--" ++ lineEnd := by decide
    rw [utf8_append, utf8_append, ended, delimiter, List.append_assoc _ (utf8 "--") lineEnd]
  rw [body, parts, closing]

/-- A new post is an insertion-ordered map. Its fields are the names that have been set, each once
and in the order of first setting, with the value of the last setting. A name is looked up to that
value, and to nothing if it has not been set. The body has a part for each of these fields, in their
order and with their values. -/
theorem fields_setAll (url : Url) (boundary : String) (settings : List (String × Bytes)) :
    let post := setAll { url, boundary } settings
    post.fields = settled settings ∧
    (settled settings).map Prod.fst = (settings.map Prod.fst).eraseDups ∧
    (post.fields.map Prod.fst).Nodup ∧
    (∀ name, post.field? name = lastValue? settings name) ∧
    (∀ name, post.field? name = none ↔ name ∉ settings.map Prod.fst) ∧
    post.body = (settled settings).flatMap (lines boundary) ++
      (delimiter boundary ++ utf8 "--" ++ lineEnd) := by
  intro post
  have fields : post.fields = settled settings := fields_setAll_eq url boundary settings
  have found : ∀ name, post.field? name = lastValue? settings name :=
    field?_setAll url boundary settings
  have own : post.boundary = boundary := (setAll_kept { url, boundary } settings).2
  refine ⟨fields, names_settled settings, ?_, found, ?_, ?_⟩
  · rw [fields, names_settled]
    exact nodup_eraseDups _
  · intro name
    rw [found]
    exact lastValue?_eq_none_iff
  · rw [body_eq_lines, fields, own]

end LongPoll.FormPost
