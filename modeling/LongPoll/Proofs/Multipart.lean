import LongPoll.Http.Form.Reader
import Mathlib.Data.List.Basic

set_option autoImplicit false

/-!
What a reader makes of a form post on the wire. The mark after a value begins with a carriage return
and has no other, so that it can stand nowhere across the end of a value: the reader stops at the
end of a value exactly if the mark does not stand within it. Every line of the head and of a part
ends at its own line end for the same reason.
-/

namespace LongPoll

/-- No line ends within the text. -/
def OneLine (text : String) : Prop := '\r' ∉ text.toList ∧ '\n' ∉ text.toList

instance (text : String) : Decidable (OneLine text) :=
  inferInstanceAs (Decidable (_ ∧ _))

/-- A URL as they are read: none of the parts that a request names is broken into lines. -/
structure Url.Unbroken (url : Url) : Prop where
  host : ∀ host, url.host? = some host → OneLine host
  path : OneLine url.path
  query : ∀ query, url.query = some query → OneLine query

/-! ### Bytes of a text -/

/-- Only the first byte of a one-byte encoding is below 128. -/
theorem toNat_of_mem_utf8EncodeChar {c : Char} {byte : UInt8}
    (member : byte ∈ String.utf8EncodeChar c) (ascii : byte.toNat < 128) :
    c.toNat = byte.toNat := by
  have range : c.val.toNat = c.toNat := rfl
  unfold String.utf8EncodeChar at member
  simp only [range] at member
  (repeat' split at member) <;> simp only [List.mem_cons, List.not_mem_nil, or_false] at member
  · rw [member]
    simp
    omega
  · rcases member with rfl | rfl <;> simp at ascii <;> omega
  · rcases member with rfl | rfl | rfl <;> simp at ascii <;> omega
  · rcases member with rfl | rfl | rfl | rfl <;> simp at ascii <;> omega

theorem OneLine.not_mem_utf8 {text : String} (one : OneLine text) : 13 ∉ utf8 text := by
  intro member
  obtain ⟨c, present, encoded⟩ := List.mem_flatMap.mp member
  have same : c.toNat = '\r'.toNat := toNat_of_mem_utf8EncodeChar encoded (by decide)
  rw [Char.toNat_inj.mp same] at present
  exact one.1 present

theorem OneLine.append {first second : String} (left : OneLine first) (right : OneLine second) :
    OneLine (first ++ second) := by
  unfold OneLine
  rw [String.toList_append, List.mem_append, List.mem_append]
  exact ⟨not_or.mpr ⟨left.1, right.1⟩, not_or.mpr ⟨left.2, right.2⟩⟩

theorem OneLine.of_decimal (value : Nat) : OneLine (toString value) := by
  have digits : (toString value).toList = Nat.toDigits 10 value := Nat.toList_repr
  have decimal {c : Char} (member : c ∈ (toString value).toList) : c.isDigit = true := by
    rw [digits] at member
    exact Nat.isDigit_of_mem_toDigits (by decide) (by decide) member
  exact ⟨fun impossible => absurd (decimal impossible) (by decide),
    fun impossible => absurd (decimal impossible) (by decide)⟩

/-! ### Cutting at a mark -/

section Cutting

variable {mark bytes : Bytes}

theorem isSome_dropInfix?_go {acc : Bytes} (within : mark <:+: bytes) :
    (List.dropInfix?.go mark bytes acc).isSome = true := by
  induction bytes generalizing acc with
  | nil =>
      rw [List.infix_nil.mp within]
      rfl
  | cons byte bytes ih =>
      unfold List.dropInfix?.go
      split
      · rename_i absent
        rcases List.infix_cons_iff.mp within with ⟨after, first⟩ | later
        · rw [← first, List.dropPrefix?_append_of_beq after (beq_self_eq_true mark)] at absent
          cases absent
        · exact ih later
      · rfl

/-- A mark whose first byte comes only once in it is found at the end of a value or within it. -/
theorem dropInfix?_append (value rest : Bytes) {first : UInt8} {others : Bytes}
    (shape : mark = first :: others) (lone : first ∉ others) :
    ∃ before after, (value ++ (mark ++ rest)).dropInfix? mark = some (before, after) ∧
      (before = value → after = rest) ∧ (before = value ↔ ¬ mark <:+: value) := by
  have within : mark <:+: value ++ (mark ++ rest) := ⟨value, rest, List.append_assoc ..⟩
  obtain ⟨⟨before, after⟩, found⟩ := Option.isSome_iff_exists.mp (isSome_dropInfix?_go within)
  obtain ⟨⟨same, split, equal⟩, least⟩ := List.dropInfix?_eq_some_iff.mp found
  rw [eq_of_beq equal, List.append_assoc] at split
  refine ⟨before, after, found, ?_, ?_, ?_⟩
  · rintro rfl
    exact (List.append_cancel_left (List.append_cancel_left split)).symm
  · rintro rfl ⟨left, right, middle⟩
    have earlier : before ++ (mark ++ rest) = left ++ mark ++ (right ++ (mark ++ rest)) := by
      rw [← List.append_assoc (left ++ mark), middle]
    have bound := least left mark _ earlier (beq_self_eq_true mark)
    have length := congrArg List.length middle
    simp only [List.length_append, shape, List.length_cons] at length
    omega
  · intro clean
    have bound := least value mark rest (List.append_assoc ..).symm (beq_self_eq_true mark)
    rcases List.append_eq_append_iff.mp split.symm with ⟨more, ends, begins⟩ | ⟨more, ends, _⟩
    · -- The mark found begins within the value: it ends there, or has its first byte twice.
      rcases more with _ | ⟨byte, more⟩
      · rw [List.append_nil] at ends
        exact ends.symm
      · rcases List.append_eq_append_iff.mp begins with ⟨tail, own, _⟩ | ⟨tail, own, next⟩
        · exact absurd ⟨before, tail, by rw [ends, own, List.append_assoc]⟩ clean
        · rcases tail with _ | ⟨other, tail⟩
          · rw [List.append_nil] at own
            exact absurd ⟨before, [], by rw [ends, ← own, List.append_nil]⟩ clean
          · rw [shape] at own next
            have again : first = other := (List.cons.inj next).1
            rw [(List.cons.inj own).2, ← again] at lone
            exact absurd (List.mem_append_right _ List.mem_cons_self) lone
    · have length := congrArg List.length ends
      rw [List.length_append] at length
      have empty : more = [] := List.eq_nil_of_length_eq_zero (by omega)
      rw [ends, empty, List.append_nil]

end Cutting

namespace FormPost

theorem dropInfix?_lineEnd {line : Bytes} (rest : Bytes) (unbroken : 13 ∉ line) :
    (line ++ (lineEnd ++ rest)).dropInfix? lineEnd = some (line, rest) := by
  have shape : lineEnd = 13 :: [10] := by decide
  obtain ⟨before, after, found, ends, clean⟩ :=
    dropInfix?_append line rest shape (by decide)
  have same : before = line := by
    apply clean.mpr
    intro within
    exact unbroken (within.subset (by rw [shape]; exact List.mem_cons_self))
  rw [found, same, ends same]

/-! ### The head -/

theorem readHead?_blank (rest : Bytes) : readHead? (lineEnd ++ rest) = some ([], rest) := by
  have cut : (lineEnd ++ rest).dropInfix? lineEnd = some ([], rest) :=
    dropInfix?_lineEnd rest List.not_mem_nil
  rw [readHead?]
  split
  · rename_i missing
    rw [cut] at missing
    cases missing
  · rename_i line after found
    rw [cut] at found
    cases found
    rfl

theorem readHead?_line {line rest after : Bytes} {lines : List Bytes} (unbroken : 13 ∉ line)
    (something : line ≠ []) (read : readHead? rest = some (lines, after)) :
    readHead? (line ++ (lineEnd ++ rest)) = some (line :: lines, after) := by
  have cut := dropInfix?_lineEnd rest unbroken
  rw [readHead?]
  split
  · rename_i missing
    rw [cut] at missing
    cases missing
  · rename_i other behind found
    rw [cut] at found
    cases found
    rw [if_neg something, read]
    rfl

section Head

variable (post : FormPost)

def requestLine : Bytes := utf8 "POST " ++ utf8 (post.target ++ " HTTP/1.1")

def hostLine : Bytes := utf8 "Host: " ++ utf8 (post.host ++ ":" ++ toString post.port.toNat)

def typeLine : Bytes :=
  utf8 "Content-Type: " ++ (utf8 "multipart/form-data; boundary=" ++ utf8 post.boundary)

def lengthLine : Bytes := utf8 "Content-Length: " ++ utf8 (toString post.body.length)

/-- The head is written in lines. The texts between its literals stand for anything. -/
theorem utf8_head (target host port boundary length : String) :
    utf8 ("POST " ++ target ++ " HTTP/1.1\r\nHost: " ++ host ++ ":" ++ port
      ++ "\r\nContent-Type: " ++ ("multipart/form-data; boundary=" ++ boundary)
      ++ "\r\nContent-Length: " ++ length ++ "\r\n\r\n") =
    utf8 "POST " ++ utf8 (target ++ " HTTP/1.1") ++ lineEnd ++
      (utf8 "Host: " ++ utf8 (host ++ ":" ++ port)) ++ lineEnd ++
      (utf8 "Content-Type: " ++ (utf8 "multipart/form-data; boundary=" ++ utf8 boundary)) ++
      lineEnd ++ (utf8 "Content-Length: " ++ utf8 length) ++ lineEnd ++ lineEnd := by
  have version : utf8 " HTTP/1.1\r\nHost: " = utf8 " HTTP/1.1" ++ (lineEnd ++ utf8 "Host: ") := by
    decide
  have type : utf8 "\r\nContent-Type: " = lineEnd ++ utf8 "Content-Type: " := by decide
  have size : utf8 "\r\nContent-Length: " = lineEnd ++ utf8 "Content-Length: " := by decide
  have blank : utf8 "\r\n\r\n" = lineEnd ++ lineEnd := by decide
  simp only [utf8_append, version, type, size, blank, List.append_assoc]

theorem wire_eq : post.wire =
    post.requestLine ++ (lineEnd ++ (post.hostLine ++ (lineEnd ++ (post.typeLine ++ (lineEnd ++
      (post.lengthLine ++ (lineEnd ++ (lineEnd ++ post.body)))))))) := by
  unfold wire contentType requestLine hostLine typeLine lengthLine
  rw [utf8_head]
  simp only [List.append_assoc]

theorem contentLength?_head : contentLength?
    [post.requestLine, post.hostLine, post.typeLine, post.lengthLine] = some post.body.length := by
  have own : post.lengthLine.dropPrefix? (utf8 ("Content-Length" ++ ": ")) =
      some (utf8 (toString post.body.length)) := List.dropPrefix?_append_of_beq _ (by decide)
  have found : header? "Content-Length"
      [post.requestLine, post.hostLine, post.typeLine, post.lengthLine] =
        some (utf8 (toString post.body.length)) := by
    have request : post.requestLine.dropPrefix? (utf8 ("Content-Length" ++ ": ")) = none := rfl
    have host : post.hostLine.dropPrefix? (utf8 ("Content-Length" ++ ": ")) = none := rfl
    have type : post.typeLine.dropPrefix? (utf8 ("Content-Length" ++ ": ")) = none := rfl
    simp only [header?, List.findSome?_cons, request, host, type, own]
  simp only [contentLength?, found, Option.bind_some, text?_utf8, decimal?_toString]

theorem boundary?_head : boundary?
    [post.requestLine, post.hostLine, post.typeLine, post.lengthLine] =
      some (utf8 post.boundary) := by
  have own : post.typeLine.dropPrefix? (utf8 ("Content-Type" ++ ": ")) =
      some (utf8 "multipart/form-data; boundary=" ++ utf8 post.boundary) :=
    List.dropPrefix?_append_of_beq _ (by decide)
  have found : header? "Content-Type"
      [post.requestLine, post.hostLine, post.typeLine, post.lengthLine] =
        some (utf8 "multipart/form-data; boundary=" ++ utf8 post.boundary) := by
    have request : post.requestLine.dropPrefix? (utf8 ("Content-Type" ++ ": ")) = none := rfl
    have host : post.hostLine.dropPrefix? (utf8 ("Content-Type" ++ ": ")) = none := rfl
    simp only [header?, List.findSome?_cons, request, host, own]
  simp only [boundary?, found, Option.bind_some]
  exact List.dropPrefix?_append_of_beq _ (beq_self_eq_true _)

variable {post}

theorem target_oneLine (unbroken : post.url.Unbroken) : OneLine post.target := by
  unfold target
  split
  · rename_i query named
    exact (unbroken.path.append (by decide)).append (unbroken.query query named)
  · exact unbroken.path

theorem host_oneLine (unbroken : post.url.Unbroken) : OneLine post.host := by
  unfold host
  cases named : post.url.host? with
  | none => decide
  | some host => exact unbroken.host host named

/-- The first blank line of a post ends its head. -/
theorem readHead?_wire (unbroken : post.url.Unbroken) (bounded : OneLine post.boundary) :
    readHead? post.wire = some
      ([post.requestLine, post.hostLine, post.typeLine, post.lengthLine], post.body) := by
  have literal {label text : String} (first : OneLine label) (second : OneLine text) :
      13 ∉ utf8 label ++ utf8 text :=
    fun member => (List.mem_append.mp member).elim first.not_mem_utf8 second.not_mem_utf8
  rw [wire_eq]
  apply readHead?_line
  · exact literal (by decide) ((target_oneLine unbroken).append (by decide))
  · intro empty
    cases empty
  apply readHead?_line
  · exact literal (by decide)
      (((host_oneLine unbroken).append (by decide)).append (.of_decimal _))
  · intro empty
    cases empty
  apply readHead?_line
  · intro member
    rcases List.mem_append.mp member with label | value
    · exact absurd label (by decide)
    · exact literal (by decide) bounded value
  · intro empty
    cases empty
  apply readHead?_line
  · exact literal (by decide) (.of_decimal _)
  · intro empty
    cases empty
  exact readHead?_blank post.body

end Head

/-! ### The parts -/

def delimiter (boundary : String) : Bytes := utf8 "--" ++ utf8 boundary

def disposition (name : String) : Bytes :=
  utf8 "Content-Disposition: form-data; name=" ++ (34 :: (utf8 name ++ [34]))

def octets : Bytes := utf8 "Content-Type: application/octet-stream"

/-- What stands behind a delimiter when some fields are left. -/
def behind (boundary : String) : List (String × Bytes) → Bytes
  | [] => utf8 "--" ++ lineEnd
  | field :: rest =>
    lineEnd ++ (disposition field.1 ++ (lineEnd ++ (octets ++ (lineEnd ++ (lineEnd ++
      (field.2 ++ ((lineEnd ++ delimiter boundary) ++ behind boundary rest)))))))

theorem part_eq (boundary : String) (field : String × Bytes) : part boundary field =
    delimiter boundary ++ (lineEnd ++ (disposition field.1 ++ (lineEnd ++ (octets ++
      (lineEnd ++ (lineEnd ++ (field.2 ++ lineEnd))))))) := by
  have opening : utf8 "\r\nContent-Disposition: form-data; name=\"" =
      lineEnd ++ (utf8 "Content-Disposition: form-data; name=" ++ [34]) := by decide
  have closing : utf8 "\"\r\nContent-Type: application/octet-stream\r\n\r\n" =
      [34] ++ (lineEnd ++ (octets ++ (lineEnd ++ lineEnd))) := by decide
  have ended : utf8 "\r\n" = lineEnd := rfl
  unfold part
  simp only [utf8_append]
  rw [opening, closing, ended]
  simp only [delimiter, disposition, List.append_assoc, List.cons_append, List.nil_append]

theorem body_eq (post : FormPost) :
    post.body = delimiter post.boundary ++ behind post.boundary post.fields := by
  have closing : utf8 "--\r\n" = utf8 "--" ++ lineEnd := by decide
  unfold body
  induction post.fields with
  | nil =>
      rw [List.flatMap_nil, List.nil_append, utf8_append, utf8_append, closing]
      rfl
  | cons field rest ih =>
      rw [List.flatMap_cons, List.append_assoc, ih, part_eq]
      simp only [behind, List.append_assoc]

theorem quoted?_disposition (name : String) : quoted? (disposition name) = some (utf8 name) := by
  have unquoted : (utf8 "Content-Disposition: form-data; name=").all (· ≠ 34) = true := by decide
  have opening : (disposition name).dropWhile (· ≠ 34) = 34 :: (utf8 name ++ [34]) := by
    unfold disposition
    rw [List.dropWhile_append_of_pos (List.all_eq_true.mp unquoted)]
    rfl
  have closing : (utf8 name ++ [34]).reverse.dropWhile (· ≠ 34) = 34 :: (utf8 name).reverse := by
    rw [List.reverse_append]
    rfl
  unfold quoted?
  rw [opening]
  simp only
  rw [closing]
  simp only [List.reverse_reverse]

/-- A part is read with its name; its value ends where the mark first stands. -/
theorem readPart?_behind {boundary : String} (bounded : OneLine boundary) {name : String}
    (one : OneLine name) (value rest : Bytes) :
    ∃ before after, readPart? (delimiter boundary)
        (disposition name ++ (lineEnd ++ (octets ++ (lineEnd ++ (lineEnd ++
          (value ++ ((lineEnd ++ delimiter boundary) ++ rest))))))) = some ((name, before), after) ∧
      (before = value → after = rest) ∧
      (before = value ↔ ¬ lineEnd ++ delimiter boundary <:+: value) := by
  have lone : 13 ∉ 10 :: delimiter boundary := by
    intro member
    rcases List.mem_cons.mp member with impossible | within
    · cases impossible
    · rcases List.mem_append.mp within with dashes | own
      · exact absurd dashes (by decide)
      · exact bounded.not_mem_utf8 own
  have named : 13 ∉ disposition name := by
    intro member
    rcases List.mem_append.mp member with label | quoted
    · exact absurd label (by decide)
    · rcases List.mem_cons.mp quoted with impossible | inside
      · cases impossible
      · rcases List.mem_append.mp inside with own | impossible
        · exact one.not_mem_utf8 own
        · cases List.mem_singleton.mp impossible
  have plain : 13 ∉ octets := by decide
  obtain ⟨before, after, found, ends, clean⟩ := dropInfix?_append value rest
    (rfl : lineEnd ++ delimiter boundary = 13 :: (10 :: delimiter boundary)) lone
  refine ⟨before, after, ?_, ends, clean⟩
  have blank (more : Bytes) : (lineEnd ++ more).dropPrefix? lineEnd = some more :=
    List.dropPrefix?_append_of_beq more (beq_self_eq_true lineEnd)
  unfold readPart?
  simp only [dropInfix?_lineEnd _ named, dropInfix?_lineEnd _ plain, quoted?_disposition,
    text?_utf8, blank, found, Option.bind_some, Option.map_some]

theorem readParts?_closing (boundary more : Bytes) :
    readParts? boundary (utf8 "--" ++ more) = some [] := by
  rw [readParts?, if_pos (List.isPrefixOf_iff_prefix.mpr (List.prefix_append _ _))]

theorem readParts?_part {mark bytes after : Bytes} {field : String × Bytes}
    (read : readPart? mark bytes = some (field, after)) :
    readParts? mark (lineEnd ++ bytes) = (readParts? mark after).map (field :: ·) := by
  have open_ : (utf8 "--").isPrefixOf (lineEnd ++ bytes) = false := rfl
  have line : (lineEnd ++ bytes).dropPrefix? lineEnd = some bytes :=
    List.dropPrefix?_append_of_beq bytes (beq_self_eq_true lineEnd)
  rw [readParts?, if_neg (by rw [open_]; decide)]
  split
  · rename_i missing
    rw [line] at missing
    cases missing
  · rename_i rest found
    rw [line] at found
    cases found
    split
    · rename_i missing
      rw [read] at missing
      cases missing
    · rename_i other left found
      rw [read] at found
      cases found
      rfl

/-- The fields are read as they are exactly if the mark stands in none of their values. -/
theorem readParts?_behind_iff {boundary : String} (bounded : OneLine boundary)
    {fields : List (String × Bytes)} (named : ∀ field ∈ fields, OneLine field.1) :
    readParts? (delimiter boundary) (behind boundary fields) = some fields ↔
      ∀ field ∈ fields, ¬ lineEnd ++ delimiter boundary <:+: field.2 := by
  induction fields with
  | nil =>
      have read : readParts? (delimiter boundary) (behind boundary []) = some [] :=
        readParts?_closing _ _
      rw [read]
      simp
  | cons field rest ih =>
      obtain ⟨name, value⟩ := field
      obtain ⟨before, after, read, ends, clean⟩ := readPart?_behind bounded
        (named (name, value) List.mem_cons_self) value (behind boundary rest)
      have whole : readParts? (delimiter boundary) (behind boundary ((name, value) :: rest)) =
          (readParts? (delimiter boundary) after).map ((name, before) :: ·) := readParts?_part read
      have later := ih fun other member => named other (List.mem_cons_of_mem _ member)
      rw [whole, List.forall_mem_cons]
      constructor
      · intro found
        obtain ⟨fields, own, same⟩ := Option.map_eq_some_iff.mp found
        cases same
        exact ⟨clean.mp rfl, later.mp (ends rfl ▸ own)⟩
      · rintro ⟨first, others⟩
        have same := clean.mpr first
        rw [same, ends same, later.mpr others]
        rfl

/-! ### A post that has been filled -/

/-- A post after its fields have been set one after another. -/
def setAll (post : FormPost) (settings : List (String × Bytes)) : FormPost :=
  settings.foldl (fun post setting => post.set setting.1 setting.2) post

theorem mem_setIn {fields : List (String × Bytes)} {name : String} {value : Bytes}
    {field : String × Bytes} (member : field ∈ setIn fields name value) :
    field ∈ fields ∨ field = (name, value) := by
  induction fields with
  | nil => exact .inr (List.mem_singleton.mp member)
  | cons first rest ih =>
      unfold setIn at member
      split at member
      · rcases List.mem_cons.mp member with own | later
        · exact .inr own
        · exact .inl (List.mem_cons_of_mem _ later)
      · rcases List.mem_cons.mp member with own | later
        · exact .inl (own ▸ List.mem_cons_self)
        · rcases ih later with kept | own
          · exact .inl (List.mem_cons_of_mem _ kept)
          · exact .inr own

theorem setAll_kept (post : FormPost) (settings : List (String × Bytes)) :
    (post.setAll settings).url = post.url ∧ (post.setAll settings).boundary = post.boundary := by
  induction settings generalizing post with
  | nil => exact ⟨rfl, rfl⟩
  | cons setting rest ih => exact ih (post.set setting.1 setting.2)

/-- What holds of the names that are set holds of the names of the post. -/
theorem setAll_named {holds : String → Prop} (post : FormPost) {settings : List (String × Bytes)}
    (before : ∀ field ∈ post.fields, holds field.1)
    (named : ∀ setting ∈ settings, holds setting.1) :
    ∀ field ∈ (post.setAll settings).fields, holds field.1 := by
  induction settings generalizing post with
  | nil => exact before
  | cons setting rest ih =>
      apply ih
      · intro field member
        rcases mem_setIn member with kept | rfl
        · exact before field kept
        · exact named setting List.mem_cons_self
      · exact fun other member => named other (List.mem_cons_of_mem _ member)

/-- The first blank line of a post ends its head, which tells how many bytes follow: those of the
body. With the boundary that the head names, a reader recovers the fields, names and values in
their order, exactly if no value holds a line end that the delimiter follows. -/
theorem readFields?_wire_iff {url : Url} {boundary : String} {settings : List (String × Bytes)}
    {post : FormPost} (filled : post = FormPost.setAll { url, boundary } settings)
    (unbroken : url.Unbroken) (bounded : OneLine boundary)
    (named : ∀ setting ∈ settings, OneLine setting.1) :
    (∃ lines, readHead? post.wire = some (lines, post.body) ∧
      contentLength? lines = some post.body.length ∧ boundary? lines = some (utf8 boundary)) ∧
    (readFields? post.wire = some post.fields ↔
      ∀ field ∈ post.fields, ¬ utf8 ("\r\n--" ++ boundary) <:+: field.2) := by
  obtain ⟨same, own⟩ := setAll_kept { url, boundary } settings
  rw [← filled] at same own
  change post.url = url at same
  change post.boundary = boundary at own
  have names : ∀ field ∈ post.fields, OneLine field.1 := by
    rw [filled]
    apply setAll_named _ _ named
    intro field impossible
    cases impossible
  have head := readHead?_wire (same ▸ unbroken) (own ▸ bounded)
  have marked := boundary?_head post
  rw [own] at marked
  have mark : utf8 ("\r\n--" ++ boundary) = lineEnd ++ delimiter boundary := by
    rw [utf8_append]
    rfl
  refine ⟨⟨_, head, contentLength?_head post, marked⟩, ?_⟩
  have body : post.body.dropPrefix? (delimiter boundary) = some (behind boundary post.fields) := by
    rw [body_eq, own]
    exact List.dropPrefix?_append_of_beq _ (beq_self_eq_true _)
  have read : readFields? post.wire =
      readParts? (delimiter boundary) (behind boundary post.fields) := by
    unfold readFields?
    rw [head]
    simp only [Option.bind_some, marked]
    exact congrArg (Option.bind · _) body
  rw [read, mark]
  exact readParts?_behind_iff bounded names

/-- Values that end in the beginning of the mark, are empty or hold a lone carriage return, under
names with quotes, and an empty boundary. One more dash is too much. -/
theorem readFields?_wire_iff_dashes :
    ∃ url : Url, url.Unbroken ∧ OneLine "" ∧ (∀ name ∈ ["a\"b", "", "c"], OneLine name) ∧
      readFields? (FormPost.setAll { url, boundary := "" }
        [("a\"b", [0]), ("", []), ("a\"b", [13, 13, 10, 45]), ("c", [10, 34, 13])]).wire =
          some [("a\"b", [13, 13, 10, 45]), ("", []), ("c", [10, 34, 13])] ∧
      readFields? (FormPost.setAll { url, boundary := "" } [("c", [13, 10, 45, 45])]).wire ≠
        some [("c", [13, 10, 45, 45])] := by
  let url : Url := {
    scheme := "http"
    authority := some { host := some (.name "poll.test") }
    path := "/sync"
    query := some "ep=1"
    fragment := none }
  have unbroken : url.Unbroken := by
    constructor
    · intro host named
      cases named
      decide
    · decide
    · intro query named
      cases named
      decide
  refine ⟨url, unbroken, by decide, by decide, ?_, ?_⟩
  · exact (readFields?_wire_iff rfl unbroken (by decide) (by decide)).2.mpr (by decide)
  · intro read
    have clean := (readFields?_wire_iff rfl unbroken (by decide) (by decide)).2.mp read
    exact absurd clean (by decide)

end FormPost
end LongPoll
