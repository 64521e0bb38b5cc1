import LongPoll.Json.Stored
import LongPoll.Proofs.JsonText

set_option autoImplicit false

/-!
Configurations and descriptions are read back from the text written for them. What a value is
written as is plain and is understood as the value again; a record passes this on from its fields,
and a map of categories does so in every order of its entries.
-/

namespace LongPoll

/-- The text of a URL is read as the URL. -/
def Url.Codec.ReadsBack (codec : Url.Codec) (url : Url) : Prop :=
  codec.read? (codec.text url) = some url

namespace Json

/-- A plain form that is understood as a value. -/
structure Shows {α : Type} [Stored α] (shown : Value) (value : α) : Prop where
  plain : Plain shown
  back : Stored.ofValue? shown = some value

theorem Shows.read? {α : Type} [Stored α] {shown : Value} {value : α} (own : Shows shown value) :
    read? shown.text = some value := by
  unfold Json.read?
  rw [own.plain.parse?_text]
  exact own.back

/-! ### Texts, flags and numbers -/

theorem shows_text (text : String) : Shows (Stored.toValue text) text := ⟨.ofText text, rfl⟩

theorem shows_flag (flag : Bool) : Shows (Stored.toValue flag) flag := ⟨.bool flag, rfl⟩

theorem natural?_ofNat (n : Nat) : (Value.ofNat n).natural? = some n := by
  have shown : (toString n).toList = Nat.toDigits 10 n := Nat.toList_repr
  have nonempty : (Nat.toDigits 10 n).isEmpty = false :=
    List.isEmpty_eq_false_iff.mpr Nat.toDigits_ne_nil
  have decimal : (Nat.toDigits 10 n).all Char.isDigit = true :=
    List.all_eq_true.mpr fun c => isDigit_toDigits
  have value := Nat.ofDigitChars_ten_toDigits (n := n)
  rw [Nat.ofDigitChars_eq_foldl] at value
  unfold Value.ofNat Value.natural?
  simp only [shown, nonempty, decimal]
  exact congrArg some value

theorem bounded?_ofNat {α : Type} {n bound : Nat} {ofNat : Nat → α} {value : α}
    (small : n ≤ bound) (same : ofNat n = value) :
    (bounded? bound (.ofNat n)).map ofNat = some value := by
  unfold bounded?
  rw [natural?_ofNat]
  simp only [if_pos small, Option.map_some, same]

theorem shows_byte (byte : UInt8) : Shows (Stored.toValue byte) byte :=
  ⟨.ofNat _, bounded?_ofNat (Nat.le_of_lt_succ byte.toNat_lt) UInt8.ofNat_toNat⟩

theorem shows_port (port : UInt16) : Shows (Stored.toValue port) port :=
  ⟨.ofNat _, bounded?_ofNat (Nat.le_of_lt_succ port.toNat_lt) UInt16.ofNat_toNat⟩

theorem shows_count (count : UInt64) : Shows (Stored.toValue count) count :=
  ⟨.ofNat _, bounded?_ofNat (Nat.le_of_lt_succ count.toNat_lt) UInt64.ofNat_toNat⟩

theorem shows_key (key : Key) : Shows (Stored.toValue key) key := by
  refine ⟨.array ?_, ?_⟩
  · intro item member
    obtain ⟨byte, -, rfl⟩ := List.mem_map.mp member
    exact (shows_byte byte).plain
  · have each : (Stored.ofValue? ∘ Stored.toValue : UInt8 → Option UInt8) = pure :=
      funext fun byte => (shows_byte byte).back
    change ((key.bytes.map Stored.toValue).mapM Stored.ofValue?).bind Key.ofBytes? = some key
    rw [List.mapM_map, each, List.mapM_pure, List.map_id_fun']
    exact key.ofBytes?_bytes

theorem shows_url [codec : Url.Codec] {url : Url} (again : codec.ReadsBack url) :
    Shows (Stored.toValue url) url := ⟨.ofText _, again⟩

/-! ### Maps of categories -/

/-- Supported types in the order in which their entries come. -/
def entriesValue (entries : List (TransportType × Direction)) : Value :=
  .object (entries.map fun pair => (some pair.1.name, Stored.toValue pair.2))

theorem shows_direction (direction : Direction) :
    Shows (Stored.toValue direction) direction := ⟨.ofText _, direction.ofName?_name⟩

theorem supportedEntry?_written (pair : TransportType × Direction) :
    supportedEntry? (some pair.1.name, Stored.toValue pair.2) = some pair := by
  unfold supportedEntry?
  rw [Option.bind_some, pair.1.ofName?_name, (shows_direction pair.2).back]

theorem shows_types {types : SupportedTypes} {entries : List (TransportType × Direction)}
    (order : entries.Perm types.toList) : Shows (entriesValue entries) types := by
  refine ⟨.object ?_ ?_, ?_⟩
  · intro member present
    obtain ⟨pair, -, rfl⟩ := List.mem_map.mp present
    exact ⟨_, rfl⟩
  · intro member present
    obtain ⟨pair, -, rfl⟩ := List.mem_map.mp present
    exact (shows_direction pair.2).plain
  · have each : supportedEntry? ∘ (fun pair : TransportType × Direction =>
        (some pair.1.name, Stored.toValue pair.2)) = pure :=
      funext supportedEntry?_written
    change ((entries.map _).mapM supportedEntry?).map SupportedTypes.ofList = some types
    rw [List.mapM_map, each, List.mapM_pure, List.map_id_fun']
    exact congrArg some (SupportedTypes.ofList_of_perm order)

/-! ### Records -/

theorem member?_zip {names : List String} {values : List Value} {name : String} {value : Value}
    (distinct : names.Nodup) (member : (name, value) ∈ names.zip values) :
    member? ((names.map some).zip values) name = some value := by
  have found : ((names.map some).zip values).filter (fun other => other.1 = some name) =
      [(some name, value)] := by
    induction names generalizing values with
    | nil => cases member
    | cons first names ih =>
        cases values with
        | nil => cases member
        | cons head values =>
            obtain ⟨absent, distinct⟩ := List.nodup_cons.mp distinct
            rw [List.map_cons, List.zip_cons_cons]
            rcases List.mem_cons.mp member with same | later
            · cases same
              rw [List.filter_cons_of_pos (by simp)]
              -- The name is not given twice, so that no later member is taken with the first.
              have nothing : ((names.map some).zip values).filter
                  (fun other => other.1 = some name) = [] := by
                apply List.filter_eq_nil_iff.mpr
                intro other present same
                obtain ⟨again, known, equal⟩ := List.mem_map.mp (List.of_mem_zip present).1
                rw [decide_eq_true_eq, ← equal] at same
                cases same
                exact absent known
              rw [nothing]
            · have other : first ≠ name := by
                rintro rfl
                exact absent (List.of_mem_zip later).1
              rw [List.filter_cons_of_neg (by simpa using other)]
              exact ih distinct later
  unfold member?
  rw [found]

/-- The fields of a record whose names differ are found under their names. -/
theorem fields?_record {names : List String} {values : List Value} (distinct : names.Nodup)
    (same : names.length = values.length) : fields? names (record names values) = some values := by
  have named : ((names.map some).zip values).all (fun member => member.1.isSome) = true := by
    apply List.all_eq_true.mpr
    intro member present
    obtain ⟨name, -, equal⟩ := List.mem_map.mp (List.of_mem_zip present).1
    rw [← equal]
    rfl
  have each (pair : String × Value) (present : pair ∈ names.zip values) :
      member? ((names.map some).zip values) pair.1 = some pair.2 :=
    member?_zip distinct present
  unfold fields? record
  simp only [named, if_true]
  generalize member? ((names.map some).zip values) = find at each
  clear named distinct
  induction names generalizing values with
  | nil =>
      cases values with
      | nil => rfl
      | cons value values => cases same
  | cons name names ih =>
      cases values with
      | nil => cases same
      | cons value values =>
          have first := each (name, value) List.mem_cons_self
          have others := ih (Nat.succ.inj same) fun pair present =>
            each pair (List.mem_cons_of_mem _ present)
          rw [List.mapM_cons, first, others]
          rfl

theorem plain_record {names : List String} {values : List Value}
    (each : ∀ value ∈ values, Plain value) : Plain (record names values) := by
  refine .object ?_ ?_
  · intro member present
    obtain ⟨name, -, equal⟩ := List.mem_map.mp (List.of_mem_zip present).1
    exact ⟨name, equal.symm⟩
  · intro member present
    exact each member.2 (List.of_mem_zip present).2

theorem shows_endpoint (endpoint : Endpoint) : Shows (Stored.toValue endpoint) endpoint := by
  have host := shows_text endpoint.host
  have port := shows_port endpoint.port
  have publicKey := shows_key endpoint.publicKey
  have fields : fields? ["host", "port", "public_key"] (Stored.toValue endpoint) =
      some [Stored.toValue endpoint.host, Stored.toValue endpoint.port,
        Stored.toValue endpoint.publicKey] := fields?_record (by decide) rfl
  constructor
  · apply plain_record
    simp [host.plain, port.plain, publicKey.plain]
  · change (fields? _ (Stored.toValue endpoint)).bind _ = some endpoint
    rw [fields]
    simp [host.back, port.back, publicKey.back]

theorem shows_server [codec : Url.Codec] {server : PollServer}
    (again : codec.ReadsBack server.url) : Shows (Stored.toValue server) server := by
  have host := shows_text server.host
  have port := shows_port server.port
  have url := shows_url again
  have publicKey := shows_key server.publicKey
  have fields : fields? ["host", "port", "url", "public_key"] (Stored.toValue server) =
      some [Stored.toValue server.host, Stored.toValue server.port, Stored.toValue server.url,
        Stored.toValue server.publicKey] := fields?_record (by decide) rfl
  constructor
  · apply plain_record
    simp [host.plain, port.plain, url.plain, publicKey.plain]
  · change (fields? _ (Stored.toValue server)).bind _ = some server
    rw [fields]
    simp [host.back, port.back, url.back, publicKey.back]

/-- A configuration whose supported types are written in the order of their entries. -/
def configValue (config : Config) (entries : List (TransportType × Direction)) : Value :=
  record configNames
    [Stored.toValue config.channelId, entriesValue entries, Stored.toValue config.workerThreadName,
      Stored.toValue config.joinWorkerOnDrop, Stored.toValue config.abortRetryMs]

theorem shows_config {config : Config} {entries : List (TransportType × Direction)}
    (order : entries.Perm config.supportedTypes.toList) :
    Shows (configValue config entries) config := by
  have channelId := shows_text config.channelId
  have types := shows_types order
  have workerThreadName := shows_text config.workerThreadName
  have joinWorkerOnDrop := shows_flag config.joinWorkerOnDrop
  have abortRetryMs := shows_count config.abortRetryMs
  have fields : fields? configNames (configValue config entries) =
      some [Stored.toValue config.channelId, entriesValue entries,
        Stored.toValue config.workerThreadName, Stored.toValue config.joinWorkerOnDrop,
        Stored.toValue config.abortRetryMs] := fields?_record (by decide) rfl
  constructor
  · apply plain_record
    simp [channelId.plain, types.plain, workerThreadName.plain, joinWorkerOnDrop.plain,
      abortRetryMs.plain]
  · change (fields? _ (configValue config entries)).bind _ = some config
    rw [fields]
    simp [channelId.back, types.back, workerThreadName.back, joinWorkerOnDrop.back,
      abortRetryMs.back]

/-- A server as an array of its fields, with its URL in a text of any form. -/
def received (server : PollServer) (source : String) : Value :=
  .array [Stored.toValue server.host, Stored.toValue server.port, .ofText source,
    Stored.toValue server.publicKey]

theorem shows_received [codec : Url.Codec] {server : PollServer} {source : String}
    (reads : codec.read? source = some server.url) : Shows (received server source) server := by
  have host := shows_text server.host
  have port := shows_port server.port
  have url : Stored.ofValue? (.ofText source) = some server.url := reads
  have publicKey := shows_key server.publicKey
  constructor
  · refine .array ?_
    simp [host.plain, port.plain, Plain.ofText, publicKey.plain]
  · change (fields? _ (received server source)).bind _ = some server
    simp [received, fields?, host.back, port.back, url, publicKey.back]

theorem exists_read?_of_ofValue? [codec : Url.Codec] {value : Value} {url : Url}
    (understood : Stored.ofValue? value = some url) : ∃ source, codec.read? source = some url := by
  cases value with
  | string text =>
      cases text with
      | none => cases understood
      | some source => exact ⟨source, understood⟩
  | null | bool | number | array | object => cases understood

/-- An accepted server is sent to at a URL that was itself read. -/
theorem exists_read?_of_read? [codec : Url.Codec] {text : String} {server : PollServer}
    (accepted : read? text = some server) : ∃ source, codec.read? source = some server.url := by
  obtain ⟨value, -, understood⟩ := Option.bind_eq_some_iff.mp accepted
  obtain ⟨fields, -, understood⟩ := Option.bind_eq_some_iff.mp understood
  split at understood
  · obtain ⟨host, -, understood⟩ := Option.bind_eq_some_iff.mp understood
    obtain ⟨port, -, understood⟩ := Option.bind_eq_some_iff.mp understood
    obtain ⟨url, found, understood⟩ := Option.bind_eq_some_iff.mp understood
    obtain ⟨publicKey, -, understood⟩ := Option.bind_eq_some_iff.mp understood
    cases understood
    exact exists_read?_of_ofValue? found
  · cases understood

/-- What is written is read back: a configuration with its supported types in every order, an
endpoint, a key, and a server whose URL is read back from its text. What was accepted in any form
is written so that it is read again. Both hold of servers whatever way URLs are written and read,
with international names or without; of the URL of a server that was accepted it is enough to know
that it is read back if a text is read as it at all. -/
theorem read?_written :
    (∀ config : Config,
      write config = (configValue config config.supportedTypes.toList).text) ∧
    (∀ (config : Config) (entries : List (TransportType × Direction)),
      entries.Perm config.supportedTypes.toList →
        read? (configValue config entries).text = some config) ∧
    (∀ endpoint : Endpoint, read? (write endpoint) = some endpoint) ∧
    (∀ key : Key, read? (write key) = some key) ∧
    (∀ [codec : Url.Codec] (server : PollServer), codec.ReadsBack server.url →
      read? (write server) = some server) ∧
    (∀ (text : String) (config : Config) (entries : List (TransportType × Direction)),
      read? text = some config → entries.Perm config.supportedTypes.toList →
        read? (configValue config entries).text = some config) ∧
    (∀ (text : String) (endpoint : Endpoint),
      read? text = some endpoint → read? (write endpoint) = some endpoint) ∧
    (∀ (text : String) (key : Key), read? text = some key → read? (write key) = some key) ∧
    (∀ [codec : Url.Codec] (text : String) (server : PollServer), read? text = some server →
      (∀ source, codec.read? source = some server.url → codec.ReadsBack server.url) →
        read? (write server) = some server) := by
  have config (config : Config) (entries : List (TransportType × Direction))
      (order : entries.Perm config.supportedTypes.toList) :
      read? (configValue config entries).text = some config := (shows_config order).read?
  have endpoint (endpoint : Endpoint) : read? (write endpoint) = some endpoint :=
    (shows_endpoint endpoint).read?
  have key (key : Key) : read? (write key) = some key := (shows_key key).read?
  refine ⟨fun _ => rfl, config, endpoint, key, fun server again => (shows_server again).read?,
    fun _ accepted entries _ => config accepted entries, fun _ accepted _ => endpoint accepted,
    fun _ accepted _ => key accepted, ?_⟩
  intro codec text server accepted stable
  obtain ⟨source, reads⟩ := exists_read?_of_read? accepted
  exact (shows_server (stable source reads)).read?

/-! ### Values to write and texts to accept -/

namespace Sample

/-- A channel whose name needs escapes. -/
def config : Config :=
  { Config.testing with
    channelId := "\"\\\n\u0001\u00e9\u2028"
    abortRetryMs := 18446744073709551615 }

/-- The order opposite to the one in which the types are listed. -/
def entries : List (TransportType × Direction) := config.supportedTypes.toList.reverse

def endpoint : Endpoint where
  host := "localhost"
  port := 8081
  publicKey := .uniform 9

/-- A server at the path `poll` of a host. -/
def serverAt (host : String) : PollServer where
  host
  port := 80
  url :=
    { scheme := "http", authority := some { host := some (.name host) }, path := "/poll",
      query := none, fragment := none }
  publicKey := .uniform 9

def home : PollServer := serverAt "localhost"

/-- The server at an international name, written in ASCII. -/
def abroad : PollServer := serverAt "xn--bcher-kva.example"

/-- URLs among which one has an international name. -/
@[reducible]
def international : Url.Codec where
  text := Url.text
  read? source :=
    if source = "http://b\u00fccher.example/poll" then some abroad.url
    else (Url.parse source).toOption

end Sample

theorem read?_written_sample :
    (Sample.entries.Perm Sample.config.supportedTypes.toList ∧
      read? (configValue Sample.config Sample.entries).text = some Sample.config) ∧
    (read? (write Sample.config) = some Sample.config ∧
      read? (configValue Sample.config Sample.entries).text = some Sample.config) ∧
    (read? (write Sample.endpoint) = some Sample.endpoint ∧
      read? (write (Key.uniform 9)) = some (Key.uniform 9)) ∧
    (read? (received Sample.home "HTTP://LOCALHOST:80/operations/../poll").text =
        some Sample.home ∧
      read? (write Sample.home) = some Sample.home) ∧
    ∃ codec : Url.Codec, codec = Sample.international ∧ codec.ReadsBack Sample.abroad.url ∧
      read? (write Sample.abroad) = some Sample.abroad ∧
      read? (received Sample.abroad "http://b\u00fccher.example/poll").text =
        some Sample.abroad := by
  obtain ⟨listed, config, endpoint, key, server, configs, endpoints, keys, servers⟩ :=
    read?_written
  have order : Sample.entries.Perm Sample.config.supportedTypes.toList := List.reverse_perm _
  have written : read? (write Sample.config) = some Sample.config := by
    rw [listed]
    exact config _ _ (List.Perm.refl _)
  have home : read? (received Sample.home "HTTP://LOCALHOST:80/operations/../poll").text =
      some Sample.home := (shows_received (by decide +kernel)).read?
  have again : Sample.international.ReadsBack Sample.abroad.url := by
    unfold Url.Codec.ReadsBack
    decide +kernel
  refine ⟨⟨order, config _ _ order⟩, ⟨written, configs _ _ _ written order⟩,
    ⟨endpoints _ _ (endpoint Sample.endpoint), keys _ _ (key _)⟩,
    ⟨home, servers _ _ home fun _ _ => rfl⟩, Sample.international, rfl, again, ?_⟩
  let _ := Sample.international
  have abroad : read? (received Sample.abroad "http://b\u00fccher.example/poll").text =
      some Sample.abroad := (shows_received (by decide +kernel)).read?
  exact ⟨server _ again, abroad⟩

end Json
end LongPoll
