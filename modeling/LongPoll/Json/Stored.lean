import LongPoll.Config
import LongPoll.Json.Reader
import LongPoll.Server

set_option autoImplicit false

/-!
The JSON form of configurations and descriptions. A record is written as an object with its fields
in order, and read from such an object, in any order and with other fields ignored, or from an
array of exactly its fields. A name is written as a string, and also read from an object whose one
member is the name with null. A URL is a string, whatever way there is to write and read URLs.
-/

namespace LongPoll.Json

class Stored (α : Type) where
  toValue : α → Value
  ofValue? : Value → Option α

def write {α : Type} [Stored α] (value : α) : String := (Stored.toValue value).text

def read? {α : Type} [Stored α] (text : String) : Option α :=
  (parse? text).bind Stored.ofValue?

/-- The only member of a name, if there is exactly one. -/
def member? (members : List (Text × Value)) (name : String) : Option Value :=
  match members.filter fun member => member.1 = some name with
  | [(_, value)] => some value
  | _ => none

/-- The fields of a record in the order of their names. -/
def fields? (names : List String) : Value → Option (List Value)
  | .array items => if items.length = names.length then some items else none
  | .object members =>
    if members.all fun member => member.1.isSome then names.mapM (member? members) else none
  | _ => none

def record (names : List String) (values : List Value) : Value :=
  .object ((names.map some).zip values)

/-- A name, alone or as the member of an object that holds null. -/
def name? : Value → Option String
  | .string name => name
  | .object [(name, .null)] => name
  | _ => none

def bounded? (bound : Nat) (value : Value) : Option Nat :=
  match value.natural? with
  | some n => if n ≤ bound then some n else none
  | none => none

instance : Stored String where
  toValue := .ofText
  ofValue?
    | .string text => text
    | _ => none

instance : Stored Bool where
  toValue := .bool
  ofValue?
    | .bool value => some value
    | _ => none

instance : Stored UInt8 where
  toValue byte := .ofNat byte.toNat
  ofValue? value := (bounded? 255 value).map UInt8.ofNat

instance : Stored UInt16 where
  toValue port := .ofNat port.toNat
  ofValue? value := (bounded? 65535 value).map UInt16.ofNat

instance : Stored UInt64 where
  toValue count := .ofNat count.toNat
  ofValue? value := (bounded? 18446744073709551615 value).map UInt64.ofNat

instance : Stored TransportType where
  toValue type := .ofText type.name
  ofValue? value := (name? value).bind TransportType.ofName?

instance : Stored Direction where
  toValue direction := .ofText direction.name
  ofValue? value := (name? value).bind Direction.ofName?

instance : Stored ChannelKind where
  toValue kind := .ofText kind.name
  ofValue? value := (name? value).bind ChannelKind.ofName?

/-- An entry of the supported types, whose category is given by its name alone. -/
def supportedEntry? (member : Text × Value) : Option (TransportType × Direction) :=
  match member.1.bind TransportType.ofName?, Stored.ofValue? member.2 with
  | some type, some direction => some (type, direction)
  | _, _ => none

instance : Stored SupportedTypes where
  toValue types := .object (types.toList.map fun pair =>
    (some pair.1.name, Stored.toValue pair.2))
  ofValue?
    | .object members => (members.mapM supportedEntry?).map .ofList
    | _ => none

instance : Stored Key where
  toValue key := .array (key.bytes.map Stored.toValue)
  ofValue?
    | .array items => (items.mapM Stored.ofValue?).bind Key.ofBytes?
    | _ => none

instance [codec : Url.Codec] : Stored Url where
  toValue url := .ofText (codec.text url)
  ofValue?
    | .string (some text) => codec.read? text
    | _ => none

instance : Stored Endpoint where
  toValue endpoint := record ["host", "port", "public_key"]
    [Stored.toValue endpoint.host, Stored.toValue endpoint.port, Stored.toValue endpoint.publicKey]
  ofValue? value := do
    let [host, port, publicKey] ← fields? ["host", "port", "public_key"] value | none
    pure {
      host := ← Stored.ofValue? host
      port := ← Stored.ofValue? port
      publicKey := ← Stored.ofValue? publicKey }

instance [Url.Codec] : Stored PollServer where
  toValue server := record ["host", "port", "url", "public_key"]
    [Stored.toValue server.host, Stored.toValue server.port, Stored.toValue server.url,
      Stored.toValue server.publicKey]
  ofValue? value := do
    let [host, port, url, publicKey] ← fields? ["host", "port", "url", "public_key"] value | none
    pure {
      host := ← Stored.ofValue? host
      port := ← Stored.ofValue? port
      url := ← Stored.ofValue? url
      publicKey := ← Stored.ofValue? publicKey }

def configNames : List String :=
  ["channel_id", "supported_types", "worker_thread_name", "join_worker_on_drop", "abort_retry_ms"]

instance : Stored Config where
  toValue config := record configNames
    [Stored.toValue config.channelId, Stored.toValue config.supportedTypes,
      Stored.toValue config.workerThreadName, Stored.toValue config.joinWorkerOnDrop,
      Stored.toValue config.abortRetryMs]
  ofValue? value := do
    let [channelId, supportedTypes, workerThreadName, joinWorkerOnDrop, abortRetryMs] ←
      fields? configNames value | none
    pure {
      channelId := ← Stored.ofValue? channelId
      supportedTypes := ← Stored.ofValue? supportedTypes
      workerThreadName := ← Stored.ofValue? workerThreadName
      joinWorkerOnDrop := ← Stored.ofValue? joinWorkerOnDrop
      abortRetryMs := ← Stored.ofValue? abortRetryMs }

end LongPoll.Json
