import LongPoll.Transport

set_option autoImplicit false

/-!
What can go wrong on a channel. Callers treat the groups differently: a misconfiguration is told to
the caller and changes nothing, a transport fault ends a cycle, and a fault of keys, ciphertexts or
data makes a response unusable.
-/

namespace LongPoll

inductive Fault
  | missingServer (channel : String)
  | missingMultiplexer (channel : String)
  | missingDemultiplexer (channel : String)
  | wrongServerKind (channel : String) (expected actual : ChannelKind)
  | syncNotAllowed (channel : String) (type : TransportType)
  | unusableUrl (url reason : String)
  | workerUnavailable (channel reason : String)
  | connectionFailed (host : String) (port : Nat) (reason : String)
  | aborted
  | timedOut (milliseconds : Nat)
  | badStatus (status : Nat)
  | network (reason : String)
  | encryptionFailed
  | decryptionFailed
  | badKey
  | nonContributoryKey
  | malformedSeal (length : Nat)
  | missingField (name : String)
  | badSignature
  | badData (reason : String)
deriving DecidableEq, Repr

namespace Fault

inductive Group
  | configuration
  | transport
  | crypto
  | data
deriving DecidableEq, Repr

def group : Fault → Group
  | missingServer .. | missingMultiplexer .. | missingDemultiplexer .. | wrongServerKind ..
  | syncNotAllowed .. | unusableUrl .. | workerUnavailable .. => .configuration
  | connectionFailed .. | aborted | timedOut .. | badStatus .. | network .. => .transport
  | encryptionFailed | decryptionFailed | badKey | nonContributoryKey | malformedSeal ..
  | missingField .. | badSignature => .crypto
  | badData .. => .data

/-- The words that a message of the group begins with. -/
def Group.heading : Group → String
  | configuration => "Configuration error: "
  | transport => "Transport error: "
  | crypto => "Cryptographic error: "
  | data => "Data processing error: "

def detail : Fault → String
  | missingServer channel => s!"No server is bound to channel {channel}"
  | missingMultiplexer channel => s!"No multiplexer is set for channel {channel}"
  | missingDemultiplexer channel => s!"No demultiplexer is set for channel {channel}"
  | wrongServerKind channel expected actual =>
    s!"Invalid server info for channel {channel}: expected {expected.display}, got {actual.display}"
  | syncNotAllowed channel type =>
    s!"Unsupported transport type {type.display} for channel {channel}"
  | unusableUrl url reason => s!"Invalid server URL {url}: {reason}"
  | workerUnavailable channel reason => s!"Worker for channel {channel} is unavailable: {reason}"
  | connectionFailed host port reason => s!"Connection failed to server {host}:{port}: {reason}"
  | aborted => "Connection was aborted"
  | timedOut milliseconds => s!"Request timeout after {milliseconds}ms"
  | badStatus status => s!"Server responded with HTTP status {status}"
  | network reason => s!"Network I/O error: {reason}"
  | encryptionFailed => "Encryption failed"
  | decryptionFailed => "Decryption failed"
  | badKey => "Invalid key format"
  | nonContributoryKey => "Key agreement with server key produced a non-contributory secret"
  | malformedSeal length => s!"Malformed ciphertext ({length} bytes)"
  | missingField name => s!"Missing request field: {name}"
  | badSignature => "Signature verification failed"
  | badData reason => reason

def message (fault : Fault) : String := fault.group.heading ++ fault.detail

/-- A short stable name for log entries. -/
def label : Fault → String
  | aborted => "aborted"
  | timedOut .. => "timeout"
  | badStatus .. => "http_status"
  | fault => match fault.group with
    | .configuration => "configuration"
    | .transport => "transport"
    | .crypto => "crypto"
    | .data => "data"

def isConfiguration (fault : Fault) : Bool := fault.group = .configuration

/-- Whether an exchange ended because someone asked for it. -/
def isAbort (fault : Fault) : Bool := fault = aborted

end Fault
end LongPoll
