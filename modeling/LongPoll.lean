import LongPoll.Bytes
import LongPoll.Bytes.Hex
import LongPoll.Channel.Call
import LongPoll.Channel.Cycle
import LongPoll.Channel.Event
import LongPoll.Channel.State
import LongPoll.Channel.World
import LongPoll.Config
import LongPoll.Crypto.ChaCha20
import LongPoll.Crypto.Curve25519
import LongPoll.Crypto.Ed25519
import LongPoll.Crypto.Poly1305
import LongPoll.Crypto.Sealed
import LongPoll.Crypto.Sha2
import LongPoll.Crypto.X25519
import LongPoll.Fault
import LongPoll.Http.Form
import LongPoll.Http.Response
import LongPoll.Json.Reader
import LongPoll.Json.Stored
import LongPoll.Json.Value
import LongPoll.Key
import LongPoll.Key.Text
import LongPoll.Proofs.Exchange
import LongPoll.Proofs.Failure
import LongPoll.Proofs.History
import LongPoll.Proofs.Progress
import LongPoll.Proofs.Restart
import LongPoll.Proofs.Run
import LongPoll.Proofs.Section
import LongPoll.Proofs.Soundness
import LongPoll.Proofs.Stop
import LongPoll.Proofs.Transition
import LongPoll.Rehearsal.Description
import LongPoll.Rehearsal.Dialogue
import LongPoll.Rehearsal.Part
import LongPoll.Rehearsal.Run
import LongPoll.Rehearsal.Script
import LongPoll.Rehearsal.Sight
import LongPoll.Rehearsal.Stage
import LongPoll.Rehearsal.Tamper
import LongPoll.Server
import LongPoll.Server.Sketch
import LongPoll.Session
import LongPoll.Transport
import LongPoll.Transport.Supported
import LongPoll.Url
import LongPoll.Url.Host
import LongPoll.Url.Path
import LongPoll.Url.Percent
import LongPoll.Proofs.Queue
import LongPoll.Proofs.Snapshot
import LongPoll.Proofs.Calls
import LongPoll.Proofs.Shutdown
import LongPoll.Proofs.Delivery
import LongPoll.Proofs.Reentry
import LongPoll.Proofs.Rebinding
import LongPoll.Proofs.Agreement
import LongPoll.Proofs.Abort
import LongPoll.Proofs.Withdrawal
import LongPoll.Proofs.Lifecycle
import LongPoll.Http.Form.Reader
import LongPoll.Proofs.JsonText
import LongPoll.Proofs.Multipart
import LongPoll.Proofs.Stored
import LongPoll.Proofs.Sealing
import LongPoll.Proofs.Rejection
import LongPoll.Proofs.Departure
import LongPoll.Proofs.Failover
import LongPoll.Proofs.Posting
import LongPoll.Proofs.LastEntry
import LongPoll.Proofs.Fields
import LongPoll.Proofs.Supported
import LongPoll.Proofs.KeyText
