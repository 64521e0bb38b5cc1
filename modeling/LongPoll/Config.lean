import LongPoll.Transport.Supported

set_option autoImplicit false

/-!
What is fixed when a channel is made.
-/

namespace LongPoll

structure Config where
  channelId : String
  supportedTypes : SupportedTypes
  workerThreadName : String
  /-- Whether a shutdown waits for the worker to exit. -/
  joinWorkerOnDrop : Bool
  /-- After how many milliseconds a waiting stop repeats its abort. -/
  abortRetryMs : UInt64
deriving DecidableEq

namespace Config

/-- Events come from the server only. -/
def defaultSupportedTypes : SupportedTypes := .ofList [
  (.profile, .bidirectional), (.configuration, .bidirectional), (.notification, .bidirectional),
  (.user, .bidirectional), (.event, .down)]

def default : Config where
  channelId := "operations_long_poll_channel"
  supportedTypes := defaultSupportedTypes
  workerThreadName := "synclink-long-poll"
  joinWorkerOnDrop := true
  abortRetryMs := 50

def testing : Config :=
  { default with
    channelId := "test_long_poll_channel"
    workerThreadName := "synclink-long-poll-test" }

end Config
end LongPoll
