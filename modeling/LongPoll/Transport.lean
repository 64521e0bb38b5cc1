set_option autoImplicit false

/-!
What a channel carries and which kinds of channel there are.
-/

namespace LongPoll

/-- A category of application data. The constructors stand in ascending order. -/
inductive TransportType
  | bootstrap
  | profile
  | configuration
  | notification
  | user
  | event
  | logging
deriving DecidableEq, Repr

/-- The direction in which a channel carries a category of data. -/
inductive Direction
  | up
  | down
  | bidirectional
deriving DecidableEq, Repr

/-- The kind of channel that a server description is meant for. -/
inductive ChannelKind
  | httpLongPoll
  | http
  | tcp
deriving DecidableEq, Repr

namespace TransportType

/-- Every category, in ascending order. -/
def all : List TransportType :=
  [bootstrap, profile, configuration, notification, user, event, logging]

def rank : TransportType → Nat
  | bootstrap => 0
  | profile => 1
  | configuration => 2
  | notification => 3
  | user => 4
  | event => 5
  | logging => 6

instance : Ord TransportType := ⟨fun first second => compare first.rank second.rank⟩

/-- The name in stored configurations. -/
def name : TransportType → String
  | bootstrap => "Bootstrap"
  | profile => "Profile"
  | configuration => "Configuration"
  | notification => "Notification"
  | user => "User"
  | event => "Event"
  | logging => "Logging"

def display : TransportType → String
  | bootstrap => "BOOTSTRAP"
  | profile => "PROFILE"
  | configuration => "CONFIGURATION"
  | notification => "NOTIFICATION"
  | user => "USER"
  | event => "EVENT"
  | logging => "LOGGING"

def ofName? (name : String) : Option TransportType := all.find? (·.name = name)

theorem mem_all (type : TransportType) : type ∈ all := by
  cases type <;> decide

theorem ofName?_name (type : TransportType) : ofName? type.name = some type := by
  cases type <;> decide

end TransportType

namespace Direction

def all : List Direction := [up, down, bidirectional]

def isOutgoing : Direction → Bool
  | up | bidirectional => true
  | down => false

def isIncoming : Direction → Bool
  | down | bidirectional => true
  | up => false

def name : Direction → String
  | up => "Up"
  | down => "Down"
  | bidirectional => "Bidirectional"

def ofName? (name : String) : Option Direction := all.find? (·.name = name)

theorem ofName?_name (direction : Direction) : ofName? direction.name = some direction := by
  cases direction <;> decide

end Direction

namespace ChannelKind

def all : List ChannelKind := [httpLongPoll, http, tcp]

def name : ChannelKind → String
  | httpLongPoll => "HttpLongPoll"
  | http => "Http"
  | tcp => "Tcp"

def display : ChannelKind → String
  | httpLongPoll => "HTTP_LP"
  | http => "HTTP"
  | tcp => "TCP"

def ofName? (name : String) : Option ChannelKind := all.find? (·.name = name)

theorem ofName?_name (kind : ChannelKind) : ofName? kind.name = some kind := by
  cases kind <;> decide

end ChannelKind
end LongPoll
