import WildcardDiff.Log.Journal

/-!
# Channels

Log channels have names, and the root channel has two. All loggers of one channel share
its threshold, and whether the collector of records is attached to it. A logger that is
created resets its channel. One logger at a time can be the common one, which is handed
out again for as long as its name is asked for.
-/

namespace WildcardDiff
namespace Log

/-- The shared state of all loggers of one channel. -/
structure Channel where
  threshold : Level
  /-- Whether records go to the collector. -/
  attached : Bool

/-- A logger, told apart from others of the same name by a number. -/
structure Logger where
  number : Nat
  name : String
  deriving DecidableEq

/-- The channels by name, the number of loggers created, and the common logger. -/
structure Loggers where
  channels : List (String × Channel)
  created : Nat
  common : Option Logger

namespace Loggers

/-- No channel and no logger. -/
def empty : Loggers := ⟨[], 0, none⟩

/-- The name under which the channel of a name is kept. The root channel goes by the empty
name and by a name of its own. -/
def channelName (name : String) : String :=
  if name = "root" then "" else name

/-- The channel of a name. A channel that was never used lets warnings through. -/
def channel (loggers : Loggers) (name : String) : Channel :=
  (loggers.channels.lookup (channelName name)).getD ⟨.warning, false⟩

/-- Change the channel of a name. -/
def update (loggers : Loggers) (name : String) (change : Channel -> Channel) : Loggers :=
  { loggers with
    channels := (channelName name, change (loggers.channel name)) :: loggers.channels }

/-- Create a logger, which resets its channel. -/
def create (loggers : Loggers) (name : String) (threshold : Level) (attached : Bool) :
    Loggers × Logger :=
  let logger : Logger := ⟨loggers.created, name⟩
  let reset := loggers.update name fun _ => ⟨threshold, attached⟩
  ({ reset with created := loggers.created + 1 }, logger)

/-- The common logger if it has the given name, else a new one that becomes common. Its
channel is detached from the collector. -/
def obtain (loggers : Loggers) (name : String) : Loggers × Logger :=
  let fresh :=
    let (created, logger) := loggers.create name .warning false
    ({ created with common := some logger }, logger)
  match loggers.common with
  | some logger =>
      if logger.name = name then
        (loggers.update name fun channel => { channel with attached := false }, logger)
      else
        fresh
  | none => fresh

/-- Change the threshold of a channel. -/
def setThreshold (loggers : Loggers) (name : String) (threshold : Level) : Loggers :=
  loggers.update name fun channel => { channel with threshold }

/-- Attach a channel to the collector, or detach it. -/
def setAttached (loggers : Loggers) (name : String) (attached : Bool) : Loggers :=
  loggers.update name fun channel => { channel with attached }

/-- Log a message on the channel of a name. Only attached channels leave records. -/
def record
    (loggers : Loggers)
    (name : String)
    (journal : Journal)
    (level : Level)
    (message : Text)
    (own : Context) : Journal :=
  let channel := loggers.channel name
  if channel.attached then journal.log channel.threshold level message own else journal

/-- Log a message, unless its context uses a reserved name. -/
def log?
    (loggers : Loggers)
    (name : String)
    (journal : Journal)
    (level : Level)
    (message : Text)
    (own : Context) : Option Journal :=
  if own.usesAny reservedInMessage then none
  else some (loggers.record name journal level message own)

/-- Log a message on a failure as an error, unless its context uses a reserved name. -/
def logFailure?
    (loggers : Loggers)
    (name : String)
    (journal : Journal)
    (message : Text)
    (failure : Failure)
    (own : Context) : Option Journal :=
  if own.usesAny reservedInFailure then none
  else some (loggers.record name journal .error message (failure.describe own))

end Loggers

end Log
end WildcardDiff
