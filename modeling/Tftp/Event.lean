import Tftp.Exchange

/-!
# Events

What an observer of the server's surroundings sees of a request being served, beside the
datagrams themselves: calls of a backend, work on a file, and packets on a channel.
-/

namespace Tftp

/-- Something seen from outside while a request is served. -/
inductive Event where
  /-- a backend is asked for a file -/
  | asked (peer : Address) (filename : String)
  /-- a logging backend writes a line -/
  | logged (line : String)
  /-- a file of the file system is opened -/
  | opened (path : String)
  /-- a read from a file, which is shown to observers or not -/
  | fileRead (observed : Bool) (size : Int)
  /-- a file is closed, which is shown to observers or not -/
  | fileClosed (observed : Bool)
  /-- a packet is written to a channel -/
  | sent (packet : Draft) (now : Time)
  /-- the write of a packet fails, the writes being numbered from zero -/
  | sendFailed (index : Nat)
  /-- a packet is waited for on a channel -/
  | awaited (wait now : Time)
  deriving Inhabited

/-- What was seen and noted so far, the latest first. -/
structure Transcript where
  events : List Event := []
  notices : List Notice := []
  deriving Inhabited

namespace Transcript

/-- The transcript with more events and notices, given with the earliest first. -/
def add (t : Transcript) (events : List Event) (notices : List Notice) : Transcript :=
  ⟨events.reverse ++ t.events, notices.reverse ++ t.notices⟩

end Transcript

end Tftp
