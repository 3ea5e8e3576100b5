import OnDemand.Data.KeyedList
import OnDemand.Signal.Basic

/-!
# Routes

One socket serves all sessions, so a message is brought to its session by the
number in its session identifier. A session is owned by the local number with
which it was made. Its number on the wire is the same when the client names
sessions, and another when the network does, so the table keeps the two apart:
no session can take another's route away.

Handlers are named by numbers. Which handlers are still alive is not known to
the table; whoever asks it says so.

A table in use is a hash map and goes through its sessions in an order that
nobody knows. Here it is the order in which they were put on the table. All that
is proved about handlers rests on which of them there are, and so holds of every
order.
-/

namespace OnDemand

/-- The name of the handler of a session. -/
abbrev HandlerRef := Nat

/-- A session's handler and its number on the wire, once known. -/
structure Route where
  handler : HandlerRef
  number : Option UInt32
  deriving Repr, DecidableEq

/-- The routes of sessions by local number, and local numbers by number on the
wire. -/
structure RouteTable where
  sessions : KeyedList UInt32 Route := []
  byNumber : KeyedList UInt32 UInt32 := []
  deriving Repr, DecidableEq

namespace RouteTable

/-- Whether a session is in the table and its handler alive. -/
def isLive (live : HandlerRef → Bool) (table : RouteTable) (owner : UInt32) : Bool :=
  (table.sessions.get? owner).any fun route => live route.handler

/-- Let a number on the wire go, if it is the session's. -/
def forgetNumber (owner : UInt32) (number : Option UInt32) (table : RouteTable) : RouteTable :=
  match number with
  | none => table
  | some number =>
      if table.byNumber.get? number = some owner then
        { table with byNumber := table.byNumber.erase number }
      else table

/-- Give a number on the wire to a session, away from the session that had it. -/
def claimNumber (owner number : UInt32) (table : RouteTable) : RouteTable :=
  let claimed := { table with byNumber := table.byNumber.insert number owner }
  match table.byNumber.get? number with
  | none => claimed
  | some previous =>
      if previous = owner then claimed
      else
        { claimed with
          sessions := table.sessions.adjust previous fun route => { route with number := none } }

/-- Take a session and its number off the table. -/
def unregister (owner : UInt32) (table : RouteTable) : RouteTable :=
  match table.sessions.get? owner with
  | none => table
  | some route =>
      forgetNumber owner route.number { table with sessions := table.sessions.erase owner }

/-- Put a session on the table that is reached by its local number. -/
def register (owner : UInt32) (handler : HandlerRef) (table : RouteTable) : RouteTable :=
  let table := (table.unregister owner).claimNumber owner owner
  { table with sessions := table.sessions.insert owner ⟨handler, some owner⟩ }

/-- Put a session on the table that has no number on the wire yet. -/
def registerUnnumbered (owner : UInt32) (handler : HandlerRef) (table : RouteTable) :
    RouteTable :=
  let table := table.unregister owner
  { table with sessions := table.sessions.insert owner ⟨handler, none⟩ }

/-- Reach a session by another number on the wire. Refused when the session is not
on the table, or when the number is another live session's. -/
def rebind (live : HandlerRef → Bool) (owner number : UInt32) (table : RouteTable) :
    Bool × RouteTable :=
  match table.sessions.get? owner with
  | none => (false, table)
  | some route =>
      if route.number = some number then (true, table)
      else if (table.byNumber.get? number).any fun other =>
          other ≠ owner && table.isLive live other then
        (false, table)
      else
        let table := (table.forgetNumber owner route.number).claimNumber owner number
        (true,
          { table with
            sessions := table.sessions.adjust owner fun route =>
              { route with number := some number } })

/-- The live handler of a number on the wire. -/
def lookup (live : HandlerRef → Bool) (number : UInt32) (table : RouteTable) :
    Option HandlerRef := do
  let owner ← table.byNumber.get? number
  let route ← table.sessions.get? owner
  if live route.handler then some route.handler else none

/-- The live handler of the session that a message is about. -/
def route (live : HandlerRef → Bool) (message : Signal) (table : RouteTable) :
    Option HandlerRef := do
  let session ← message.body.session?
  table.lookup live session.number

/-- All live handlers, one for each session, in an order that stands for any. -/
def handlers (live : HandlerRef → Bool) (table : RouteTable) : List HandlerRef :=
  (table.sessions.map fun entry => entry.2.handler).filter live

/-- A live handler that awaits a reply in a transaction; of several, the order
decides. -/
def routeTransaction (live : HandlerRef → Bool) (awaits : HandlerRef → UInt32 → Bool)
    (transaction : UInt32) (table : RouteTable) : Option HandlerRef :=
  (table.handlers live).find? fun handler => awaits handler transaction

/-- The number of sessions on the table, dead handlers included. -/
def size (table : RouteTable) : Nat := table.sessions.length

end RouteTable

end OnDemand
