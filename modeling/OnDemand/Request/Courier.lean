import OnDemand.Data.KeyedList
import OnDemand.Request.Transport
import OnDemand.Signal.Codec

/-!
# Couriers

A courier sends the requests of sessions and repeats them until they are
answered. A request with retries is kept until a confirm of its transaction
comes. Each time the message timer runs out, the same bytes are sent again;
once the retries are used up, the request is dropped and its owner is to be told.

The agenda of a courier also takes the keep-alive alarms of sessions, which the
courier itself does not look at.
-/

namespace OnDemand

/-- What an alarm is for. -/
inductive Reminder where
  /-- The message timer of a request. -/
  | unanswered (transaction : UInt32)
  /-- The keep-alive interval of a session. -/
  | keepAlive (session : Nat)
  deriving Repr, DecidableEq

/-- A request that waits for its confirm. -/
structure PendingRequest where
  kind : SignalKind
  bytes : Bytes
  retriesLeft : Nat
  /-- The local number of the session that sent the request. -/
  session : UInt32
  owner : Nat
  alarm : AlarmHandle
  /-- The handle of its first alarm, which tells it from all other requests, also
  from those of the same transaction. -/
  ticket : AlarmHandle
  deriving Repr, DecidableEq

/-- A request that was given up. -/
structure FailureNotice where
  owner : Nat
  transaction : UInt32
  kind : SignalKind
  ticket : AlarmHandle
  deriving Repr, DecidableEq

/-- Requests in flight. -/
structure Courier where
  /-- How long a request waits before it is sent again. -/
  timer : Time
  agenda : Agenda Reminder := {}
  transport : Transport := {}
  pending : KeyedList UInt32 PendingRequest := []

namespace Courier

/-- Send a datagram without keeping it. -/
def send (sender : Option Nat) (bytes : Bytes) (courier : Courier) : Bool × Courier :=
  let (delivered, transport) := courier.transport.send courier.agenda.now sender none bytes
  (delivered, { courier with transport })

/-- Send a copy of a request that is kept. -/
def sendCopy (request : PendingRequest) (courier : Courier) : Bool × Courier :=
  let (delivered, transport) :=
    courier.transport.send courier.agenda.now (some request.owner) (some request.ticket)
      request.bytes
  (delivered, { courier with transport })

/-- A courier whose transport refuses everything from now on, or nothing. -/
def setFailing (failing : Bool) (courier : Courier) : Courier :=
  { courier with transport := courier.transport.setFailing failing }

def arm (delay : Time) (reminder : Reminder) (courier : Courier) : AlarmHandle × Courier :=
  let (handle, agenda) := courier.agenda.after delay reminder
  (handle, { courier with agenda })

def disarm (handle : AlarmHandle) (courier : Courier) : Courier :=
  { courier with agenda := courier.agenda.cancel handle }

/-- Whether a request waits for a confirm in a transaction. -/
def isPending (transaction : UInt32) (courier : Courier) : Bool :=
  (courier.pending.get? transaction).isSome

/-- Forget the request of a transaction and its alarm. -/
def drop (transaction : UInt32) (courier : Courier) : Courier :=
  match courier.pending.get? transaction with
  | none => courier
  | some request =>
      { courier.disarm request.alarm with pending := courier.pending.erase transaction }

/-- Keep a request, in place of any other of its transaction. -/
def keep (transaction : UInt32) (request : PendingRequest) (courier : Courier) : Courier :=
  let dropped := courier.drop transaction
  { dropped with pending := dropped.pending.insert transaction request }

/-- Send a message. With retries it is kept until it is answered, from before it is
sent, so that no confirm can come too early; a message that the transport refuses
is not kept. -/
def submit (message : Signal) (retries : Nat) (session : UInt32) (owner : Nat)
    (courier : Courier) : Except SubmitError Unit × Courier :=
  match message.encode with
  | .error fault => (.error (.unencodable fault), courier)
  | .ok bytes =>
      if retries = 0 then
        let (delivered, courier) := courier.send (some owner) bytes
        (if delivered then .ok () else .error .refused, courier)
      else
        let transaction := message.transaction
        let (alarm, courier) := courier.arm courier.timer (.unanswered transaction)
        let request := ⟨message.kind, bytes, retries, session, owner, alarm, alarm⟩
        let (delivered, courier) := (courier.keep transaction request).sendCopy request
        if delivered then (.ok (), courier)
        else (.error .refused, courier.drop transaction)

/-- Forget the request of a transaction; the answer is whether there was one. -/
def acknowledge (transaction : UInt32) (courier : Courier) : Bool × Courier :=
  (courier.isPending transaction, courier.drop transaction)

/-- Forget the request of a transaction if a confirm of some kind answers it. -/
def acknowledgeReply (transaction : UInt32) (reply : SignalKind) (courier : Courier) :
    Bool × Courier :=
  match courier.pending.get? transaction with
  | none => (false, courier)
  | some request =>
      if reply.request? = some request.kind then (true, courier.drop transaction)
      else (false, courier)

/-- Forget all requests of a session without telling anyone; the answer is their
number. -/
def cancelSession (session : UInt32) (courier : Courier) : Nat × Courier :=
  let own := courier.pending.filter fun entry => entry.2.session == session
  let courier := own.foldl (fun courier entry => courier.disarm entry.2.alarm) courier
  (own.length,
    { courier with
      pending := courier.pending.filter fun entry => entry.2.session != session })

/-- What happens when the timer of a request runs out: it is sent again while
retries are left, and given up after that. -/
def expire (transaction : UInt32) (courier : Courier) : Courier × Option FailureNotice :=
  match courier.pending.get? transaction with
  | none => (courier, none)
  | some request =>
      if request.retriesLeft = 0 then
        ({ courier with pending := courier.pending.erase transaction },
          some ⟨request.owner, transaction, request.kind, request.ticket⟩)
      else
        let (alarm, courier) := courier.arm courier.timer (.unanswered transaction)
        let again := { request with retriesLeft := request.retriesLeft - 1, alarm }
        let courier :=
          { courier with pending := courier.pending.adjust transaction fun _ => again }
        ((courier.sendCopy again).2, none)

def size (courier : Courier) : Nat := courier.pending.length

/-- How often an alarm can still ring, itself and those that follow it. -/
def load (courier : Courier) (alarm : Alarm Reminder) : Nat :=
  match alarm.task with
  | .unanswered transaction =>
      match courier.pending.get? transaction with
      | none => 1
      | some request => request.retriesLeft + 1
  | .keepAlive _ => 1

/-- How often alarms can still ring. -/
def weight (courier : Courier) : Nat :=
  Agenda.totalLoad courier.load courier.agenda.alarms

end Courier

end OnDemand
