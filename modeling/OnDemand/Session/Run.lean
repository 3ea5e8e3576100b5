import OnDemand.Session.Inbound
import OnDemand.Session.Operations

/-!
# Time and the network

The alarms of a client ring as time passes. Over a datagram socket a client takes
only what comes from its resource manager, and no more of a datagram than fits
its buffer.
-/

namespace OnDemand.Client

/-- What happens when an alarm rings. -/
def ring (reminder : Reminder) (client : Client) : Client :=
  match reminder with
  | .unanswered transaction =>
      match client.courier.expire transaction with
      | (courier, none) => { client with courier }
      | (courier, some notice) =>
          let client := { client with courier }
          if client.isLive notice.owner then client.deliveryFailed notice else client
  | .keepAlive ref => if client.isLive ref then client.keepAliveDue ref else client

/-- Let the first alarm that is due at `limit` ring. -/
def step (limit : Time) (client : Client) : Option Client :=
  match client.courier.agenda.popDue? limit with
  | none => none
  | some (alarm, agenda) =>
      some ({ client with courier := { client.courier with agenda } }.ring alarm.task)

/-- How often an alarm and those that follow it can ring until `limit`. -/
def load (limit : Time) (client : Client) (alarm : Alarm Reminder) : Nat :=
  match alarm.task with
  | .unanswered _ => client.courier.load alarm
  | .keepAlive _ =>
      (limit + client.settings.keepAliveInterval - alarm.deadline)
        / client.settings.keepAliveInterval + 1

/-- How often alarms can ring until `limit`. -/
def weight (limit : Time) (client : Client) : Nat :=
  Agenda.totalLoad (client.load limit) client.courier.agenda.alarms

/-- Let time pass, each alarm ringing at its time. -/
def advance (duration : Time) (client : Client) : Client :=
  let limit := client.courier.agenda.now + duration
  let client := exhaust (step limit) (client.weight limit) client
  { client with
    courier := { client.courier with agenda := client.courier.agenda.moveTo limit } }

/-- The most bytes of a datagram that a socket takes. -/
def datagramLimit : Nat := 4096

/-- A datagram comes in at the socket. -/
def socketDatagram (fromManager : Bool) (datagram : Bytes) (client : Client) : Client :=
  if fromManager then client.dispatch (datagram.take datagramLimit) else client

end OnDemand.Client
