import OnDemand.Main
import OnDemand.Playback.Open
import OnDemand.Playback.Query
import OnDemand.Proofs.Request.Retransmission
import OnDemand.Proofs.Session.Finality
import OnDemand.Proofs.Session.Orphans
import OnDemand.Proofs.Signal.RoundTrip
import OnDemand.Request.Desk
import OnDemand.Schedule.Rota
import OnDemand.Session.Run
import OnDemand.Settings.Document
import OnDemand.Summary.Session
import OnDemand.Proofs.Wire.Accepts
import OnDemand.Proofs.Wire.Template
import OnDemand.Proofs.Resource.Template
import OnDemand.Proofs.Signal.Template
import OnDemand.Proofs.Descriptor.Canonical
import OnDemand.Proofs.Descriptor.Image
import OnDemand.Proofs.Descriptor.Template
import OnDemand.Proofs.Session.Course
import OnDemand.Proofs.Session.Turning
import OnDemand.Proofs.Session.Agreement
import OnDemand.Proofs.Playback.Reassembly
import OnDemand.Proofs.Playback.Loss
import OnDemand.Proofs.Playback.Callers
import OnDemand.Proofs.Session.Indication
import OnDemand.Proofs.Session.Answers
import OnDemand.Proofs.Session.Reachability
import OnDemand.Proofs.Route.Switchboard
import OnDemand.Proofs.Request.Timers
import OnDemand.Proofs.Session.Response
import OnDemand.Proofs.Schedule.Passage
import OnDemand.Proofs.Session.Access
import OnDemand.Proofs.Session.Heartbeat
import OnDemand.Proofs.Route.Neighbors
import OnDemand.Proofs.Request.Refusals
import OnDemand.Proofs.Session.Setbacks
import OnDemand.Proofs.Playback.Parts
import OnDemand.Proofs.Playback.Position
import OnDemand.Proofs.Playback.Midpoint
import OnDemand.Proofs.Session.Grant
import OnDemand.Proofs.Asset.Setup
import OnDemand.Proofs.Playback.Boundary
import OnDemand.Proofs.Address.Mac
import OnDemand.Proofs.Session.Identity
