import OnDemand.Session.Basic
import OnDemand.Summary.Format

/-!
# What a session was granted

The summary of a session is a list of lines: a heading in a frame, a row for each
thing that is known, and the foot of the frame.
-/

namespace OnDemand.Summary

/-- The rows about tuning; what is not known has none. -/
def tuningRows (tuning : TuningParameters) : List (String × String) :=
  (tuning.frequencyHz.map fun hertz => ("Frequency", frequency hertz)).toList
    ++ (tuning.modulation.map fun modulation => ("Modulation", modulation.name)).toList
    ++ (tuning.symbolRate.map fun rate =>
      ("Symbol rate", toString rate.toNat ++ " sym/s")).toList
    ++ (tuning.programNumber.map fun program => ("Program", toString program.toNat)).toList
    ++ (tuning.transportStreamId.map fun id =>
      ("TSID", Text.hexNumeral 4 id.toNat)).toList
    ++ (tuning.bandwidthBps.map fun rate => ("Bandwidth", bandwidth rate)).toList

def rows (session : Session) : List (String × String) :=
  [("Id", session.id.text), ("State", session.state.name),
      ("Vendor", session.profile.vendor.name), ("Asset", toString session.asset.assetId.toNat)]
    ++ tuningRows session.tuning
    ++ (session.endpoint.map fun endpoint => ("Stream endpoint", endpoint.text)).toList
    ++ (session.handle.map fun handle =>
      ("Stream handle", Text.hexNumeral 1 handle.toNat)).toList
    ++ (session.duration.map fun milliseconds =>
      ("Duration", position milliseconds.toFloat)).toList

/-- A horizontal line of a frame. -/
def rule : String := String.ofList (List.replicate 61 '─')

/-- The heading of a session's summary: a blank line, then three lines of frame. -/
def heading : List String :=
  ["", "┌" ++ rule ++ "┐",
    "│ SESSION                                                     │",
    "├" ++ rule ++ "┤"]

def lines (session : Session) : List String :=
  heading ++ (rows session).map (fun row => "│ " ++ row.1 ++ ": " ++ row.2)
    ++ ["└" ++ rule ++ "┘"]

end OnDemand.Summary
