/-!
# Settings of stream control
-/

namespace OnDemand

/-- The settings of a stream. -/
structure StreamSettings where
  /-- How long connecting may take. -/
  connectTimeoutMs : UInt64 := 5000
  /-- How long a question to the server waits for its answer. -/
  replyTimeoutMs : UInt64 := 3000
  /-- How long the reader waits for input before it looks up. -/
  readPollMs : UInt64 := 100
  /-- After how many failed reads in a row a stream is lost. -/
  maxReadFailures : UInt32 := 5
  /-- How old a position may be before the server is asked. -/
  resyncIntervalSecs : UInt64 := 60
  /-- How near an edge of the asset the server is asked. -/
  boundaryThresholdMs : UInt64 := 5000
  deriving Repr, DecidableEq

/-- The reader waits for a millisecond at least. -/
def StreamSettings.effectiveReadPollMs (settings : StreamSettings) : UInt64 :=
  max settings.readPollMs 1

end OnDemand
