/-!
# Failures

A failure is what a backend call leaves when it does not succeed: a message, and
perhaps a status code and a signal that came outside the message.  These three
are all that its classification looks at.

## Main definitions

* `Signal`, `Failure` — the failures.
* `Failure.cancelled`, `Failure.timedOut` — failures that carry a signal.
* `TransportFault`, `Failure.ofTransport` — failures of the transport.
-/

namespace Failover

/-- What is known of a failure without looking at its message. -/
inductive Signal where
  /-- The caller cancelled. -/
  | cancelled
  /-- A deadline passed. -/
  | deadlineExceeded
  deriving DecidableEq

/-- The name of a signal. -/
def Signal.name : Signal → String
  | cancelled => "cancelled"
  | deadlineExceeded => "deadline_exceeded"

/-- A failed backend call. -/
structure Failure where
  /-- The status code of the response, if there was one. -/
  status : Option UInt16 := none
  /-- The text of the failure. -/
  message : String
  /-- The signal, if one was given. -/
  signal : Option Signal := none
  deriving DecidableEq

/-- How a call fails below the level of responses. -/
inductive TransportFault where
  | timedOut | refused | reset | brokenPipe | wouldBlock | unexpectedEnd | other
  deriving DecidableEq

/-- What a fault of the transport says of itself. -/
def TransportFault.message : TransportFault → String
  | timedOut => "timed out"
  | refused => "connection refused"
  | reset => "connection reset"
  | brokenPipe => "broken pipe"
  | wouldBlock => "operation would block"
  | unexpectedEnd => "unexpected end of file"
  | other => "other error"

namespace Failure

/-- A failure of which only a text is known. -/
def ofMessage (message : String) : Failure := { message }

/-- A failed response. -/
def http (status : UInt16) (message : String) : Failure := { status := some status, message }

/-- A failure to answer in time. -/
def timedOut (message : String) : Failure := { message, signal := some .deadlineExceeded }

/-- A call that the caller cancelled. -/
def cancelled : Failure := { message := "request cancelled", signal := some .cancelled }

/-- A call that was cut off at its time limit. -/
def deadlineElapsed : Failure := timedOut "deadline has elapsed"

/-- A failure of the transport, under a message of its own or the fault's. -/
def ofTransport (fault : TransportFault) (message : String := fault.message) : Failure :=
  if fault = .timedOut then timedOut message else ofMessage message

/-- How a failure is shown. -/
def text (failure : Failure) : String :=
  match failure.status with
  | some status => "HTTP " ++ toString status.toNat ++ ": " ++ failure.message
  | none => failure.message

end Failure

end Failover
