import Fleet.Failure
import Fleet.Retry

/-!
# Supervision of one cluster

A probe succeeds or fails. Failures in a row use up a retry budget; until it is spent the connection
is degraded, then it is lost for good. Every probe sends notices to those who listen.

A tick takes a state and the result of one probe to the next state, with the delay, the notices in
the order in which they are sent, and a warning of the work on the side, which only a log would
show. Texts of notices are part of the model.
-/

namespace Fleet.Supervisor

/-- Weight of a status line. -/
inductive Level where
  | info
  | warn
  | error
  deriving Repr, DecidableEq

/-- What a probe makes known. -/
inductive Notice where
  /-- Live work should pause. -/
  | pause
  /-- Live work may go on. -/
  | resume
  | status (level : Level) (message : String)
  /-- Nothing to report. -/
  | clear
  /-- Time for work on the side. -/
  | refresh
  deriving Repr, DecidableEq

/-- Cadence, budget and limits of supervision. -/
structure Config where
  refreshInterval : Duration
  maxDelay : Duration
  factor : Double
  budget : Nat
  probeTimeout : Duration
  deriving Repr

/-- Settings when nothing is configured. -/
def Config.default : Config :=
  { refreshInterval := Duration.ofSecs 15, maxDelay := Duration.ofSecs 120, factor := Double.two,
    budget := 5, probeTimeout := Duration.ofMillis 5000 }

/-- Fresh budget of a configuration. -/
def Config.retry (c : Config) : Retry := Retry.new c.refreshInterval c.maxDelay c.factor c.budget

/-- Work on the side, begun after every success: how each round of it ends, by its number. Nobody
waits for that. -/
abbrev SideRefresh := Nat → Except Failure Unit

/-- Work on the side that always succeeds. -/
def SideRefresh.always : SideRefresh := fun _ => .ok ()

/-- State between probes. -/
structure State where
  retry : Retry
  connectivity : Connectivity
  cadence : Duration
  side : Option SideRefresh
  /-- Rounds of work on the side begun so far. -/
  rounds : Nat

/-- State before the first probe. -/
def State.start (c : Config) (side : Option SideRefresh := some .always) : State :=
  ⟨c.retry, .healthy, c.refreshInterval, side, 0⟩

/-- Wording of a failed probe within the budget. -/
def failedMessage (failures budget : Nat) : String :=
  "Dial K8s Toast [" ++ toString failures ++ "/" ++ toString budget ++ "]"

/-- Wording of the failed probe that spends the budget. -/
def lostMessage (failures : Nat) : String :=
  "Lost K8s connection (" ++ toString failures ++ "). Bailing out!"

/-- Wording of a success after failures. -/
def recoveredMessage : String := "K8s connectivity OK"

/-- A state, the delay before the next probe, and the notices sent on the way there. -/
structure Tick where
  state : State
  delay : Duration
  notices : List Notice
  /-- Failure of the work on the side begun here, which only the log tells. -/
  warning : Option Failure

/-- Failure of the round of work on the side that comes next. -/
def State.sideFailure? (s : State) : Option Failure :=
  match s.side with
  | none => none
  | some side =>
    match side s.rounds with
    | .ok _ => none
    | .error e => some e

/-- A probe succeeded. -/
def State.succeed (s : State) : Tick :=
  let recovering := decide (0 < s.retry.failures)
  let begun := if s.side.isSome then 1 else 0
  { state := { s with retry := s.retry.reset, connectivity := .healthy, rounds := s.rounds + begun }
    delay := s.cadence
    notices :=
      (if recovering then [.status .info recoveredMessage, .resume] else [.clear]) ++
        List.replicate begun .refresh
    warning := s.sideFailure? }

/-- A probe failed. -/
def State.fail (s : State) : Tick :=
  let retry := s.retry.recordFailure
  if retry.isExhausted then
    { state := { s with retry, connectivity := .lost retry.failures }
      delay := retry.delay
      notices := [.pause, .status .error (lostMessage retry.failures)]
      warning := none }
  else
    { state := { s with retry, connectivity := .degraded retry.failures }
      delay := retry.delay
      notices := [.pause, .status .warn (failedMessage retry.failures retry.budget)]
      warning := none }

/-- One probe with the given result; a lost connection is not probed again. -/
def State.tick (s : State) (up : Bool) : Tick :=
  if s.connectivity.isTerminal then ⟨s, s.retry.delay, [], none⟩
  else if up then s.succeed
  else s.fail

end Fleet.Supervisor
