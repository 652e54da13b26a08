import Fleet.Cluster.Batch
import Fleet.Supervisor.Tick

/-!
# Settings

What a configuration file may set, what holds when it does not, and which values are refused.

Every setting has a default. Values are refused one at a time, in a fixed order, and the first
refusal is the one that is told (`problem?`). `policy` and `supervision` are the settings as batches
and supervisors take them, with times as durations.
-/

namespace Fleet

/-- How log lines are written. -/
structure Logging where
  level : String
  format : String
  deriving Repr, DecidableEq

/-- Bounds and time limits of batches, in milliseconds. -/
structure Fanout where
  maxParallel : Nat
  commandMaxParallel : Nat
  versionTimeout : Nat
  listTimeout : Option Nat
  commandTimeout : Option Nat
  deriving Repr, DecidableEq

/-- Rate of requests, and the milliseconds one may take. -/
structure Throttle where
  qps : Nat
  burst : Nat
  requestTimeout : Option Nat
  deriving Repr, DecidableEq

/-- Cadence and budget of supervision; seconds, and milliseconds for one probe. -/
structure Supervision where
  refreshInterval : Nat
  maxDelay : Nat
  factor : Double
  maxConnRetry : Nat
  probeTimeout : Nat
  deriving Repr, DecidableEq

/-- All settings. -/
structure Settings where
  logging : Logging
  fanout : Fanout
  client : Throttle
  supervisor : Supervision
  kubeconfig : Option String
  kubectl : String
  selectionFile : Option String
  deriving Repr, DecidableEq

/-- Information, for people. -/
def Logging.default : Logging := ⟨"info", "pretty"⟩

/-- Ten tasks at once, five seconds for a version, no other limits. -/
def Fanout.default : Fanout := ⟨10, 10, 5000, none, none⟩

/-- Fifty requests a second, a hundred at once. -/
def Throttle.default : Throttle := ⟨50, 100, none⟩

/-- A probe every 15 seconds, doubling up to two minutes, five failures in a row. -/
def Supervision.default : Supervision := ⟨15, 120, .two, 5, 5000⟩

namespace Settings

/-- Settings when nothing is configured. -/
def default : Settings :=
  ⟨.default, .default, .default, .default, none, "kubectl", none⟩

/-- Policy of batches. -/
def policy (s : Settings) : Cluster.Policy :=
  { maxParallel := s.fanout.maxParallel
    commandMaxParallel := s.fanout.commandMaxParallel
    versionTimeout := .ofMillis s.fanout.versionTimeout
    listTimeout := s.fanout.listTimeout.map .ofMillis
    commandTimeout := s.fanout.commandTimeout.map .ofMillis }

/-- Configuration of supervision. -/
def supervision (s : Settings) : Supervisor.Config :=
  { refreshInterval := .ofSecs s.supervisor.refreshInterval
    maxDelay := .ofSecs s.supervisor.maxDelay
    factor := s.supervisor.factor
    budget := s.supervisor.maxConnRetry
    probeTimeout := .ofMillis s.supervisor.probeTimeout }

/-- Why a value is refused. -/
def positive : String := "must be greater than 0"

/-- The first refused setting. -/
def problem? (s : Settings) : Option Failure :=
  if s.fanout.maxParallel = 0 then some (.refused .maxParallel positive)
  else if s.fanout.commandMaxParallel = 0 then some (.refused .commandMaxParallel positive)
  else if s.fanout.versionTimeout = 0 then some (.refused .versionTimeout positive)
  else if s.fanout.listTimeout = some 0 then some (.refused .listTimeout positive)
  else if s.fanout.commandTimeout = some 0 then some (.refused .commandTimeout positive)
  else if s.client.qps = 0 then some (.refused .qps positive)
  else if s.client.burst < s.client.qps then some (.refused .burst "must be >= qps")
  else if s.supervisor.refreshInterval = 0 then some (.refused .refreshInterval positive)
  else if s.supervisor.maxDelay < s.supervisor.refreshInterval then
    some (.refused .maxDelay "must be >= refresh_interval_secs")
  else if s.supervisor.factor < Double.one then
    some (.refused .backoffMultiplier "must be >= 1.0")
  else if s.supervisor.maxConnRetry = 0 then some (.refused .maxConnRetry positive)
  else if s.supervisor.probeTimeout = 0 then some (.refused .probeTimeout positive)
  else if Text.isAllBlank s.kubectl then some (.missing .kubectl)
  else none

end Settings

end Fleet
