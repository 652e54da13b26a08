import Fleet.Duration
import Fleet.Text.Quoted

/-!
# Failures

What can go wrong, by cause, and the wording of each.

A failure carries what its wording needs and nothing else, so two failures are equal exactly if they
have the same cause. Most of them name a context (`context?`), by which they are told in a batch. Of
a malformed document the text is kept: what a parser finds wrong is a matter of the text alone.
-/

namespace Fleet

/-- Settings that may be missing or refused. -/
inductive Setting where
  | kubectl
  | maxParallel
  | commandMaxParallel
  | versionTimeout
  | listTimeout
  | commandTimeout
  | qps
  | burst
  | refreshInterval
  | maxDelay
  | backoffMultiplier
  | maxConnRetry
  | probeTimeout
  deriving Repr, DecidableEq

/-- Name of a setting in the configuration file. -/
def Setting.name : Setting → String
  | .kubectl => "kubectl"
  | .maxParallel => "max_parallel"
  | .commandMaxParallel => "command_max_parallel"
  | .versionTimeout => "version_timeout_ms"
  | .listTimeout => "list_timeout_ms"
  | .commandTimeout => "command_timeout_ms"
  | .qps => "qps"
  | .burst => "burst"
  | .refreshInterval => "refresh_interval_secs"
  | .maxDelay => "max_delay_secs"
  | .backoffMultiplier => "backoff_multiplier"
  | .maxConnRetry => "max_conn_retry"
  | .probeTimeout => "probe_timeout_ms"

/-- A cause of failure. -/
inductive Failure where
  | missing (setting : Setting)
  | refused (setting : Setting) (reason : String)
  | configUnreadable (reason : String)
  | configMalformed (detail : String)
  | configOther (text : String)
  /-- A context, or its cluster or user, cannot be resolved. -/
  | unresolved (context reason : String)
  /-- No client can be made for a context. -/
  | unconnected (context reason : String)
  /-- A call to a cluster failed. -/
  | call (context reason : String)
  | timeout (context : String) (after : Duration)
  | process (context message : String)
  | disconnected (failures max : Nat)
  /-- A task ended without an outcome. -/
  | aborted (context reason : String)
  /-- A text is no document of the expected shape. The text stands for what its parser finds in
  it. -/
  | yaml (document : String)
  | io (reason : String)
  deriving Repr, DecidableEq, Inhabited

namespace Failure

/-- Wording. -/
def message : Failure → String
  | missing s => "missing required field: " ++ s.name
  | refused s reason => "invalid value for " ++ s.name ++ ": " ++ reason
  | configUnreadable reason => "failed to read config file: " ++ reason
  | configMalformed detail => "failed to parse config: " ++ detail
  | configOther text => text
  | unresolved c reason => "context " ++ Text.quoted c ++ ": " ++ reason
  | unconnected c reason => "client for context " ++ Text.quoted c ++ ": " ++ reason
  | call c reason => "API call on context " ++ Text.quoted c ++ " failed: " ++ reason
  | timeout c after =>
    "context " ++ Text.quoted c ++ " timed out after " ++ toString after.millis ++ "ms"
  | process _ message => message
  | disconnected failures max =>
    "lost cluster connection after " ++ toString failures ++ "/" ++ toString max ++ " failed probes"
  | aborted c reason => "task for context " ++ Text.quoted c ++ " aborted: " ++ reason
  | yaml _ => "YAML parsing error: malformed document"
  | io reason => "IO error: " ++ reason

/-- Context that a failure belongs to. -/
def context? : Failure → Option String
  | unresolved c _ | unconnected c _ | call c _ | timeout c _ | process c _ | aborted c _ => some c
  | _ => none

end Failure

end Fleet
