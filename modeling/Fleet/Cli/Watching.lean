import Fleet.Cli.Listing
import Fleet.Supervisor.Run
import Fleet.Watch.Drive

/-!
# Watching

A listing is shown again on every beat while the active context answers. Probes and passes run side
by side; what they say is told in the order of time. The beat at the start is taken before the first
probe ends. Unless contexts are named, each success of a probe has the selection read again, and the
passes that start from then on are of the contexts in effect by it.

A watch is made of three things that do not wait for one another: the probes of the active context,
the passes of the loop, and what others store. `Watching` holds them as they are known when it
begins, with the whole trace of probes; passes are worked out from the instant at which they start
(`listingAt`), with the contexts in effect then (`targetsAt`) and the clients kept by the passes
before.

A watch that is never interrupted and never loses its connection has no end. It is shown as far as a
horizon and does not return (`overAt`).
-/

namespace Fleet.Cli

namespace Watching

/-- What is said at an instant. -/
structure Event where
  time : Nat
  messages : List Console.Message
  deriving Repr

/-- Message of a notice, if it has one. -/
def message? (now : Time.Stamp) : Supervisor.Notice → Option Console.Message
  | .status .info s => some (.status now.clock "info" s)
  | .status .warn s => some (.warning s)
  | .status .error s => some (.error s)
  | _ => none

/-- What a probe says. -/
def ofProbe (now : Time.Stamp) (p : Supervisor.Probed) : Event :=
  ⟨p.stop, p.tick.notices.filterMap (message? now)⟩

/-- What a pass shows. -/
def passMessages (scene : Scene) (contexts : List String) (q : Query) (os : List ContextObject) :
    List Console.Message :=
  let isMulti := Listing.isMulti contexts
  if scene.mode.isJson then
    [.value (.object [("command", .str "watch"), ("at", .str scene.now.text),
      ("items", .arr (os.map (Listing.item isMulti)))])]
  else
    [.section_ (q.resource.text ++ " on " ++ toString contexts.length ++ " context(s) at " ++
        scene.now.clock),
      .raw (Listing.table isMulti scene.now os ++ "\n")]

/-- Events in the order of time; of equal times those of the first list come first. -/
def merge : List Event → List Event → List Event
  | [], bs => bs
  | as, [] => as
  | a :: as, b :: bs =>
    if a.time ≤ b.time then a :: merge as (b :: bs) else b :: merge (a :: as) bs

/-- Flips of the gate; none at the very start. -/
def flips (probes : List Supervisor.Probed) : Watch.Flips :=
  ⟨(Watch.Flips.ofProbes probes).events.map fun (t, b) => (max t 1, b)⟩

/-- Signal of an interruption. -/
def signals (interrupt : Option Nat) : Supervisor.Signals :=
  ⟨false, interrupt.toList.map fun t => (t, .send true)⟩

/-- Probes that a run can need before it is over or the horizon is reached. -/
def probeLimit (config : Supervisor.Config) (outside : Outside) : Nat :=
  max (outside.interrupt.getD 0) outside.horizon + config.budget + 2

/-- Milliseconds between beats. -/
def beat (interval : Nat) : Nat := max interval 1 * 1000

/-- The interval between beats is never empty. -/
theorem beat_pos (interval : Nat) : 0 < beat interval :=
  Nat.mul_pos (Nat.lt_of_lt_of_le Nat.zero_lt_one (Nat.le_max_right ..)) (by decide)

/-- Files of a session at an instant, with all that others stored up to then. -/
def filesAt (s : Session) (outside : Outside) (t : Nat) : Files.Tree :=
  (outside.stored.filter (·.1 ≤ t)).foldl
    (fun files (_, names) => (s.selection.save files names).toOption.getD files) s.files

/-- The selection is read again on the side, unless contexts were named. Only the log tells whether
it can be. -/
def side (q : Query) : Option Supervisor.SideRefresh :=
  if q.contexts = [] then some .always else none

/-- Instants at which the selection is read again; none at the very start. -/
def refreshes (probes : List Supervisor.Probed) : List Nat :=
  probes.flatMap fun p => (p.tick.notices.filter (· = .refresh)).map fun _ => max p.stop 1

end Watching

/-- A watch that has begun: the session, what is listed, the contexts at first, what happens
outside, and the supervision. -/
structure Watching where
  session : Session
  query : Query
  targets : List String
  outside : Outside
  trace : Supervisor.Trace

namespace Watching

/-- Contexts of a pass that starts at an instant: those that the last reading of the selection
left. -/
def targetsAt (w : Watching) (t : Nat) : List String :=
  ((refreshes w.trace.probes).filter (· ≤ t)).foldl
    (fun targets r =>
      (w.session.selection.refresh (filesAt w.session w.outside r) w.session.active? targets).2)
    w.targets

/-- Listing of a pass that starts at an instant. -/
def listingAt (w : Watching) (t : Nat) : Cluster.Outcome (List Json) :=
  (Listing.fetch w.session (w.targetsAt t) w.query).1

/-- What the loop of a watch waits for: every pass takes as long as its listing. -/
def sources (w : Watching) (interval : Nat) : Watch.Sources where
  interval := beat interval
  gate := flips w.trace.probes
  length _ start := (w.listingAt start).elapsed
  shutdown := w.outside.interrupt
  supervisor := w.trace.ending.map fun (e, t) => (t, .returned e.outcome)
  interval_pos := beat_pos interval

/-- What a pass shows when it is over. -/
def shown? (scene : Scene) (w : Watching) (p : Watch.Pass) : Option Event :=
  p.stop.map fun t => ⟨t, passMessages scene (w.targetsAt p.start) w.query
    (Cluster.tagged (w.listingAt p.start).slots)⟩

/-- What is said during passes, and by the probes beside them. -/
def events (scene : Scene) (w : Watching) (passes : List Watch.Pass) : List Event :=
  merge (w.trace.probes.map (ofProbe scene.now)) (passes.filterMap (w.shown? scene))

/-- The run of a watch is over when its loop and its supervision are. -/
def overAt (w : Watching) (elapsed : Nat) : Nat := max elapsed ((w.trace.ending.map (·.2)).getD 0)

/-- The session after passes: their clients are kept, and the files hold what others stored. -/
def sessionAfter (w : Watching) (passes : List Watch.Pass) (t : Nat) : Session :=
  { w.session with
    files := filesAt w.session w.outside t
    registry := passes.foldl (fun r p => (r.getAll w.session.factory (w.targetsAt p.start)).2)
      w.session.registry }

end Watching

namespace Answer

/-- A watch begun on some contexts beside the supervision of another. -/
def begin (scene : Scene) (q : Query) (targets : List String) (active : String) :
    Answer Watching := do
  let s ← session
  let config := s.settings.supervision
  let (client, registry) := s.registry.get s.factory active
  let (up, length) := Cluster.versionProbe (client.map (·.client)) config.probeTimeout
  let trace := Supervisor.runFrom ⟨fun _ => up, length⟩ (Watching.signals scene.outside.interrupt)
    (Watching.probeLimit config scene.outside) (.start config (Watching.side q)) 0 0 0
  return ⟨{ s with registry }, q, targets, scene.outside, trace⟩

/-- What a watch says until its loop is over, and what is left of it. -/
def follow (scene : Scene) (w : Watching) (driven : Watch.Driven) : Answer Unit := do
  setSession (w.sessionAfter driven.passes (w.overAt driven.elapsed))
  sayAll ((w.events scene driven.passes).flatMap (·.messages))
  match driven.exit with
  | .interrupted => return ()
  | .supervisor r => ofExcept r

/-- What a watch that is never over says up to the horizon. -/
def followOn (scene : Scene) (w : Watching) (sources : Watch.Sources) : Answer Unit := do
  let t := scene.outside.horizon
  let passes := ((Watch.drive { sources with shutdown := some t }).map (·.passes)).getD []
  setSession (w.sessionAfter passes t)
  sayAll (((w.events scene passes).filter (·.time ≤ t)).flatMap (·.messages))
  throw .endless

/-- Listings until an interruption or the loss of the connection. -/
def watch (scene : Scene) (q : Query) (interval : Nat) : Answer Unit := do
  let s ← session
  let active ← match s.active? with
    | some a => pure a
    | none => ofExcept (.error (.unresolved "" "no active context to supervise"))
  let targets ← ofExcept (s.batchContexts q.contexts)
  say (.hint "press Ctrl-C to stop")
  let w ← begin scene q targets active
  let sources := w.sources interval
  match Watch.drive sources with
  | some driven => follow scene w driven
  | none => followOn scene w sources

end Answer

end Fleet.Cli
