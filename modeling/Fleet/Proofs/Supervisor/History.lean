import Fleet.Supervisor.Tick
import Fleet.Watch.Gate
import Mathlib.Data.List.Basic

/-!
# Histories of probes

What supervision should have made known after a history of probe results, oldest first: the
connection, the calls of the consumer of pauses and resumes, and the entries of the status log.

All of that is a function of the history alone, through the number of failures in a row at its end
(`failuresInRow`): the connection by comparing it to the budget (`connectivityOf`), the calls and
entries for each of its fronts in turn (`upToEach`). `Agrees` puts the parts together, for a state
and all notices that were heard. Nothing here mentions how the supervisor counts or what it stores,
so that the theorem on series has something to be compared with.
-/

namespace Fleet.Supervisor

/-- Failures since the last success. -/
def failuresInRow (history : List Bool) : Nat := (history.reverse.takeWhile (!·)).length

/-- A success ends the failures in a row. -/
lemma failuresInRow_up (history : List Bool) : failuresInRow (history ++ [true]) = 0 := by
  unfold failuresInRow
  rw [List.reverse_append]
  rfl

/-- A failure is one more in a row. -/
lemma failuresInRow_down (history : List Bool) :
    failuresInRow (history ++ [false]) = failuresInRow history + 1 := by
  unfold failuresInRow
  rw [List.reverse_append]
  rfl

/-- There are failures in a row just when the last probe failed. -/
lemma failuresInRow_pos_iff (history : List Bool) :
    0 < failuresInRow history ↔ history.getLast? = some false := by
  obtain rfl | ⟨earlier, last, rfl⟩ := List.eq_nil_or_concat' history
  · exact ⟨fun h => absurd h (by decide), fun h => by cases h⟩
  · rw [List.getLast?_concat]
    cases last with
    | true =>
      rw [failuresInRow_up]
      exact ⟨fun h => absurd h (by decide), fun h => by cases h⟩
    | false =>
      rw [failuresInRow_down]
      exact ⟨fun _ => rfl, fun _ => Nat.succ_pos _⟩

/-- Histories that end with each of the probes in turn. -/
def upToEach (history : List Bool) : List (List Bool) :=
  (List.range history.length).map fun i => history.take (i + 1)

/-- The whole history is the last of those up to each probe. -/
lemma upToEach_concat (history : List Bool) (up : Bool) :
    upToEach (history ++ [up]) = upToEach history ++ [history ++ [up]] := by
  unfold upToEach
  rw [List.length_append, List.length_singleton, List.range_succ, List.map_append]
  congr 1
  · apply List.map_congr_left
    intro i mem
    have lt := List.mem_range.1 mem
    exact List.take_append_of_le_length lt
  · have whole : (history ++ [up]).length = history.length + 1 := by
      rw [List.length_append, List.length_singleton]
    rw [List.map_singleton, List.take_of_length_le (Nat.le_of_eq whole)]

/-- The last probe succeeded directly after a failure. -/
def recovers (history : List Bool) : Bool :=
  decide (history.getLast? = some true ∧ history.dropLast.getLast? = some false)

/-- A success recovers exactly if it follows a failure. -/
lemma recovers_up (history : List Bool) :
    recovers (history ++ [true]) = decide (0 < failuresInRow history) := by
  unfold recovers
  rw [List.getLast?_concat, List.dropLast_concat, decide_eq_decide, failuresInRow_pos_iff]
  exact and_iff_right rfl

/-- Calls of the consumer for the last probe: a pause for a failure, and a resume for a success
directly after one. -/
def callsFor (history : List Bool) : List Watch.GateStep :=
  if history.getLast? = some false then [.pause]
  else if recovers history then [.resume]
  else []

/-- Entry of the status log for the last probe. -/
def entryFor (budget : Nat) (history : List Bool) : Notice :=
  let k := failuresInRow history
  if 0 < k then
    if k < budget then .status .warn (failedMessage k budget) else .status .error (lostMessage k)
  else if recovers history then .status .info recoveredMessage
  else .clear

/-- Connection after a number of failures in a row. -/
def connectivityOf (budget k : Nat) : Connectivity :=
  if k = 0 then .healthy
  else if k < budget then .degraded k
  else .lost k

/-- A notice that the status log receives. -/
def Notice.isEntry : Notice → Bool
  | status _ _ => true
  | clear => true
  | _ => false

/-- Entries of the status log among notices. -/
def entries (ns : List Notice) : List Notice := ns.filter Notice.isEntry

/-- A state and the notices sent so far are what a history calls for. -/
structure Agrees (budget : Nat) (history : List Bool) (s : State) (ns : List Notice) : Prop where
  counter : s.retry.failures = failuresInRow history
  healthy : s.connectivity = .healthy ↔ failuresInRow history = 0
  degraded : ∀ k, s.connectivity = .degraded k ↔
    failuresInRow history = k ∧ 0 < k ∧ k < budget
  lost : ∀ k, s.connectivity = .lost k ↔ failuresInRow history = k ∧ max budget 1 ≤ k
  /-- A gate that starts live and hears the notices is live. -/
  live : Watch.gateAfter true (Watch.gateSteps ns) = true ↔ s.connectivity = .healthy
  calls : Watch.gateSteps ns = (upToEach history).flatMap callsFor
  status : entries ns = (upToEach history).map (entryFor budget)
  /-- The delay after one more failure can be worked out. -/
  ready : (Duration.ofSeconds? s.retry.nextSeconds).isSome

/-- A connection is healthy exactly without a failure. -/
lemma connectivityOf_eq_healthy {budget k : Nat} : connectivityOf budget k = .healthy ↔ k = 0 := by
  unfold connectivityOf
  split
  · rename_i zero
    exact ⟨fun _ => zero, fun _ => rfl⟩
  · rename_i nonzero
    split
    all_goals exact ⟨(nomatch ·), fun h => absurd h nonzero⟩

/-- A connection is degraded exactly with as many failures as it says and below the budget. -/
lemma connectivityOf_eq_degraded {budget k j : Nat} :
    connectivityOf budget k = .degraded j ↔ k = j ∧ 0 < j ∧ j < budget := by
  unfold connectivityOf
  split
  · constructor
    · intro h
      cases h
    · omega
  · split
    · rw [Connectivity.degraded.injEq]
      omega
    · constructor
      · intro h
        cases h
      · omega

/-- A connection is lost exactly with as many failures as it says, at the budget or above, and at
least one. -/
lemma connectivityOf_eq_lost {budget k j : Nat} :
    connectivityOf budget k = .lost j ↔ k = j ∧ max budget 1 ≤ j := by
  unfold connectivityOf
  split
  · constructor
    · intro h
      cases h
    · omega
  · split
    · constructor
      · intro h
        cases h
      · omega
    · rw [Connectivity.lost.injEq]
      omega

end Fleet.Supervisor
