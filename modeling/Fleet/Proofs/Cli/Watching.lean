import Fleet.Cli.Watching
import Fleet.Proofs.Cli.Contexts
import Fleet.Proofs.Supervisor.Series

/-!
# Contexts of a watch

A watch lists the contexts that it began with until the selection is read again, and from then on
those that a batch begun at that instant would run on, whoever stored them
(`Watching.batchContexts_targetsAt`). Where the selection cannot be read, the contexts stay
(`Watching.targetsAt_of_error`). The supervision has it read again only if it was given that work,
which it is not when contexts are named: they stay as named (`Answer.targetsAt_of_named`).

That no probe asks for work on the side without being given any is a fact about one tick
(`State.refresh_notMem_tick`), carried along a run by induction on its fuel
(`refresh_notMem_runFrom`).
-/

namespace Fleet

namespace Supervisor

variable {probe : Probe} {signals : Signals} {s : State}

/-- A tick without work on the side asks for none, and leaves it at that. -/
lemma State.refresh_notMem_tick (alone : s.side = none) (up : Bool) :
    .refresh ∉ (s.tick up).notices ∧ (s.tick up).state.side = none := by
  unfold State.tick
  split_ifs with terminal success
  · exact ⟨List.not_mem_nil, alone⟩
  · refine ⟨?_, alone⟩
    rw [notices_succeed, alone, if_neg (show ¬ (none : Option SideRefresh).isSome from nofun),
      List.append_nil]
    split_ifs <;> simp
  · unfold State.fail
    dsimp only
    split_ifs
    · exact ⟨by simp, alone⟩
    · exact ⟨by simp, alone⟩

/-- No probe of a run without work on the side asks for any. -/
lemma refresh_notMem_runFrom (fuel : Nat) (s : State) (alone : s.side = none)
    (done seen now : Nat) :
    ∀ p ∈ (runFrom probe signals fuel s done seen now).probes, .refresh ∉ p.tick.notices := by
  induction fuel generalizing s done seen now with
  | zero => exact fun _ mem => absurd mem List.not_mem_nil
  | succ fuel ih =>
    obtain ⟨silent, still⟩ := s.refresh_notMem_tick alone (probe.result done)
    rw [runFrom]
    split
    · exact fun _ mem => absurd mem List.not_mem_nil
    · dsimp only
      split
      · exact List.forall_mem_singleton.2 silent
      · split
        · exact List.forall_mem_singleton.2 silent
        · exact List.forall_mem_cons.2 ⟨silent, ih _ still _ _ _⟩

end Supervisor

namespace Cli

namespace Watching

variable {w : Watching} {t r : Nat} {before : List Nat}

/-- Contexts after some readings of the selection. -/
def targetsAfter (w : Watching) (readings : List Nat) : List String :=
  readings.foldl
    (fun targets r =>
      (w.session.selection.refresh (filesAt w.session w.outside r) w.session.active? targets).2)
    w.targets

/-- One more reading replaces the contexts, or leaves them. -/
lemma targetsAfter_concat (w : Watching) (before : List Nat) (r : Nat) :
    w.targetsAfter (before ++ [r]) =
    (w.session.selection.refresh (filesAt w.session w.outside r) w.session.active?
      (w.targetsAfter before)).2 := by
  unfold targetsAfter
  rw [List.foldl_append]
  rfl

/-- Before the selection is read again, a pass is of the contexts that the watch began with. -/
lemma targetsAt_of_forall_lt (ahead : ∀ r ∈ refreshes w.trace.probes, t < r) :
    w.targetsAt t = w.targets := by
  have none : (refreshes w.trace.probes).filter (· ≤ t) = [] :=
    List.filter_eq_nil_iff.2 fun r mem => by simpa using ahead r mem
  unfold targetsAt
  rw [none]
  rfl

/-- A pass is of the contexts that a batch would run on that was begun when the selection was last
read. -/
lemma batchContexts_targetsAt {selected : List String}
    (readings : (refreshes w.trace.probes).filter (· ≤ t) = before ++ [r])
    (loads : w.session.selection.load (filesAt w.session w.outside r) = .ok selected) :
    ({ w.session with files := filesAt w.session w.outside r } : Session).batchContexts [] =
      .ok (w.targetsAt t) := by
  have batch := Answer.batchContexts_of_selected
    (s := { w.session with files := filesAt w.session w.outside r }) loads
  rw [batch]
  show _ = Except.ok (w.targetsAfter ((refreshes w.trace.probes).filter (· ≤ t)))
  rw [readings, targetsAfter_concat]
  unfold Selection.Store.refresh
  rw [loads]
  rfl

/-- A selection that cannot be read changes nothing. -/
lemma targetsAt_of_error {e : Failure}
    (readings : (refreshes w.trace.probes).filter (· ≤ t) = before ++ [r])
    (fails : w.session.selection.load (filesAt w.session w.outside r) = .error e) :
    w.targetsAt t = w.targetsAfter before := by
  show w.targetsAfter ((refreshes w.trace.probes).filter (· ≤ t)) = _
  rw [readings, targetsAfter_concat]
  unfold Selection.Store.refresh
  rw [fails]

end Watching

namespace Answer

variable {scene : Scene} {q : Query} {targets : List String} {active : String} {p p' : Progress}
  {w : Watching}

/-- Contexts that are named stay as they are named. -/
lemma targetsAt_of_named (named : q.contexts ≠ [])
    (begun : (begin scene q targets active).outcome p = (.ok w, p')) (t : Nat) :
    w.targetsAt t = targets := by
  cases begun
  refine Watching.targetsAt_of_forall_lt fun r mem => ?_
  obtain ⟨probed, mem, asked⟩ := List.mem_flatMap.1 mem
  obtain ⟨notice, asked, -⟩ := List.mem_map.1 asked
  obtain ⟨asked, refresh⟩ := List.mem_filter.1 asked
  obtain rfl : notice = .refresh := of_decide_eq_true refresh
  have alone : Watching.side q = none := if_neg named
  exact absurd asked (Supervisor.refresh_notMem_runFrom _ _ alone _ _ _ probed mem)

end Answer

end Cli

end Fleet
