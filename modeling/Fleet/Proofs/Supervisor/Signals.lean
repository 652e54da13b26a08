import Fleet.Supervisor.Signals
import Mathlib.Data.List.Basic
import Mathlib.Order.Nat

/-!
# Waits between probes

All that a wait can come to while events arrive one after another (`waits_wait`), and what a reader
of the channel can rely on: the flag does not change unless it is set (`Signals.Ordered.flag_eq`).

The events up to an instant are a front of all events (`Ordered.exists_upTo`), so what they come to
at a later instant is what they came to before and what came in between. `Waits` has one rule for
each way a wait can end: at once by a setting that has not been seen, by the flag, by a setting on
the way, by the sender going away, or at the deadline. Its instants are bounded from the side of the
flag: if that goes up for good at some instant, no wait that began before goes on beyond it
(`Waits.resume_le`, `Waits.stop_le`).
-/

namespace Fleet.Supervisor

namespace Signals

/-- No two events at one instant, and later ones behind. -/
def Ordered (s : Signals) : Prop := s.events.Pairwise fun e e' => e.1 < e'.1

/-- Whether events are in order is decided by comparing instants. -/
instance (s : Signals) : Decidable s.Ordered :=
  inferInstanceAs (Decidable (s.events.Pairwise fun e e' => e.1 < e'.1))

variable {s : Signals} {u v : Nat}

/-- Every instant parts the events. -/
lemma Ordered.split (ordered : s.Ordered) (u : Nat) : ∃ past future, s.events = past ++ future ∧
    (∀ e ∈ past, e.1 ≤ u) ∧ ∀ e ∈ future, u < e.1 := by
  unfold Ordered at ordered
  generalize s.events = es at ordered ⊢
  -- events are in order, so one that is still ahead has all the rest behind it
  induction es with
  | nil => exact ⟨[], [], rfl, nofun, nofun⟩
  | cons e es ih =>
    obtain ⟨behind, ordered⟩ := List.pairwise_cons.1 ordered
    by_cases gone : e.1 ≤ u
    · obtain ⟨past, future, rfl, before, after⟩ := ih ordered
      exact ⟨e :: past, future, rfl, List.forall_mem_cons.2 ⟨gone, before⟩, after⟩
    · have ahead := Nat.lt_of_not_le gone
      refine ⟨[], e :: es, rfl, nofun, List.forall_mem_cons.2 ⟨ahead, fun e' mem => ?_⟩⟩
      exact ahead.trans (behind e' mem)

/-- Later on the same events have happened, and those that came since. -/
lemma upTo_of_split {past future : List (Nat × Signal)} (split : s.events = past ++ future)
    (gone : ∀ e ∈ past, e.1 ≤ u) (le : u ≤ v) :
    s.upTo v = past.map (·.2) ++ (future.filter (·.1 ≤ v)).map (·.2) := by
  unfold upTo
  rw [split, List.filter_append, List.map_append, List.filter_eq_self.2]
  intro e mem
  simpa using (gone e mem).trans le

/-- Events up to an instant are those before a place where later ones begin. -/
lemma upTo_of_split_self {past future : List (Nat × Signal)} (split : s.events = past ++ future)
    (gone : ∀ e ∈ past, e.1 ≤ u) (ahead : ∀ e ∈ future, u < e.1) : s.upTo u = past.map (·.2) := by
  rw [upTo_of_split split gone (le_refl u), List.filter_eq_nil_iff.2, List.map_nil, List.append_nil]
  intro e mem
  simpa using ahead e mem

/-- Later instants see more events, behind those seen before. -/
lemma Ordered.exists_upTo (ordered : s.Ordered) (le : u ≤ v) :
    ∃ more, s.upTo v = s.upTo u ++ more := by
  obtain ⟨past, future, split, gone, ahead⟩ := ordered.split u
  exact ⟨_, by rw [upTo_of_split split gone le, upTo_of_split_self split gone ahead]⟩

/-- While no event comes, what has happened stays the same. -/
lemma Ordered.upTo_eq (ordered : s.Ordered) (le : u ≤ v)
    (quiet : ∀ e ∈ s.events, u < e.1 → v < e.1) : s.upTo v = s.upTo u := by
  obtain ⟨past, future, split, gone, ahead⟩ := ordered.split u
  rw [upTo_of_split split gone le, upTo_of_split_self split gone ahead, List.filter_eq_nil_iff.2,
    List.map_nil, List.append_nil]
  intro e mem
  have later := quiet e (split ▸ List.mem_append_right past mem) (ahead e mem)
  simpa using later

/-- The first event after an instant is the only one that is new when it comes. -/
lemma Ordered.upTo_next (ordered : s.Ordered) {t : Nat} {e : Signal}
    (next : s.next? u = some (t, e)) :
    u < t ∧ (∀ e' ∈ s.events, u < e'.1 → t ≤ e'.1) ∧ s.upTo t = s.upTo u ++ [e] := by
  obtain ⟨ahead, past, future, split, gone⟩ := List.find?_eq_some_iff_append.1 next
  have ahead : u < t := by simpa using ahead
  have gone : ∀ e' ∈ past, e'.1 ≤ u := fun e' mem => by simpa using gone e' mem
  have behind : ∀ e' ∈ future, t < e'.1 := by
    unfold Ordered at ordered
    rw [split] at ordered
    exact (List.pairwise_cons.1 (List.pairwise_append.1 ordered).2.1).1
  have after : ∀ e' ∈ (t, e) :: future, u < e'.1 :=
    List.forall_mem_cons.2 ⟨ahead, fun e' mem => ahead.trans (behind e' mem)⟩
  refine ⟨ahead, fun e' mem late => ?_, ?_⟩
  · rw [split] at mem
    obtain early | later := List.mem_append.1 mem
    · exact absurd (gone e' early) (Nat.not_le_of_lt late)
    · obtain rfl | later := List.mem_cons.1 later
      · exact le_refl _
      · exact (behind e' later).le
  · rw [upTo_of_split split gone ahead.le, upTo_of_split_self split gone after,
      List.filter_cons_of_pos (by simp), List.filter_eq_nil_iff.2]
    · rfl
    · intro e' mem
      simpa using behind e' mem

/-- Nothing happens after an instant that no event follows. -/
lemma next?_eq_none_iff : s.next? u = none ↔ ∀ e ∈ s.events, e.1 ≤ u := by
  unfold next?
  rw [List.find?_eq_none]
  simp

/-- Without new events the flag stays. -/
lemma flag_eq_of_upTo (same : s.upTo v = s.upTo u) : s.flag v = s.flag u := by
  unfold flag
  rw [same]

/-- Without new events there are no new settings. -/
lemma sent_eq_of_upTo (same : s.upTo v = s.upTo u) : s.sent v = s.sent u := by
  unfold sent
  rw [same]

/-- Settings are no more than events. -/
lemma sent_le (s : Signals) (u : Nat) : s.sent u ≤ s.events.length := by
  unfold sent upTo
  refine (List.length_filter_le _ _).trans ?_
  rw [List.length_map]
  exact List.length_filter_le _ _

/-- Settings do not become fewer. -/
lemma Ordered.sent_mono (ordered : s.Ordered) (le : u ≤ v) : s.sent u ≤ s.sent v := by
  obtain ⟨more, later⟩ := ordered.exists_upTo le
  unfold sent
  rw [later, List.filter_append, List.length_append]
  exact Nat.le_add_right _ _

/-- The flag does not change unless it is set. -/
lemma Ordered.flag_eq (ordered : s.Ordered) (le : u ≤ v) (unset : s.sent v ≤ s.sent u) :
    s.flag v = s.flag u := by
  obtain ⟨more, later⟩ := ordered.exists_upTo le
  unfold sent at unset
  unfold flag
  rw [later, List.filter_append, List.length_append] at unset
  rw [later, List.foldl_append]
  have quiet := List.filter_eq_nil_iff.1 (List.eq_nil_of_length_eq_zero (Nat.le_zero.1
    (Nat.le_of_add_le_add_left unset)))
  clear later unset
  -- the events since then set nothing, so each of them leaves the flag alone
  generalize List.foldl _ _ (s.upTo u) = acc
  induction more with
  | nil => rfl
  | cons e more ih =>
    obtain ⟨first, rest⟩ := List.forall_mem_cons.1 quiet
    cases e with
    | send v => exact absurd rfl first
    | hangUp => exact ih rest

/-- While nothing is set, the flag stays as it was when the reader last looked. -/
lemma Ordered.flag_eq_of_quiet (ordered : s.Ordered) {start stop : Nat} (le : start ≤ stop)
    (ahead : start ≤ v) (unset : s.sent stop ≤ s.sent start)
    (quiet : ∀ e ∈ s.events, stop < e.1 → v < e.1) : s.flag v = s.flag start := by
  by_cases early : v ≤ stop
  · exact ordered.flag_eq ahead ((ordered.sent_mono early).trans unset)
  · rw [flag_eq_of_upTo (ordered.upTo_eq (Nat.le_of_not_le early) quiet), ordered.flag_eq le unset]

/-- A setting that comes last sets the flag. -/
lemma flag_of_send {up : Bool} (next : s.upTo v = s.upTo u ++ [.send up]) : s.flag v = up := by
  unfold flag
  rw [next, List.foldl_append]
  rfl

/-- A sender that goes away last is gone. -/
lemma isClosed_of_hangUp (next : s.upTo v = s.upTo u ++ [.hangUp]) : s.isClosed v = true := by
  unfold isClosed
  rw [next]
  simp

/-- A setting that comes last is one more. -/
lemma sent_of_send {up : Bool} (next : s.upTo v = s.upTo u ++ [.send up]) :
    s.sent v = s.sent u + 1 := by
  unfold sent
  rw [next, List.filter_append, List.length_append]
  rfl

end Signals

/-- All that a wait of a reader that has seen so many settings can come to. -/
inductive Waits (s : Signals) (now deadline seen : Nat) : Waited → Prop where
  /-- A setting was missed, and the flag is up. -/
  | noticed : seen < s.sent now → s.flag now = true → Waits s now deadline seen (.stop now)
  /-- A setting was missed, but the flag is down. -/
  | roused : seen < s.sent now → s.flag now = false →
      Waits s now deadline seen (.resume now (s.sent now))
  | abandoned : s.sent now ≤ seen → s.isClosed now = true → Waits s now deadline seen (.stop now)
  | rested :
    s.sent now ≤ seen →
    (∀ e ∈ s.events, now < e.1 → deadline ≤ e.1) →
    Waits s now deadline seen (.resume deadline seen)
  | halted {t e} :
    s.sent now ≤ seen →
    s.next? now = some (t, e) →
    t < deadline →
    e ≠ .send false →
    Waits s now deadline seen (.stop t)
  | stirred {t} :
    s.sent now ≤ seen →
    s.next? now = some (t, .send false) →
    t < deadline →
    Waits s now deadline seen (.resume t (seen + 1))

/-- A wait comes to one of the things that it can come to. -/
lemma waits_wait {s : Signals} (ordered : s.Ordered) (now deadline seen : Nat) :
    Waits s now deadline seen (s.wait now deadline seen) := by
  unfold Signals.wait
  split
  · rename_i missed
    cases up : s.flag now with
    | true => exact .noticed missed up
    | false => exact .roused missed up
  · rename_i seen_all
    have seen_all := Nat.le_of_not_lt seen_all
    split
    · rename_i closed
      exact .abandoned seen_all closed
    · cases next : s.next? now with
      | none =>
        refine .rested seen_all fun e mem late => ?_
        exact absurd (Signals.next?_eq_none_iff.1 next e mem) (Nat.not_le_of_lt late)
      | some event =>
        obtain ⟨t, e⟩ := event
        dsimp only
        split
        · rename_i early
          cases e with
          | hangUp => exact .halted seen_all next early nofun
          | send up =>
            cases up with
            | true => exact .halted seen_all next early nofun
            | false => exact .stirred seen_all next early
        · rename_i late
          refine .rested seen_all fun e' mem after => ?_
          exact (Nat.le_of_not_lt late).trans ((ordered.upTo_next next).2.1 e' mem after)

section
variable {s : Signals} {start now deadline seen u later seen' : Nat}

/-- A reader stops when the flag is up or the sender gone. -/
lemma Waits.flag_or_isClosed (ordered : s.Ordered) (waits : Waits s now deadline seen (.stop u)) :
    s.flag u = true ∨ s.isClosed u = true := by
  cases waits with
  | noticed _ up => exact .inl up
  | abandoned _ closed => exact .inr closed
  | @halted _ e _ next _ not_down =>
    have next := (ordered.upTo_next next).2.2
    cases e with
    | hangUp => exact .inr (Signals.isClosed_of_hangUp next)
    | send up =>
      cases up with
      | true => exact .inl (Signals.flag_of_send next)
      | false => exact absurd rfl not_down

/-- A reader goes on within its wait, and before the deadline only as it sees a setting. -/
lemma Waits.resume (ordered : s.Ordered) (le : now ≤ deadline) (seen_le : seen ≤ s.sent now)
    (waits : Waits s now deadline seen (.resume later seen')) : now ≤ later ∧ later ≤ deadline ∧
      seen' ≤ s.sent later ∧ (later = deadline ∧ seen' = seen ∨ seen < seen') := by
  cases waits with
  | roused missed _ => exact ⟨le_rfl, le, le_rfl, .inr missed⟩
  | rested _ _ => exact ⟨le, le_rfl, seen_le.trans (ordered.sent_mono le), .inl ⟨rfl, rfl⟩⟩
  | stirred seen_all next early =>
    obtain ⟨ahead, -, next⟩ := ordered.upTo_next next
    refine ⟨ahead.le, early.le, ?_, .inr (Nat.lt_succ_self _)⟩
    rw [Signals.sent_of_send next]
    exact Nat.succ_le_succ seen_le

variable {T : Nat}

/-- While the flag is down it has not yet gone up for good. -/
lemma Signals.lt_of_down (stays : ∀ v, T ≤ v → s.flag v = true) (down : s.flag u = false) :
    u < T := by
  by_contra late
  rw [stays u (Nat.le_of_not_lt late)] at down
  cases down

/-- A reader whose flag goes up for good does not go on after that. -/
lemma Waits.resume_le (ordered : s.Ordered) (stays : ∀ v, T ≤ v → s.flag v = true)
    (le : start ≤ now) (down : s.flag start = false) (seen_le : seen ≤ s.sent start)
    (waits : Waits s now deadline seen (.resume later seen')) : later ≤ T := by
  have ahead := (Signals.lt_of_down stays down).le
  cases waits with
  | roused _ still_down => exact (Signals.lt_of_down stays still_down).le
  | rested seen_all quiet =>
    by_contra late
    have same := ordered.flag_eq_of_quiet le ahead (seen_all.trans seen_le)
      fun e mem after => (Nat.lt_of_not_le late).trans_le (quiet e mem after)
    rw [stays T le_rfl, down] at same
    cases same
  | stirred _ next _ =>
    exact (Signals.lt_of_down stays (Signals.flag_of_send (ordered.upTo_next next).2.2)).le

/-- A reader whose flag goes up for good stops then, or when its wait begins. -/
lemma Waits.stop_le (ordered : s.Ordered) (stays : ∀ v, T ≤ v → s.flag v = true) (le : start ≤ now)
    (down : s.flag start = false) (seen_le : seen ≤ s.sent start)
    (waits : Waits s now deadline seen (.stop u)) : u ≤ T ∨ u = now := by
  cases waits with
  | noticed _ _ => exact .inr rfl
  | abandoned _ _ => exact .inr rfl
  | halted seen_all next _ _ =>
    refine .inl (Nat.le_of_not_lt fun late => ?_)
    have same :=
      ordered.flag_eq_of_quiet le (Signals.lt_of_down stays down).le (seen_all.trans seen_le)
      fun e mem after => late.trans_le ((ordered.upTo_next next).2.1 e mem after)
    rw [stays T le_rfl, down] at same
    cases same

end

end Fleet.Supervisor
