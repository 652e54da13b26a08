import Fleet.Cluster.Link
import Fleet.Proofs.Double.Exact

/-!
# Requests on a link

A link keeps the bucket that its requests take their tokens from, so what a call takes depends on
the calls before it. Two facts tell when it does not matter and how far it reaches:

* the first request of a link finds a full bucket and is sent at once (`Link.send_new`), so a client
  of a link that was just made answers as the cluster does, with nothing added to the time that it
  takes;
* under a time limit every request is over when the limit has passed since its token was taken
  (`Link.delay_send`), whatever the cluster does.

The bucket counts in doubles. A whole number of at most 53 bits is a double of its own and is not
rounded (`Double.StandsFor`), and rates and burst sizes are such numbers; so no bound on the
rounding is needed for a bucket that nothing was taken from.
-/

namespace Fleet

namespace Limiter.Bucket

variable {qps burst : Nat}

/-- No time is zero seconds. -/
lemma standsFor_seconds_zero : ((Duration.mk 0).seconds Double).StandsFor 0 := by
  refine ⟨⟨0, Double.minExponent⟩, by decide +kernel, ?_⟩
  rw [Double.Magnitude.value, Nat.cast_zero, zero_mul]

/-- A bucket that was just made still holds all its tokens. -/
lemma standsFor_refill_new (qps_le : Nat.max qps 1 ≤ 2 ^ 53) (burst_le : Nat.max burst 1 ≤ 2 ^ 53)
    (made : Duration) :
    ((new qps burst made : Bucket Double).refill made).tokens.StandsFor
      (Nat.max burst 1 : Nat) := by
  have capacity := Double.standsFor_ofNat burst_le
  have gained := Double.standsFor_mul standsFor_seconds_zero (Double.standsFor_ofNat qps_le)
    (Nat.zero_le _) (by rw [zero_mul, Nat.cast_zero])
  have sum := Double.standsFor_add capacity gained burst_le (by rw [Nat.cast_zero, add_zero])
  unfold refill new lesser
  dsimp only
  rw [Nat.sub_self]
  split
  · exact capacity
  · exact sum

/-- A bucket that was just made has a token to give. -/
lemma take_new (qps_le : Nat.max qps 1 ≤ 2 ^ 53) (burst_le : Nat.max burst 1 ≤ 2 ^ 53)
    (made : Duration) : ((new qps burst made : Bucket Double).take made).1 = none := by
  have full := standsFor_refill_new qps_le burst_le made
  have one : (Double.ofNat 1).StandsFor (1 : Nat) := Double.standsFor_ofNat (by norm_num)
  have enough : ¬ ((new qps burst made : Bucket Double).refill made).tokens < Double.ofNat 1 := by
    rw [full.lt_iff one, not_lt, Nat.cast_le]
    exact Nat.le_max_right burst 1
  unfold take
  exact congrArg Prod.fst (if_neg enough)

/-- Nobody waits for the first token of a bucket. -/
lemma acquire_new (qps_le : Nat.max qps 1 ≤ 2 ^ 53) (burst_le : Nat.max burst 1 ≤ 2 ^ 53)
    (fuel : Nat) : ((new qps burst ⟨0⟩ : Bucket Double).acquire (fuel + 1) 0).1 = 0 := by
  obtain ⟨left, taken⟩ : ∃ left, (new qps burst ⟨0⟩ : Bucket Double).take ⟨0⟩ = (none, left) :=
    ⟨_, Prod.ext (take_new qps_le burst_le ⟨0⟩) rfl⟩
  have first : (new qps burst ⟨0⟩ : Bucket Double).acquireBy wakeUp (fuel + 1) ⟨0⟩ =
      (⟨0⟩, left) := by
    unfold acquireBy
    rw [taken]
  show ((new qps burst ⟨0⟩ : Bucket Double).acquireBy wakeUp (fuel + 1) ⟨0⟩).1.millis = 0
  rw [first]
  exact Nat.zero_div 1000000

end Limiter.Bucket

namespace Cluster.Api

variable {α : Type} {settings : Throttle} {c : Connection} {transport : Transport} {now t : Nat}
  {decode? : ByteArray → Option α} {u : Url} {l : Link}

/-- The first request of a link is sent at once. -/
lemma Link.send_new (qps_le : Nat.max settings.qps 1 ≤ 2 ^ 53)
    (burst_le : Nat.max settings.burst 1 ≤ 2 ^ 53) :
    ((Link.new settings c).send transport 0 decode? (.ok u)).1 =
      fetch transport settings.requestTimeout c decode? u := by
  have sent := Limiter.Bucket.acquire_new qps_le burst_le 1001
  unfold send new
  change ({ fetch transport settings.requestTimeout c decode? u with
    delay := (fetch transport settings.requestTimeout c decode? u).delay.map
      ((Limiter.Bucket.acquire _ (1001 + 1) 0).1 - 0 + ·) } : Call α) = _
  rw [sent]
  simp

/-- A reply is there, or given up, when the time limit has passed. -/
lemma exists_delay_fetch : ∃ d, (fetch transport (some t) c decode? u).delay = some d ∧ d ≤ t := by
  unfold fetch exchange awaitReply
  dsimp only
  split
  · exact ⟨0, rfl, Nat.zero_le t⟩
  · split
    · exact ⟨0, rfl, Nat.zero_le t⟩
    · split
      · exact ⟨0, rfl, Nat.zero_le t⟩
      · unfold Dispatch.holdTime
        split
        · contradiction
        · rename_i same _
          cases same
          exact ⟨t, rfl, Nat.le_refl t⟩
        · rename_i d same _
          cases same
          exact ⟨min t d, rfl, Nat.min_le_left t d⟩

/-- Under a time limit every request is over when the limit has passed since its token was taken. -/
lemma Link.delay_send (limit : l.timeout = some t) :
    ∃ d, (l.send transport now decode? (.ok u)).1.delay =
      some ((l.bucket.acquire attempts now).1 - now + d) ∧ d ≤ t := by
  obtain ⟨d, delay, le⟩ : ∃ d, (fetch transport (some t) l.connection decode? u).delay = some d ∧
      d ≤ t :=
    exists_delay_fetch
  refine ⟨d, ?_, le⟩
  unfold send
  dsimp only
  rw [limit, delay]
  rfl

end Cluster.Api

end Fleet
