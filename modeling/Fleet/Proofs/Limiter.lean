import Fleet.Limiter
import Mathlib.Data.Rat.Cast.Order
import Mathlib.Data.Rat.Floor
import Mathlib.Tactic.FieldSimp
import Mathlib.Tactic.Linarith
import Mathlib.Tactic.NormNum
import Mathlib.Tactic.Ring

/-!
# Conformance of the token bucket

Over the rationals a bucket never runs into debt and never holds more than the burst size, no window
of time sees more takes than a burst and what the bucket gains over the window, and a refusal names
the exact wait (`attempts_conform`). The takes are counted against the tokens, which no attempt
raises by more than the time since the last one gains (`takes_le`). The wait is that for the instant
at which a token is due, which a refusal does not move (`Bucket.Sound.due_take`).

`Bucket.Sound` is the invariant: tokens lie between none and the capacity, which is one or more, and
the rate is positive. Of a sound bucket two things are read off: `level`, the tokens it has gained
by an instant, and `due`, the instant at which it has one. Attempts at instants in order leave it
sound (`Sound.take` for one, `Bucket.Sound.attempts` for all of them by induction on the calls).
What the window bound needs is that tokens left and takes made are paid for by tokens had and time
passed, attempt by attempt (`takes_add_tokens_le`).
-/

namespace Fleet

namespace Duration

variable {s t : Duration}

/-- Seconds are nanoseconds divided. -/
lemma seconds_eq (d : Duration) : d.seconds ℚ = d.nanos / perSecond := by
  have whole : ((d.secs * perSecond + d.subsecNanos : ℕ) : ℚ) = d.nanos :=
    congrArg _ (Nat.div_add_mod' _ _)
  have pos : (perSecond : ℚ) ≠ 0 := by norm_num [perSecond]
  unfold seconds
  rw [← whole]
  push_cast
  field_simp

/-- Durations are ordered as their seconds. -/
lemma seconds_le_seconds (le : s.nanos ≤ t.nanos) : s.seconds ℚ ≤ t.seconds ℚ := by
  rw [seconds_eq, seconds_eq]
  gcongr

/-- Seconds are ordered as their durations. -/
lemma nanos_le_nanos (le : s.seconds ℚ ≤ t.seconds ℚ) : s.nanos ≤ t.nanos := by
  have pos : (0 : ℚ) < perSecond := by norm_num [perSecond]
  rw [seconds_eq, seconds_eq, div_le_div_iff_of_pos_right pos] at le
  exact_mod_cast le

/-- Seconds between two instants are their difference. -/
lemma seconds_sub (le : s.nanos ≤ t.nanos) :
    (Duration.mk (t.nanos - s.nanos)).seconds ℚ = t.seconds ℚ - s.seconds ℚ := by
  rw [seconds_eq, seconds_eq, seconds_eq, Nat.cast_sub le, sub_div]

end Duration

namespace Limiter

/-- The lesser of two numbers is their minimum. -/
lemma lesser_eq_min (a b : ℚ) : lesser a b = min a b := by
  unfold lesser
  split
  case isTrue lt => exact (min_eq_right lt.le).symm
  case isFalse le => exact (min_eq_left (not_lt.1 le)).symm

namespace Bucket

variable {b : Bucket ℚ} {now : Duration}

/-! ### One attempt -/

/-- A bucket that gains tokens, has room for one and holds no more than there is room for. -/
structure Sound (b : Bucket ℚ) : Prop where
  rate : 0 < b.rate
  capacity : 1 ≤ b.capacity
  nonneg : 0 ≤ b.tokens
  le : b.tokens ≤ b.capacity

/-- Tokens at a later instant if none is taken before. -/
def level (b : Bucket ℚ) (now : Duration) : ℚ :=
  min (b.tokens + (now.seconds ℚ - b.last.seconds ℚ) * b.rate) b.capacity

/-- The instant, in seconds, from which on there is a token if none is taken before. -/
def due (b : Bucket ℚ) : ℚ := b.last.seconds ℚ + (1 - b.tokens) / b.rate

/-- After a refill a bucket holds its level at that instant. -/
lemma refill_eq (le : b.last.nanos ≤ now.nanos) :
    b.refill now = { b with tokens := b.level now, last := now } := by
  unfold refill level
  dsimp only
  rw [Duration.seconds_sub le, lesser_eq_min]

/-- A token is missing exactly before it is due. -/
lemma Sound.level_lt_one_iff (sound : b.Sound) : b.level now < 1 ↔ now.seconds ℚ < b.due := by
  have gained : b.tokens + (now.seconds ℚ - b.last.seconds ℚ) * b.rate < 1 ↔
      now.seconds ℚ < b.due := by
    unfold due
    rw [← lt_sub_iff_add_lt', ← lt_div_iff₀ sound.rate, sub_lt_iff_lt_add']
  unfold level
  rw [min_lt_iff, gained, or_iff_left sound.capacity.not_gt]

/-- Before a token is due the bucket has not reached its capacity, so that it holds all that it has
gained. -/
lemma Sound.level_of_lt_due (sound : b.Sound) (early : now.seconds ℚ < b.due) :
    b.level now = b.tokens + (now.seconds ℚ - b.last.seconds ℚ) * b.rate := by
  have lt : b.level now < 1 := sound.level_lt_one_iff.2 early
  refine min_eq_left ((min_lt_iff.1 lt).elim (fun lt => ?_) fun lt => ?_)
  · exact (lt.trans_le sound.capacity).le
  · exact absurd sound.capacity lt.not_ge

/-- Everything an attempt can do: it takes a token that is due, or is told the time until one is. -/
lemma Sound.take_cases (sound : b.Sound) (le : b.last.nanos ≤ now.nanos) :
    b.due ≤ now.seconds ℚ ∧ b.take now = (none, { b with tokens := b.level now - 1, last := now }) ∨
    now.seconds ℚ < b.due ∧
      b.take now =
        (some (b.due - now.seconds ℚ), { b with tokens := b.level now, last := now }) := by
  unfold take
  rw [refill_eq le]
  simp only [Nat.cast_one]
  split
  case isTrue lt =>
    have early := sound.level_lt_one_iff.1 lt
    have rate := sound.rate.ne'
    have wait : (1 - b.level now) / b.rate = b.due - now.seconds ℚ := by
      rw [sound.level_of_lt_due early]
      unfold due
      field_simp
      ring
    exact .inr ⟨early, by rw [wait]⟩
  case isFalse full => exact .inl ⟨not_lt.1 (mt sound.level_lt_one_iff.2 full), rfl⟩

/-- An attempt changes the tokens and the instant of the last one only. -/
lemma take_snd (b : Bucket ℚ) (now : Duration) :
    (b.take now).2 = { b with tokens := (b.take now).2.tokens, last := now } := by
  unfold take
  dsimp only
  split <;> rfl

/-- An attempt is the last refill of what it leaves. -/
@[simp] lemma last_take (b : Bucket ℚ) (now : Duration) : (b.take now).2.last = now := by
  rw [take_snd]

/-- An attempt leaves the rate. -/
@[simp] lemma rate_take (b : Bucket ℚ) (now : Duration) : (b.take now).2.rate = b.rate := by
  rw [take_snd]

/-- An attempt leaves the capacity. -/
@[simp] lemma capacity_take (b : Bucket ℚ) (now : Duration) :
    (b.take now).2.capacity = b.capacity := by rw [take_snd]

/-- What an attempt takes and what it leaves are the tokens at that instant. -/
lemma Sound.level_eq (sound : b.Sound) (le : b.last.nanos ≤ now.nanos) :
    b.level now = (if (b.take now).1 = none then 1 else 0) + (b.take now).2.tokens := by
  obtain ⟨-, eq⟩ | ⟨-, eq⟩ := sound.take_cases le
  · rw [eq, if_pos rfl, add_sub_cancel]
  · rw [eq, if_neg (Option.some_ne_none _), zero_add]

/-- An attempt leaves a sound bucket, whether it takes a token or not. -/
lemma Sound.take (sound : b.Sound) (le : b.last.nanos ≤ now.nanos) : (b.take now).2.Sound := by
  have elapsed := sub_nonneg.2 (Duration.seconds_le_seconds le)
  have most : b.level now ≤ b.capacity := min_le_right _ _
  obtain ⟨due, eq⟩ | ⟨early, eq⟩ := sound.take_cases le
  · have one_le : 1 ≤ b.level now := not_lt.1 (mt sound.level_lt_one_iff.1 due.not_gt)
    rw [eq]
    exact ⟨sound.rate, sound.capacity, sub_nonneg.2 one_le, by dsimp only; linarith⟩
  · have nonneg : 0 ≤ b.level now := by
      have gained := mul_nonneg elapsed sound.rate.le
      rw [sound.level_of_lt_due early]
      linarith [sound.nonneg]
    rw [eq]
    exact ⟨sound.rate, sound.capacity, nonneg, most⟩

/-- An attempt takes a token exactly if one is due. -/
lemma Sound.take_eq_none_iff (sound : b.Sound) (le : b.last.nanos ≤ now.nanos) :
    (b.take now).1 = none ↔ b.due ≤ now.seconds ℚ := by
  obtain ⟨due, eq⟩ | ⟨early, eq⟩ := sound.take_cases le <;> rw [eq]
  · exact iff_of_true rfl due
  · exact iff_of_false (Option.some_ne_none _) early.not_ge

/-- A refusal names the time until a token is due, and does not move that instant. -/
lemma Sound.due_take {wait : ℚ} (sound : b.Sound) (le : b.last.nanos ≤ now.nanos)
    (refused : (b.take now).1 = some wait) :
    now.seconds ℚ + wait = b.due ∧ (b.take now).2.due = b.due := by
  obtain ⟨-, eq⟩ | ⟨early, eq⟩ := sound.take_cases le <;> rw [eq] at refused ⊢
  · cases refused
  · cases refused
    have rate := sound.rate.ne'
    refine ⟨add_sub_cancel _ _, ?_⟩
    unfold due
    dsimp only
    rw [sound.level_of_lt_due early]
    field_simp
    ring

/-- A new bucket is sound. -/
lemma sound_new (qps burst : ℕ) (made : Duration) : (new qps burst made : Bucket ℚ).Sound where
  rate := Nat.cast_pos.2 (Nat.le_max_right qps 1)
  capacity := Nat.one_le_cast.2 (Nat.le_max_right burst 1)
  nonneg := Nat.cast_nonneg _
  le := le_refl _

end Bucket

/-! ### Attempts one after another -/

/-- An attempt: its instant, the wait that it was told if it was refused, and the bucket that it
left. -/
structure Attempt where
  instant : Duration
  wait : Option ℚ
  left : Bucket ℚ

/-- The attempts at some instants, one after another. -/
def Bucket.attempts (b : Bucket ℚ) : List Duration → List Attempt
  | [] => []
  | now :: later => ⟨now, (b.take now).1, (b.take now).2⟩ :: (b.take now).2.attempts later

/-- The bucket after attempts at some instants. -/
def Bucket.after (b : Bucket ℚ) (calls : List Duration) : Bucket ℚ :=
  calls.foldl (fun b now => (b.take now).2) b

/-- Number of tokens taken from `start` to `stop`, in seconds, both included. -/
def takes (log : List Attempt) (start stop : ℚ) : ℕ :=
  log.countP fun a => a.wait = none ∧ start ≤ a.instant.seconds ℚ ∧ a.instant.seconds ℚ ≤ stop

/-- Instants none of which lies before an earlier one of the list. -/
abbrev Ordered (calls : List Duration) : Prop := calls.Pairwise (·.nanos ≤ ·.nanos)

/-- A caller that nobody competes with: the number of its sleeps, the instant at which it takes a
token and the bucket it leaves. A sleep that begins at an instant, for so many seconds, ends at
`wake` of the two. -/
inductive Acquires (wake : Duration → ℚ → Duration) :
    Bucket ℚ → Duration → ℕ → Duration → Bucket ℚ → Prop where
  | taken {b left now} : b.take now = (none, left) → Acquires wake b now 0 now left
  | slept {b b' left now wait sleeps success} :
    b.take now = (some wait, b') →
    Acquires wake b' (wake now wait) sleeps success left →
    Acquires wake b now (sleeps + 1) success left

variable {b : Bucket ℚ} {now : Duration} {calls : List Duration} {log : List Attempt}
  {start stop : ℚ}

/-- Attempts in order stay so from the next one on. -/
lemma Ordered.take (ordered : Ordered (b.last :: now :: calls)) :
    b.last.nanos ≤ now.nanos ∧ Ordered ((b.take now).2.last :: calls) := by
  rw [Bucket.last_take]
  exact ⟨List.rel_of_pairwise_cons ordered (List.mem_cons_self ..), List.Pairwise.of_cons ordered⟩

/-- Every bucket of a log is sound, with the rate and the capacity it began with. -/
lemma Bucket.Sound.attempts (sound : b.Sound) (ordered : Ordered (b.last :: calls)) :
    ∀ a ∈ b.attempts calls, a.left.Sound ∧ a.left.capacity = b.capacity := by
  induction calls generalizing b with
  | nil => exact nofun
  | cons now later ih =>
    obtain ⟨le, ordered⟩ := ordered.take
    have left := sound.take le
    rintro a (_ | ⟨_, mem⟩)
    · exact ⟨left, Bucket.capacity_take b now⟩
    · have kept := ih left ordered a mem
      rwa [Bucket.capacity_take] at kept

/-- A sound bucket stays sound, and its last refill is one of the attempts. -/
lemma Bucket.Sound.after (sound : b.Sound) (ordered : Ordered (b.last :: calls)) :
    (b.after calls).Sound ∧ (b.after calls).last ∈ b.last :: calls := by
  induction calls generalizing b with
  | nil => exact ⟨sound, List.mem_cons_self ..⟩
  | cons now later ih =>
    obtain ⟨le, ordered⟩ := ordered.take
    obtain ⟨left, mem⟩ := ih (sound.take le) ordered
    rw [Bucket.last_take] at mem
    exact ⟨left, List.mem_cons_of_mem _ mem⟩

/-! ### Takes in a window -/

/-- What the first attempt adds to the takes is made up for by the tokens that it leaves. -/
lemma takes_add_tokens_le (sound : b.Sound) (le : b.last.nanos ≤ now.nanos) (later : List Duration)
    (start stop : ℚ) :
    takes (b.attempts (now :: later)) start stop + (b.take now).2.tokens ≤
      b.level now + takes ((b.take now).2.attempts later) start stop := by
  have first : takes (b.attempts (now :: later)) start stop ≤
      takes ((b.take now).2.attempts later) start stop + if (b.take now).1 = none then 1
        else 0 := by
    rw [Bucket.attempts]
    unfold takes
    rw [List.countP_cons]
    gcongr
    split
    case isTrue counted => rw [if_pos (of_decide_eq_true counted).1]
    case isFalse => exact Nat.zero_le _
  have first' : (takes (b.attempts (now :: later)) start stop : ℚ) ≤
      takes ((b.take now).2.attempts later) start stop + if (b.take now).1 = none then 1
        else 0 := by
    exact_mod_cast first
  linarith only [first', sound.level_eq le]

/-- Nothing is taken in a time that has passed. -/
lemma takes_eq_zero (late : ∀ s ∈ calls, stop < s.seconds ℚ) :
    takes (b.attempts calls) start stop = 0 := by
  induction calls generalizing b with
  | nil => rfl
  | cons now later ih =>
    obtain ⟨lt, late⟩ := List.forall_mem_cons.1 late
    refine (List.countP_cons_of_neg ?_).trans (ih late)
    simp [lt.not_ge]

/-- What a bucket will have gained is never negative. -/
lemma Bucket.Sound.reserve_nonneg (sound : b.Sound) (stop : ℚ) :
    0 ≤ b.tokens + b.rate * max 0 (stop - b.last.seconds ℚ) :=
  add_nonneg sound.nonneg (mul_nonneg sound.rate.le (le_max_left _ _))

/-- The takes up to an instant are covered by the tokens and by what is gained until then. -/
lemma takes_le (sound : b.Sound) (ordered : Ordered (b.last :: calls)) (start stop : ℚ) :
    takes (b.attempts calls) start stop ≤ b.tokens + b.rate * max 0 (stop - b.last.seconds ℚ) := by
  induction calls generalizing b with
  | nil => exact sound.reserve_nonneg stop
  | cons now later ih =>
    obtain ⟨le, ordered'⟩ := ordered.take
    have elapsed := Duration.seconds_le_seconds le
    obtain within | past := le_or_gt (now.seconds ℚ) stop
    · have rest := ih (sound.take le) ordered'
      have first := takes_add_tokens_le sound le later start stop
      have most : b.level now ≤ b.tokens + (now.seconds ℚ - b.last.seconds ℚ) * b.rate :=
        min_le_left _ _
      rw [Bucket.rate_take, Bucket.last_take, max_eq_right (sub_nonneg.2 within)] at rest
      rw [max_eq_right (sub_nonneg.2 (elapsed.trans within))]
      linarith
    -- Neither this attempt nor a later one is counted.
    · have late : ∀ s ∈ now :: later, stop < s.seconds ℚ := by
        refine List.forall_mem_cons.2 ⟨past, fun s mem => past.trans_le ?_⟩
        exact Duration.seconds_le_seconds (List.rel_of_pairwise_cons ordered.of_cons mem)
      rw [takes_eq_zero late, Nat.cast_zero]
      exact sound.reserve_nonneg stop

/-- No window sees more takes than the capacity and what is gained over the window. -/
lemma takes_window_le (sound : b.Sound) (ordered : Ordered (b.last :: calls)) (le : start ≤ stop) :
    takes (b.attempts calls) start stop ≤ b.capacity + b.rate * (stop - start) := by
  induction calls generalizing b with
  | nil =>
    exact add_nonneg (zero_le_one.trans sound.capacity)
      (mul_nonneg sound.rate.le (sub_nonneg.2 le))
  | cons now later ih =>
    obtain ⟨le', ordered'⟩ := ordered.take
    have left := sound.take le'
    obtain early | inside := lt_or_ge (now.seconds ℚ) start
    · have rest := ih left ordered'
      rw [Bucket.rate_take, Bucket.capacity_take] at rest
      have skipped : takes (b.attempts (now :: later)) start stop =
          takes ((b.take now).2.attempts later) start stop :=
        List.countP_cons_of_neg (by simp [early.not_ge])
      rwa [skipped]
    -- The first attempt of the window finds no more than the capacity.
    · have rest := takes_le left ordered' start stop
      have first := takes_add_tokens_le sound le' later start stop
      have most : b.level now ≤ b.capacity := min_le_right _ _
      have shorter : max 0 (stop - now.seconds ℚ) ≤ stop - start :=
        max_le (sub_nonneg.2 le) (by linarith)
      rw [Bucket.rate_take, Bucket.last_take] at rest
      have less := mul_le_mul_of_nonneg_left shorter sound.rate.le
      linarith

/-! ### Waits -/

/-- The first attempt of several, and the others on the bucket that it leaves. -/
lemma attempts_eq_cons {a : Attempt} (eq : b.attempts calls = a :: log) :
    ∃ now later, calls = now :: later ∧
    a = ⟨now, (b.take now).1, (b.take now).2⟩ ∧ (b.take now).2.attempts later = log := by
  cases calls with
  | nil => cases eq
  | cons now later =>
    cases eq
    exact ⟨now, later, rfl, rfl, rfl⟩

/-- As long as all are refused, the next attempt takes a token if and only if one is due. -/
lemma wait_eq_none_iff_due (sound : b.Sound) (ordered : Ordered (b.last :: calls))
    {between : List Attempt} {a : Attempt} (eq : b.attempts calls = between ++ a :: log)
    (refused : ∀ c ∈ between, c.wait ≠ none) : a.wait = none ↔ b.due ≤ a.instant.seconds ℚ := by
  induction between generalizing b calls with
  | nil =>
    obtain ⟨now, later, rfl, rfl, -⟩ := attempts_eq_cons eq
    exact sound.take_eq_none_iff ordered.take.1
  | cons c between ih =>
    obtain ⟨now, later, rfl, rfl, rest⟩ := attempts_eq_cons eq
    obtain ⟨le, ordered⟩ := ordered.take
    obtain ⟨first, refused⟩ := List.forall_mem_cons.1 refused
    obtain ⟨wait, refusal⟩ := Option.ne_none_iff_exists'.1 first
    rw [← (sound.due_take le refusal).2]
    exact ih (sound.take le) ordered rest refused

/-- A refusal names the time after which an attempt takes a token, unless another one does
before. -/
lemma wait_eq_none_iff (sound : b.Sound) (ordered : Ordered (b.last :: calls))
    {before between : List Attempt} {a c : Attempt} {wait : ℚ}
    (eq : b.attempts calls = before ++ a :: (between ++ c :: log)) (refusal : a.wait = some wait)
    (refused : ∀ d ∈ between, d.wait ≠ none) :
    c.wait = none ↔ a.instant.seconds ℚ + wait ≤ c.instant.seconds ℚ := by
  induction before generalizing b calls with
  | nil =>
    obtain ⟨now, later, rfl, rfl, rest⟩ := attempts_eq_cons eq
    obtain ⟨le, ordered⟩ := ordered.take
    obtain ⟨told, kept⟩ := sound.due_take le refusal
    rw [told, ← kept]
    exact wait_eq_none_iff_due (sound.take le) ordered rest refused
  | cons d before ih =>
    obtain ⟨now, later, rfl, rfl, rest⟩ := attempts_eq_cons eq
    obtain ⟨le, ordered⟩ := ordered.take
    exact ih (sound.take le) ordered rest

/-! ### A caller alone -/

variable {wake : Duration → ℚ → Duration}

/-- The loop ends as the caller does if there are more attempts than sleeps. -/
lemma Acquires.acquireBy_eq {left : Bucket ℚ} {success : Duration} {sleeps fuel : ℕ}
    (acquires : Acquires wake b now sleeps success left) (lt : sleeps < fuel) :
    b.acquireBy wake fuel now = (success, left) := by
  induction acquires generalizing fuel with
  | taken eq =>
    obtain ⟨fuel, rfl⟩ := Nat.exists_eq_add_of_lt lt
    rw [Nat.zero_add, Bucket.acquireBy, eq]
  | slept eq _ ih =>
    obtain ⟨fuel, rfl⟩ := Nat.exists_eq_add_of_lt lt
    rw [Bucket.acquireBy, eq]
    exact ih (by omega)

/-- A caller that nobody competes with wakes up when a token is due. -/
lemma Bucket.Sound.acquires (sound : b.Sound) (le : b.last.nanos ≤ now.nanos)
    (asleep : ∀ s wait, s.seconds ℚ + wait ≤ (wake s wait).seconds ℚ) :
    ∃ sleeps ≤ 1, ∃ success left, Acquires wake b now sleeps success left := by
  obtain ⟨-, taken⟩ | ⟨early, slept⟩ := sound.take_cases le
  · exact ⟨0, zero_le_one, now, _, .taken taken⟩
  · obtain ⟨-, kept⟩ := sound.due_take le (congrArg Prod.fst slept)
    have left := sound.take le
    rw [slept] at kept left
    have awake := asleep now (b.due - now.seconds ℚ)
    rw [add_sub_cancel] at awake
    have later := Duration.nanos_le_nanos (early.le.trans awake)
    have taken := (left.take_eq_none_iff later).2 (kept.le.trans awake)
    exact ⟨1, le_rfl, _, _, .slept slept (.taken (Prod.ext taken rfl))⟩

/-- For attempts one after another, whoever makes them: the tokens stay between none and the burst
size; a window sees at most a burst and what is gained over it; a refusal names the time after which
the next attempt takes a token if none was taken in between; and a caller that nobody competes with
sleeps at most once. -/
theorem attempts_conform (qps burst : ℕ) (made : Duration) (calls : List Duration)
    (ordered : Ordered (made :: calls)) :
    let b : Bucket ℚ := .new qps burst made
    let log := b.attempts calls
    (∀ left ∈ b :: log.map (·.left), 0 ≤ left.tokens ∧ left.tokens ≤ (max burst 1 : ℕ)) ∧
    (∀ start length : ℚ, 0 ≤ length →
      takes log start (start + length) ≤ (max burst 1 : ℕ) + (max qps 1 : ℕ) * length) ∧
    (∀ a between c wait, a :: between ++ [c] <:+: log → a.wait = some wait →
      (∀ d ∈ between, d.wait ≠ none) →
      (c.wait = none ↔ a.instant.seconds ℚ + wait ≤ c.instant.seconds ℚ)) ∧
    ∀ wake now, (∀ s wait, s.seconds ℚ + wait ≤ (wake s wait).seconds ℚ) →
      (∀ s ∈ made :: calls, s.nanos ≤ now.nanos) →
      ∃ sleeps ≤ 1, ∃ success left, Acquires wake (b.after calls) now sleeps success left ∧
        ∀ fuel > sleeps, (b.after calls).acquireBy wake fuel now = (success, left) := by
  intro b log
  have sound : b.Sound := Bucket.sound_new qps burst made
  refine ⟨?_, ?_, ?_, ?_⟩
  · refine List.forall_mem_cons.2 ⟨⟨sound.nonneg, sound.le⟩, ?_⟩
    rw [List.forall_mem_map]
    intro a mem
    obtain ⟨left, capacity⟩ := sound.attempts ordered a mem
    exact ⟨left.nonneg, left.le.trans_eq capacity⟩
  · intro start length nonneg
    have bound :=
      takes_window_le sound ordered (le_add_of_nonneg_right nonneg : start ≤ start + length)
    rwa [add_sub_cancel_left] at bound
  · rintro a between c wait ⟨before, later, eq⟩ refusal refused
    have split : log = before ++ a :: (between ++ c :: later) := by
      rw [← eq]
      simp
    exact wait_eq_none_iff sound ordered split refusal refused
  · intro wake now asleep last
    obtain ⟨left, mem⟩ := sound.after ordered
    obtain ⟨sleeps, once, success, b', acquires⟩ := left.acquires (last _ mem) asleep
    exact ⟨sleeps, once, success, b', acquires, fun fuel lt => acquires.acquireBy_eq lt⟩

/-- The end of a sleep on a clock of nanoseconds. -/
def nextNano (now : Duration) (wait : ℚ) : Duration := ⟨now.nanos + ⌈wait * Duration.perSecond⌉₊⟩

/-- A sleep that ends at a whole nanosecond is not too short. -/
lemma add_le_nextNano (now : Duration) (wait : ℚ) :
    now.seconds ℚ + wait ≤ (nextNano now wait).seconds ℚ := by
  have pos : (0 : ℚ) < Duration.perSecond := by norm_num [Duration.perSecond]
  have le := Nat.le_ceil (wait * Duration.perSecond)
  rw [Duration.seconds_eq, Duration.seconds_eq, nextNano, Nat.cast_add, add_div]
  gcongr
  rwa [le_div_iff₀ pos]

/-- Two tokens a second and room for one: of three attempts in half a second the second is told to
wait until the third, and the others take as many tokens as there may be. A caller that comes next
sleeps until a whole second. -/
theorem attempts_conform_tight :
    let calls : List Duration := [.ofMillis 0, .ofMillis 250, .ofMillis 500]
    let b : Bucket ℚ := .new 2 1 ⟨0⟩
    Ordered (⟨0⟩ :: calls) ∧
    (∀ left ∈ b :: (b.attempts calls).map (·.left), 0 ≤ left.tokens ∧ left.tokens ≤ (max 1 1 : ℕ)) ∧
    (takes (b.attempts calls) 0 (0 + 1 / 2) = 2 ∧
      (takes (b.attempts calls) 0 (0 + 1 / 2) : ℚ) ≤ (max 1 1 : ℕ) + (max 2 1 : ℕ) * (1 / 2)) ∧
    (∃ a c d, b.attempts calls = [a, c, d] ∧ c.wait = some (1 / 4) ∧ d.wait = none ∧
      c.instant.seconds ℚ + 1 / 4 = d.instant.seconds ℚ) ∧
    ∃ sleeps ≤ 1, ∃ left,
      Acquires nextNano (b.after calls) (.ofMillis 600) sleeps (.ofMillis 1000) left := by
  intro calls b
  have ordered : Ordered (⟨0⟩ :: calls) := by decide
  obtain ⟨within, window, refusal, alone⟩ := attempts_conform 2 1 ⟨0⟩ calls ordered
  refine ⟨ordered, within, ⟨by decide +kernel, window 0 (1 / 2) (by norm_num)⟩, ?_, ?_⟩
  · have due : Duration.seconds ℚ (.ofMillis 250) + 1 / 4 = Duration.seconds ℚ (.ofMillis 500) := by
      decide +kernel
    have told : ((b.take (.ofMillis 0)).2.take (.ofMillis 250)).1 = some (1 / 4) := by
      decide +kernel
    exact ⟨_, _, _, rfl, told, (refusal _ [] _ (1 / 4) ⟨[_], [], rfl⟩ told nofun).2 due.le, due⟩
  · obtain ⟨sleeps, once, success, left, acquires, eq⟩ :=
      alone nextNano (.ofMillis 600) add_le_nextNano (by decide)
    have second : ((b.after calls).acquireBy nextNano 2 (.ofMillis 600)).1 = .ofMillis 1000 := by
      decide +kernel
    rw [eq 2 (Nat.lt_succ_of_le once)] at second
    cases second
    exact ⟨sleeps, once, left, acquires⟩

end Limiter
end Fleet
