import Fleet.Cli.Answer
import Mathlib.Init

/-!
# What an answer comes to

An answer is followed part by part: where a part ends well, the rest goes on from there
(`outcome_bind_ok`). Most parts only say something (`Speaks`). What an answer says is what its parts
say (`Says.bind`).

There is one lemma for each of the parts that answers are made of, of each of the three kinds:
* `outcome_*`: what a part comes to, and the progress that it makes;
* `speaks_*`: it leaves the session and ends well;
* `says_*`: all that it says has some property.

Proofs about commands chain these and never open the monads that an answer is made of. A halt, be it
a failure or a wait that never ends, says nothing of its own (`says_throw`, `says_await`), and what
was said before it stays said.
-/

namespace Fleet.Cli.Answer

variable {α β : Type} {a : Answer α} {f : α → Answer β} {s : Session} {p q : Progress} {x : α}
  {h : Halt}

/-- Result of an answer from where a command stands, and where it stands then. -/
def outcome (a : Answer α) (p : Progress) : Except Halt α × Progress := (a.run).run p

/-- A part that ends well hands over to the next one, which goes on from the progress made. -/
lemma outcome_bind_ok (ends : a.outcome p = (.ok x, q)) :
    (a >>= f).outcome p = (f x).outcome q := by
  unfold outcome at ends ⊢
  rw [ExceptT.run_bind, StateT.run_bind, ends]
  rfl

/-- A part that is halted halts the whole. -/
lemma outcome_bind_error (fails : a.outcome p = (.error h, q)) :
    (a >>= f).outcome p = (.error h, q) := by
  unfold outcome at fails ⊢
  rw [ExceptT.run_bind, StateT.run_bind, fails]
  rfl

/-- Asking for the session changes nothing. -/
lemma outcome_session (p : Progress) : session.outcome p = (.ok p.session, p) := rfl

/-- A session that is set takes the place of the one before, and what was said stays said. -/
lemma outcome_setSession (s : Session) (p : Progress) :
    (setSession s).outcome p = (.ok (), { p with session := s }) := rfl

/-- A value is handed on. -/
lemma outcome_ofExcept_ok {r : Except Failure α} (ok : r = .ok x) :
    (ofExcept r).outcome p = (.ok x, p) := by
  subst ok
  rfl

/-- A failure fails the answer and changes nothing. -/
lemma outcome_ofExcept_error {r : Except Failure α} {e : Failure} (fails : r = .error e) :
    (ofExcept r).outcome p = (.error (.failed e), p) := by
  subst fails
  rfl

/-- An answer that does nothing but say something. -/
def Speaks (a : Answer Unit) (s : Session) : Prop :=
  ∀ said, ∃ said', a.outcome ⟨s, said⟩ = (.ok (), ⟨s, said'⟩)

/-- Saying one thing only speaks. -/
lemma speaks_say (m : Console.Message) : (say m).Speaks s := fun said => ⟨said ++ [m], rfl⟩

/-- Saying several things only speaks. -/
lemma speaks_sayAll (ms : List Console.Message) : (sayAll ms).Speaks s :=
  fun said => ⟨said ++ ms, rfl⟩

/-- Speaking twice only speaks. -/
lemma Speaks.bind {a b : Answer Unit} (first : Speaks a s) (later : Speaks b s) :
    Speaks (a >>= fun _ => b) s := by
  intro said
  obtain ⟨said', ends⟩ := first said
  rw [outcome_bind_ok ends]
  exact later said'

/-! ### What is said -/

/-- An answer takes nothing back, and all that it adds to what was said has the property. -/
def Says (P : Console.Message → Prop) (a : Answer α) : Prop :=
  ∀ p, ∃ ms, (a.outcome p).2.messages = p.messages ++ ms ∧ ∀ m ∈ ms, P m

variable {P : Console.Message → Prop} {m : Console.Message} {ms : List Console.Message}

/-- An answer that leaves the messages alone. -/
lemma says_of_messages (kept : ∀ p, (a.outcome p).2.messages = p.messages) : Says P a :=
  fun p => ⟨[], by rw [kept, List.append_nil], nofun⟩

/-- A value says nothing. -/
lemma says_pure (x : α) : Says P (pure x) := says_of_messages fun _ => rfl

/-- A halt says nothing. -/
lemma says_throw (h : Halt) : Says P (throw h : Answer α) := says_of_messages fun _ => rfl

/-- Asking for the session says nothing. -/
lemma says_session : Says P session := says_of_messages fun _ => rfl

/-- Setting the session says nothing. -/
lemma says_setSession (s : Session) : Says P (setSession s) := says_of_messages fun _ => rfl

/-- A result that is handed on says nothing, nor does a failure. -/
lemma says_ofExcept (r : Except Failure α) : Says P (ofExcept r) := by
  cases r with
  | error e => exact says_throw (.failed e)
  | ok x => exact says_pure x

/-- Waiting says nothing. -/
lemma says_await (elapsed : Option Nat) : Says P (await elapsed) := by
  cases elapsed with
  | none => exact says_throw .endless
  | some t => exact says_pure ()

/-- What is said one after another is said. -/
lemma says_sayAll (all : ∀ m ∈ ms, P m) : Says P (sayAll ms) := fun _ => ⟨ms, rfl, all⟩

/-- One message is said. -/
lemma says_say (one : P m) : Says P (say m) := fun _ => ⟨[m], rfl, List.forall_mem_singleton.2 one⟩

/-- What an answer says is what its parts say. -/
lemma Says.bind (first : Says P a) (later : ∀ x, Says P (f x)) : Says P (a >>= f) := by
  intro p
  obtain ⟨ms, said, all⟩ := first p
  obtain ⟨result, q, ends⟩ : ∃ result q, a.outcome p = (result, q) := ⟨_, _, rfl⟩
  rw [ends] at said
  cases result with
  | error h =>
    rw [outcome_bind_error ends]
    exact ⟨ms, said, all⟩
  | ok x =>
    rw [outcome_bind_ok ends]
    obtain ⟨ms', said', all'⟩ := later x q
    refine ⟨ms ++ ms', ?_, List.forall_mem_append.2 ⟨all, all'⟩⟩
    rw [said', said, List.append_assoc]

/-- Setting the kept clients says nothing. -/
lemma says_setRegistry (r : Cluster.Registry) : Says P (setRegistry r) :=
  says_session.bind fun _ => says_setSession _

end Fleet.Cli.Answer
