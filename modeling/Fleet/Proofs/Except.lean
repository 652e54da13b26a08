import Mathlib.Init

/-!
# Chains that may fail

A chain that succeeds did so at every link (`bind_eq_ok`). Proofs about functions that may fail take
a success apart with it, link by link, and never open the monad. What a computation comes to is
decided without its failure where a value is all that matters (`eq_ok_of_toOption`,
`exists_error_of_toOption`).
-/

namespace Fleet

/-- Two steps succeed exactly if the first one does and then the second one. -/
lemma bind_eq_ok {ε α β : Type} {x : Except ε α} {f : α → Except ε β} {b : β} :
    (x >>= f) = .ok b ↔ ∃ a, x = .ok a ∧ f a = .ok b := by
  constructor
  · intro eq
    cases x with
    | error e => cases eq
    | ok a => exact ⟨a, rfl, eq⟩
  · rintro ⟨a, rfl, eq⟩
    exact eq

/-- A value that is there came of a success. -/
lemma eq_ok_of_toOption {ε α : Type} {x : Except ε α} {a : α} (some : x.toOption = some a) :
    x = .ok a := by
  cases x with
  | error e => cases some
  | ok a => exact congrArg Except.ok (Option.some.inj some)

/-- Where no value is there, something failed. -/
lemma exists_error_of_toOption {ε α : Type} {x : Except ε α} (none : x.toOption = none) :
    ∃ e, x = .error e := by
  cases x with
  | error e => exact ⟨e, rfl⟩
  | ok a => cases none

end Fleet
