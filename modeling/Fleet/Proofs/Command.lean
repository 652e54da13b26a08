import Fleet.Command
import Mathlib.Data.List.Basic

/-!
# Command lines and their results

Where the context flag goes in a command line (`injected_injectContext`), and what the result of a
process reports (`folds_fold`).

Both are stated as relations that can be read without the functions. `Injected` has the flag right
before the first separator of arguments, or behind all arguments if there is none. `Folds` has one
rule for each way in which a process can end: with success, with a complaint, without a word but
with a code, by a signal, or not started at all. A failure names its context and is what is shown of
the result, whichever rule it comes from (`Folds.failure`).
-/

namespace Fleet.Command

/-- The context flag stands right before the first `--` of the arguments, or behind all of them. -/
inductive Injected (context : String) : List String → List String → Prop where
  | before {first rest : List String} :
    "--" ∉ first →
    Injected context (first ++ "--" :: rest) (first ++ "--context" :: context :: "--" :: rest)
  | last {args : List String} :
    "--" ∉ args →
    Injected context args (args ++ ["--context", context])

/-- An argument that is no separator may stand before any others. -/
lemma Injected.cons {context a : String} {args line : List String}
    (injected : Injected context args line) (plain : "--" ≠ a) :
    Injected context (a :: args) (a :: line) := by
  have cons {first : List String} (free : "--" ∉ first) : "--" ∉ a :: first :=
    List.not_mem_cons_of_ne_of_not_mem plain free
  cases injected with
  | before free => exact .before (cons free)
  | last free => exact .last (cons free)

/-- A command line has the context flag where it belongs, and is otherwise the given arguments. -/
lemma injected_injectContext (context : String) (args : List String) :
    Injected context args (injectContext context args) := by
  induction args with
  | nil => exact .last List.not_mem_nil
  | cons a args ih =>
    unfold injectContext
    split
    · rename_i separator
      subst separator
      have empty : "--" ∉ ([] : List String) := List.not_mem_nil
      exact .before empty
    · rename_i plain
      exact ih.cons fun same => plain same.symm

/-- What a result reports of a process that was started for a context: its output if it succeeded,
else what it complained of, or how it ended if it said nothing, or why it did not start. -/
inductive Folds (context : String) : Except String ProcessResult → CommandResult → Prop where
  | printed {r : ProcessResult} :
    r.success = true →
    Folds context (.ok r) ⟨context, r.stdout, none⟩
  | complained {r : ProcessResult} :
    r.success = false →
    Text.trim r.stderr ≠ "" →
    Folds context (.ok r) ⟨context, Text.trim r.stderr,
      some (.process context (Text.trim r.stderr))⟩
  | exited {r : ProcessResult} {code : Int} :
    r.success = false →
    Text.trim r.stderr = "" →
    r.code = some code →
    Folds context (.ok r) ⟨context, "exit status " ++ toString code,
      some (.process context ("exit status " ++ toString code))⟩
  | killed {r : ProcessResult} :
    r.success = false →
    Text.trim r.stderr = "" →
    r.code = none →
    Folds context (.ok r) ⟨context, "terminated by signal",
      some (.process context "terminated by signal")⟩
  | unstarted {reason : String} :
    Folds context (.error reason) ⟨context, reason, some (.process context reason)⟩

/-- The result of a process reports it. -/
lemma folds_fold (context : String) (result : Except String ProcessResult) :
    Folds context result (CommandResult.ofSlot ⟨context, fold context result⟩) := by
  unfold fold
  cases result with
  | error reason => exact .unstarted
  | ok r =>
    dsimp only
    cases success : r.success with
    | true => exact .printed success
    | false =>
      rw [if_neg Bool.false_ne_true]
      unfold failureText
      dsimp only
      split
      · rename_i blank
        cases code : r.code with
        | some code => exact .exited success blank ‹_›
        | none => exact .killed success blank code
      · rename_i said
        exact .complained success said

/-- A failure that is reported names the context, and its wording is the output. -/
lemma Folds.failure {context : String} {result : Except String ProcessResult} {r : CommandResult}
    (folds : Folds context result r) {e : Failure} (failed : r.failure = some e) :
    e.context? = some context ∧ r.output = e.message := by
  cases folds with
  | printed => cases failed
  | complained => cases failed; exact ⟨rfl, rfl⟩
  | exited => cases failed; exact ⟨rfl, rfl⟩
  | killed => cases failed; exact ⟨rfl, rfl⟩
  | unstarted => cases failed; exact ⟨rfl, rfl⟩

end Fleet.Command
