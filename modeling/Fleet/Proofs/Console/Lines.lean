import Fleet.Console.Message
import Fleet.Proofs.Json.Printer
import Fleet.Proofs.Text.Split
import Mathlib.Data.List.Induction

/-!
# One value a line

In JSON mode standard output is made of the values of the messages, each on a line of its own
(`output_printAll`). Lines of objects can be read one by one: a line holds one value and nothing
else (`jsonLines_of_objects`).

`JsonLines vs t` says that `t` is such a text for the values `vs`: it is the lines of their compact
texts, no line holds a control, and no line can be taken for a text with another value in front.
That values are objects matters for the last part only: an object ends at its own brace, while the
digits of a number are a number as far as one cares to read.
-/

namespace Fleet.Console

/-- A text of ended lines, each of them the compact text of one value, with no other value in front
and without controls. -/
structure JsonLines (vs : List Json) (output : String) : Prop where
  text : output = String.join (vs.map fun v => v.compact ++ "\n")
  lines : Text.lines output = vs.map Json.compact
  whole : ∀ v ∈ vs, Json.Written v v.compact.toList
  alone : ∀ v ∈ vs, ∀ w front back, v.compact.toList = front ++ back → Json.Written w front →
    back = []
  printable : ∀ v ∈ vs, Json.Printable v.compact.toList

variable {mode : Mode} {m : Message} {ms : List Message} {vs : List Json}

/-- The compact text of a value is a text of it by the grammar of JSON. -/
lemma written_compact (v : Json) : Json.Written v v.compact.toList := by
  rw [Json.compact, String.toList_ofList]
  exact Json.written_chars v

/-- Objects on ended lines. -/
lemma jsonLines_of_objects (objects : ∀ v ∈ vs, ∃ fields, v = .obj fields) :
    JsonLines vs (String.join (vs.map fun v => v.compact ++ "\n")) := by
  have absent (c : Char) (control : c.toNat < 0x20) :
      ∀ line ∈ vs.map Json.compact, c ∉ line.toList := by
    intro line mem inside
    obtain ⟨v, -, rfl⟩ := List.mem_map.1 mem
    exact Nat.not_le.2 control ((written_compact v).printable c inside)
  constructor
  case text => rfl
  case lines =>
    have ended := Text.lines_join (absent '\n' (by decide)) (absent '\r' (by decide))
    rwa [List.map_map] at ended
  case whole => exact fun v _ => written_compact v
  case alone =>
    intro v mem w front back split written
    obtain ⟨fields, rfl⟩ := objects v mem
    have whole := written_compact (.obj fields)
    rw [split] at whole
    exact whole.eq_nil_of_append written
  case printable => exact fun v _ => (written_compact v).printable

namespace Message

/-- Value of a message on standard output. -/
def told? : Message → Option Json
  | error _ => none
  | m => m.json?

/-- The value of a message is an object. -/
def IsObject (m : Message) : Prop := ∃ fields, m.json? = some (.obj fields)

/-- A message printed in JSON mode is one line with the value that it tells, if it tells one. -/
lemma output_print (json : mode.isJson) (m : Message) :
    (m.print mode).output = String.join (m.told?.toList.map fun v => v.compact ++ "\n") := by
  cases m <;> simp [print, told?, printed, json, json?, payload?]

/-- Standard output holds the values of the messages, line by line. -/
lemma output_printAll (json : mode.isJson) (ms : List Message) :
    (printAll mode ms).output =
      String.join ((ms.filterMap told?).map fun v => v.compact ++ "\n") := by
  induction ms using List.reverseRecOn with
  | nil => rfl
  | append_singleton ms m ih =>
    have last : printAll mode (ms ++ [m]) = printAll mode ms ++ m.print mode := List.foldl_concat ..
    have one : [m].filterMap told? = m.told?.toList := by cases told : m.told? <;> simp [told]
    rw [List.filterMap_append, List.map_append, String.join_append, ← ih, one,
      ← output_print json m, last]
    rfl

/-- A message that is an object tells an object. -/
lemma IsObject.of_told? {v : Json} (object : m.IsObject) (told : m.told? = some v) :
    ∃ fields, v = .obj fields := by
  obtain ⟨fields, form⟩ := object
  have same : m.json? = some v := by
    cases m with
    | error text => cases told
    | _ => exact told
  exact ⟨fields, Option.some.inj (same.symm.trans form)⟩

/-- Messages whose values are objects are printed as lines of them. -/
lemma jsonLines_printAll (json : mode.isJson) (objects : ∀ m ∈ ms, m.IsObject) :
    JsonLines (ms.filterMap told?) (printAll mode ms).output := by
  rw [output_printAll json]
  refine jsonLines_of_objects fun v mem => ?_
  obtain ⟨m, said, told⟩ := List.mem_filterMap.1 mem
  exact (objects m said).of_told? told

end Message

end Fleet.Console
