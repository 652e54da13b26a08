import Fleet.Command
import Fleet.Proofs.Text.Bytes
import Fleet.Proofs.Text.Rows

/-!
# Sections of a report

Where the section of a result stands in a report, whatever the other outputs are (`rows_report`). A
report is laid out section by section exactly if every name has as many bytes as characters and
every output but the last ends its last row (`report_sections_iff`).

A report is read row by row. A section begins with a line feed, which is an empty row where the text
before it ended its last row and otherwise only ends that row; so the first row of a section is
there or not by what stands before it (`rows_report_cons`). Counting rows shows that nothing else
can make up for a row that is missing (`length_rows_report_le`), so the layout as a whole fails as
soon as one section does (`rows_report_eq_iff`).

Underlines are compared by their length: it is that of the name in bytes, and bytes are as many as
characters in ASCII only.
-/

namespace Fleet.CommandResult

variable {r : CommandResult} {rs front back : List CommandResult}

/-- What is shown of a result below its name. -/
def body (r : CommandResult) : String :=
  if r.failure.isSome then "  (error) " ++ r.output ++ "\n" else r.output

/-- Name and underline. -/
def heading (r : CommandResult) : String :=
  r.context ++ "\n" ++ (Text.repeated "-" r.context.utf8ByteSize ++ "\n")

/-- Rows of a section: an empty one, the name, a dash for each of its characters, and those of the
body. -/
def sectionRows (r : CommandResult) : List String :=
  "" :: r.context :: Text.repeated "-" r.context.length :: Text.rows r.body

/-! ### Texts -/

/-- A section is an empty line, a heading and a body. -/
lemma sectionText_eq (r : CommandResult) : r.sectionText = "\n" ++ (r.heading ++ r.body) := by
  unfold sectionText heading body
  simp only [String.append_assoc]

/-- Sections follow one another. -/
lemma report_append (front back : List CommandResult) :
    report (front ++ back) = report front ++ report back := by
  unfold report
  rw [List.map_append, String.join_append]

/-- A report begins with the section of its first result. -/
lemma report_cons (r : CommandResult) (rs : List CommandResult) :
    report (r :: rs) = "\n" ++ (r.heading ++ (r.body ++ report rs)) := by
  unfold report
  rw [List.map_cons, String.join_cons, sectionText_eq]
  simp only [String.append_assoc]

/-- A report ends as the last body does. -/
lemma ended_report_iff : Text.Ended (report rs) ↔ ∀ r ∈ rs.getLast?, Text.Ended r.body := by
  obtain rfl | ⟨front, r, rfl⟩ := rs.eq_nil_or_concat'
  · exact ⟨fun _ => nofun, fun _ => nofun⟩
  · have last : report (front ++ [r]) =
        report front ++ "\n" ++ r.context ++ "\n" ++ Text.repeated "-" r.context.utf8ByteSize ++
          "\n" ++ r.body := by
      rw [report_append, report_cons]
      unfold heading
      simp only [String.append_assoc, show report [] = "" from rfl, String.append_empty]
    rw [last, Text.ended_feed_append_iff]
    simp

/-! ### Rows -/

/-- Dashes hold no line feed. -/
lemma not_mem_repeated (n : ℕ) : '\n' ∉ (Text.repeated "-" n).toList := by
  induction n with
  | zero => exact List.not_mem_nil
  | succ n ih =>
    rw [Text.repeated, String.toList_append]
    exact fun mem => (List.mem_append.1 mem).elim (by decide) ih

/-- There are as many dashes as asked for. -/
lemma length_repeated (n : ℕ) : (Text.repeated "-" n).length = n := by
  induction n with
  | zero => rfl
  | succ n ih =>
    rw [Text.repeated, String.length_append, ih, Nat.add_comm]
    rfl

/-- A heading has two rows, and the next one begins after it. -/
lemma rows_heading_append (named : '\n' ∉ r.context.toList) (t : String) :
    Text.rows (r.heading ++ t) =
      r.context :: Text.repeated "-" r.context.utf8ByteSize :: Text.rows t := by
  unfold heading
  rw [String.append_assoc, Text.rows_append (Text.ended_feed _), Text.rows_line named,
    Text.rows_append (Text.ended_feed _), Text.rows_line (not_mem_repeated _)]
  rfl

/-- A section in a report: its name follows an empty row if there is nothing before it or what is
before it ended its last row, and the last row before it otherwise. -/
lemma rows_report (named : '\n' ∉ r.context.toList) (front back : List CommandResult) :
    Text.rows (report (front ++ r :: back)) =
      Text.rows (report front) ++ (if ∀ p ∈ front.getLast?, Text.Ended p.body then [""] else []) ++
        r.context :: Text.repeated "-" r.context.utf8ByteSize :: Text.rows
          (r.body ++ report back) := by
  rw [report_append, report_cons, ← String.append_assoc, Text.rows_append (Text.ended_feed _),
    Text.rows_feed, rows_heading_append named]
  simp only [ended_report_iff]

/-- A body that does not end its last row takes the empty row of the next section for that. -/
lemma rows_body_append (body : String) (rs : List CommandResult) : Text.rows (body ++ report rs) =
    Text.rows body ++ if Text.Ended body then Text.rows (report rs)
      else (Text.rows (report rs)).tail := by
  split
  · rename_i ended
    rw [Text.rows_append ended]
  · rename_i open_
    cases rs with
    | nil =>
      rw [show report [] = "" from rfl, String.append_empty]
      exact (List.append_nil _).symm
    | cons r rs =>
      have feed : Text.Ended "\n" := Text.ended_feed ""
      rw [report_cons, ← String.append_assoc, Text.rows_append (Text.ended_feed _), Text.rows_feed,
        if_neg open_, List.append_nil, Text.rows_append feed]
      rfl

/-- The first section of a report, row by row. A body that does not end its last row swallows the
empty row of the next section. -/
lemma rows_report_cons (named : '\n' ∉ r.context.toList) (rs : List CommandResult) :
    Text.rows (report (r :: rs)) =
    "" :: r.context :: Text.repeated "-" r.context.utf8ByteSize :: (Text.rows r.body ++
      if Text.Ended r.body then Text.rows (report rs) else (Text.rows (report rs)).tail) := by
  rw [← rows_body_append]
  exact rows_report named [] rs

/-- No section has more rows than it should. -/
lemma length_rows_report_le (named : ∀ r ∈ rs, '\n' ∉ r.context.toList) :
    (Text.rows (report rs)).length ≤ (rs.flatMap sectionRows).length := by
  induction rs with
  | nil => exact le_refl 0
  | cons r rs ih =>
    rw [List.forall_mem_cons] at named
    have rest := ih named.2
    rw [rows_report_cons named.1, List.flatMap_cons, sectionRows]
    simp only [List.length_cons, List.length_append]
    split
    · omega
    · rw [List.length_tail]
      omega

/-- The rows of the results after a body are whole exactly if it ends its last row. -/
lemma rows_after_iff (named : ∀ r ∈ rs, '\n' ∉ r.context.toList) (some : rs ≠ []) (body : String) :
    (if Text.Ended body then Text.rows (report rs) else (Text.rows (report rs)).tail) =
      rs.flatMap sectionRows ↔
      Text.Ended body ∧ Text.rows (report rs) = rs.flatMap sectionRows := by
  split
  · rename_i ended
    exact (and_iff_right ended).symm
  · rename_i open_
    refine ⟨fun rest => ?_, fun both => absurd both.1 open_⟩
    -- one row too few
    have few := length_rows_report_le named
    have lengths := congrArg List.length rest
    rw [List.length_tail] at lengths
    have pos : 0 < (rs.flatMap sectionRows).length := by
      cases rs with
      | nil => exact absurd rfl some
      | cons r rs => exact Nat.zero_lt_succ _
    omega

/-- Dashes are told apart by their number. -/
lemma repeated_inj {m n : ℕ} : Text.repeated "-" m = Text.repeated "-" n ↔ m = n := by
  refine ⟨fun same => ?_, fun same => by rw [same]⟩
  have lengths := congrArg String.length same
  rwa [length_repeated, length_repeated] at lengths

/-- A report is laid out section by section exactly if every underline has the length of its name
and every body but the last ends its last row. -/
lemma rows_report_eq_iff (named : ∀ r ∈ rs, '\n' ∉ r.context.toList) :
    Text.rows (report rs) = rs.flatMap sectionRows ↔
      (∀ r ∈ rs, r.context.utf8ByteSize = r.context.length) ∧
        ∀ r ∈ rs.dropLast, Text.Ended r.body := by
  induction rs with
  | nil => exact ⟨fun _ => ⟨nofun, nofun⟩, fun _ => rfl⟩
  | cons r rs ih =>
    rw [List.forall_mem_cons] at named
    rw [rows_report_cons named.1, List.flatMap_cons, sectionRows]
    simp only [List.cons_append, List.cons.injEq, true_and, List.append_cancel_left_eq,
      repeated_inj, List.forall_mem_cons]
    cases rs with
    | nil => simp [show report [] = "" from rfl, show Text.rows "" = [] from rfl]
    | cons s rs =>
      rw [rows_after_iff named.2 (List.cons_ne_nil s rs), ih named.2, List.dropLast_cons_cons,
        List.forall_mem_cons (a := r), ← and_assoc, and_and_and_comm]

/-- The line of an error is always ended; an output is shown as it is. -/
lemma ended_body_iff : Text.Ended r.body ↔ (r.failure = none → Text.Ended r.output) := by
  unfold body
  cases r.failure with
  | none => simp
  | some e => simpa using Text.ended_feed ("  (error) " ++ r.output)

/-- Every section of a report has its name, its underline and what is shown of the result, in the
order of the results, and the report ends as the last body does. The underline has a dash for each
byte of the name. Before the name is an empty row if there is nothing before the section or the
output before it is an error or ends its last row. So a report is laid out section by section, with
underlines as long as the names, exactly if all names are in ASCII and every output but the last is
an error or ends its last row. -/
theorem report_sections_iff (named : ∀ r ∈ rs, '\n' ∉ r.context.toList) :
    (∀ front r back, rs = front ++ r :: back → Text.rows (report rs) =
      Text.rows (report front) ++
        (if ∀ p ∈ front.getLast?, p.failure = none → Text.Ended p.output then [""] else []) ++
        r.context :: Text.repeated "-" r.context.utf8ByteSize :: Text.rows
          (r.body ++ report back)) ∧
    (Text.Ended (report rs) ↔ ∀ r ∈ rs.getLast?, Text.Ended r.body) ∧
    (Text.rows (report rs) = rs.flatMap sectionRows ↔
      (∀ r ∈ rs, ∀ c ∈ r.context.toList, c.toNat < 0x80) ∧
      ∀ r ∈ rs.dropLast, r.failure = none → Text.Ended r.output) := by
  refine ⟨?_, ended_report_iff, ?_⟩
  · rintro front r back rfl
    have mem : r ∈ front ++ r :: back := List.mem_append_right _ List.mem_cons_self
    simp only [← ended_body_iff]
    exact rows_report (named r mem) front back
  · simp only [rows_report_eq_iff named, Text.utf8ByteSize_eq_length_iff, ended_body_iff]

/-- Outputs with empty lines, without any and without an end, and a name that is empty. -/
def plainResults : List CommandResult := [
  ⟨"prod", "node\n\n", none⟩,
  ⟨"", "down", some (.process "" "down")⟩,
  ⟨"dev", "", none⟩,
  ⟨"test", "pod", none⟩]

/-- A report of outputs that end their rows, of an error and of no output at all. The last output
need not end its row. -/
theorem report_sections_iff_plain :
    (∀ r ∈ plainResults, '\n' ∉ r.context.toList) ∧
    Text.rows (report plainResults) =
      ["", "prod", "----", "node", "", "", "", "", "  (error) down", "", "dev", "---",
      "", "test", "----", "pod"] ∧
    ¬ Text.Ended (report plainResults) := by
  have named : ∀ r ∈ plainResults, '\n' ∉ r.context.toList := by decide
  obtain ⟨-, ended, sections⟩ := report_sections_iff named
  have rows : plainResults.flatMap sectionRows =
    ["", "prod", "----", "node", "", "", "", "", "  (error) down", "",
    "dev", "---", "", "test", "----", "pod"] := by decide
  have ascii : plainResults.all (·.context.toList.all (·.toNat < 0x80)) := by decide
  simp only [List.all_eq_true, decide_eq_true_iff] at ascii
  rw [← rows, ended]
  exact ⟨named, sections.2 ⟨ascii, by decide⟩, by decide⟩

/-- An output that does not end its last row, and a name of one character and two bytes. -/
def unevenResults : List CommandResult := [⟨"é", "x", none⟩, ⟨"b", "y\n", none⟩]

/-- The underline of a name outside ASCII is too long, and no empty row is before a name that
follows an unended row. -/
theorem not_report_sections_uneven :
    (∀ r ∈ unevenResults, '\n' ∉ r.context.toList) ∧
    report unevenResults = "\né\n--\nx\nb\n-\ny\n" ∧
    unevenResults.flatMap sectionRows = ["", "é", "-", "x", "", "b", "-", "y"] ∧
    Text.rows (report unevenResults) ≠ unevenResults.flatMap sectionRows := by
  have rows : unevenResults.flatMap sectionRows = ["", "é", "-", "x", "", "b", "-", "y"] := by
    decide
  have shown : report unevenResults = "\né\n--\nx\nb\n-\ny\n" := by decide
  refine ⟨by decide, shown, rows, ?_⟩
  rw [rows, shown]
  decide

end Fleet.CommandResult
