import Fleet.Json.Parser
import Fleet.Proofs.Decimal.Numeral

/-!
# JSON texts

`Written v t` says that `t` is a text of `v` without blanks: what the grammar of JSON allows for it.
No character of such a text is a control (`Written.printable`), and no value ends before the bracket
that closes an object (`Written.eq_nil_of_append`).

The grammar is an inductive relation, mutual over values, items and fields, with relations of their
own for escapes, spelled characters, quoted texts and numbers. Both results are proved by recursion
over it, one case for each rule.

For the second one a text is scanned with the number of brackets that are open and whether the scan
is inside a string (`afterClose`): a text of a value leaves the scan where it was, so the bracket
that closes an object is the one at its end, and no proper part of the text in front of it is a text
of some value.
-/

namespace Fleet.Json

open Decimal

/-- Ways to write a character inside a string. -/
inductive Escape : Char → List Char → Prop
  | plain {c : Char} : 0x20 ≤ c.toNat → c ≠ '"' → c ≠ '\\' → Escape c [c]
  | quote : Escape '"' ['\\', '"']
  | backslash : Escape '\\' ['\\', '\\']
  | newline : Escape '\n' ['\\', 'n']
  | carriage : Escape '\r' ['\\', 'r']
  | tab : Escape '\t' ['\\', 't']
  | backspace : Escape '\x08' ['\\', 'b']
  | formFeed : Escape '\x0c' ['\\', 'f']
  | unit {c a₁ a₂ a₃ a₄ : Char} {n₁ n₂ n₃ n₄ : Nat} :
      hexValue? a₁ = some n₁ → hexValue? a₂ = some n₂ →
    hexValue? a₃ = some n₃ → hexValue? a₄ = some n₄ →
      c.toNat = n₁ * 4096 + n₂ * 256 + n₃ * 16 + n₄ →
    Escape c ['\\', 'u', a₁, a₂, a₃, a₄]

/-- Characters one after another inside a string. -/
inductive Spelled : List Char → List Char → Prop
  | nil : Spelled [] []
  | cons {c : Char} {cs t u : List Char} : Escape c t → Spelled cs u → Spelled (c :: cs) (t ++ u)

/-- A string in its quotes. -/
inductive Quoted : String → List Char → Prop
  | mk {s : String} {t : List Char} : Spelled s.toList t → Quoted s ('"' :: t ++ ['"'])

/-- A number; a double that is none is written as null. -/
inductive WrittenNumber : Number → List Char → Prop
  | whole {n : Int} {t : List Char} : Whole t → Nat.ofDigitChars 10 t 0 = n.natAbs →
    WrittenNumber (.int n) ((if n < 0 then ['-'] else []) ++ t)
  | broken {negative : Bool} {b : Double.Magnitude} {t : List Char} : Broken t →
    WrittenNumber (.real (.finite negative b)) ((if negative then ['-'] else []) ++ t)
  | infinite {negative : Bool} : WrittenNumber (.real (.infinite negative)) ['n', 'u', 'l', 'l']
  | nan : WrittenNumber (.real .nan) ['n', 'u', 'l', 'l']

mutual
/-- Texts of a value. -/
inductive Written : Json → List Char → Prop
  | null : Written .null ['n', 'u', 'l', 'l']
  | yes : Written (.bool true) ['t', 'r', 'u', 'e']
  | no : Written (.bool false) ['f', 'a', 'l', 's', 'e']
  | num {n : Number} {t : List Char} : WrittenNumber n t → Written (.num n) t
  | str {s : String} {t : List Char} : Quoted s t → Written (.str s) t
  | arr {items : List Json} {t : List Char} : WrittenItems items t → Written (.arr items) ('[' :: t)
  | obj {fields : List (String × Json)} {t : List Char} :
      WrittenFields fields t → Written (.obj fields) ('{' :: t)

/-- Texts of items, up to the bracket that closes them. -/
inductive WrittenItems : List Json → List Char → Prop
  | nil : WrittenItems [] [']']
  | last {v : Json} {t : List Char} : Written v t → WrittenItems [v] (t ++ [']'])
  | more {v w : Json} {r : List Json} {t u : List Char} : Written v t → WrittenItems (w :: r) u →
    WrittenItems (v :: w :: r) (t ++ ',' :: u)

/-- Texts of fields, up to the brace that closes them. -/
inductive WrittenFields : List (String × Json) → List Char → Prop
  | nil : WrittenFields [] ['}']
  | last {k : String} {v : Json} {q t : List Char} : Quoted k q → Written v t →
    WrittenFields [(k, v)] (q ++ ':' :: t ++ ['}'])
  | more {k : String} {v : Json} {f : String × Json} {r : List (String × Json)}
      {q t u : List Char} : Quoted k q →
    Written v t → WrittenFields (f :: r) u →
      WrittenFields ((k, v) :: f :: r) (q ++ ':' :: t ++ ',' :: u)
end

variable {c : Char} {cs t u : List Char} {s : String} {v : Json} {n : Number} {d : Nat}

/-! ### Printable characters -/

/-- No control in a text. -/
def Printable (t : List Char) : Prop := ∀ c ∈ t, 0x20 ≤ c.toNat

/-- Whether a text holds controls is decided character by character. -/
instance : DecidablePred Printable := fun t => List.decidableBAll _ t

/-- Two texts without controls make one. -/
lemma Printable.append (front : Printable t) (back : Printable u) : Printable (t ++ u) :=
  List.forall_mem_append.2 ⟨front, back⟩

/-- A character that is no control goes in front. -/
lemma Printable.cons (first : 0x20 ≤ c.toNat) (rest : Printable t) : Printable (c :: t) :=
  List.forall_mem_cons.2 ⟨first, rest⟩

/-- Hexadecimal digits stand for themselves inside a string. -/
lemma plain_of_hexValue? {n : Nat} (hex : hexValue? c = some n) :
    0x20 ≤ c.toNat ∧ c ≠ '"' ∧ c ≠ '\\' := by
  have least : '0' ≤ c := by
    unfold hexValue? at hex
    split_ifs at hex with decimal lower upper
    · exact decimal.1
    · exact Char.le_trans (by decide) lower.1
    · exact Char.le_trans (by decide) upper.1
  refine ⟨le_trans (by decide) (Char.le_def.1 least), ?_, ?_⟩
  · rintro rfl
    exact absurd least (by decide)
  · rintro rfl
    cases hex

/-- An escape holds no controls. -/
lemma Escape.printable (escape : Escape c t) : Printable t := by
  cases escape with
  | plain least => exact .cons least (by decide)
  | unit first second third fourth =>
    exact .cons (by decide) (.cons (by decide) (.cons (plain_of_hexValue? first).1
      (.cons (plain_of_hexValue? second).1 (.cons (plain_of_hexValue? third).1
        (.cons (plain_of_hexValue? fourth).1 (by decide))))))
  | _ => decide

/-- Characters as they are spelled hold no controls. -/
lemma Spelled.printable (spelled : Spelled cs t) : Printable t := by
  induction spelled with
  | nil => decide
  | cons first rest ih => exact first.printable.append ih

/-- A quoted text holds no controls. -/
lemma Quoted.printable (quoted : Quoted s t) : Printable t := by
  obtain ⟨spelled⟩ := quoted
  exact .append (.cons (by decide) spelled.printable) (by decide)

/-- Quotes and brackets. -/
def marks : List Char := ['"', '[', ']', '{', '}']

/-- Neither a control nor a mark. -/
def isBare (c : Char) : Bool := 0x20 ≤ c.toNat && !marks.contains c

/-- Bare characters are neither controls nor quotes nor brackets. -/
lemma isBare_iff : isBare c ↔ 0x20 ≤ c.toNat ∧ c ∉ marks := by
  rw [isBare, Bool.and_eq_true, decide_eq_true_eq, Bool.not_eq_true', List.contains_eq_mem,
    decide_eq_false_iff_not]

/-- Characters of numbers are bare. -/
lemma isBare_of_isNumeric (numeric : isNumeric c) : isBare c := by
  unfold isNumeric at numeric
  obtain digit | mark := Bool.or_eq_true_iff.1 numeric
  · rw [isBare_iff]
    constructor
    · rw [Char.isDigit, Bool.and_eq_true, decide_eq_true_eq] at digit
      have least : 48 ≤ c.toNat := UInt32.le_iff_toNat_le.1 digit.1
      exact Nat.le_trans (by decide) least
    · intro mem
      have none : marks.all (!·.isDigit) := by decide
      have other := List.all_eq_true.1 none c mem
      rw [digit] at other
      cases other
  · have all : ['+', '-', '.', 'e', 'E'].all isBare := by decide
    exact List.all_eq_true.1 all c (List.contains_iff_mem.1 mark)

/-- Numbers have no quotes and no brackets. -/
lemma WrittenNumber.bare (number : WrittenNumber n t) : t.all isBare := by
  have signed {down : Prop} [Decidable down] {ds : List Char} (numeric : ds.all isNumeric) :
      ((if down then ['-'] else []) ++ ds).all isBare := by
    have digits : ds.all isBare := List.all_eq_true.2 fun c mem =>
      isBare_of_isNumeric (List.all_eq_true.1 numeric c mem)
    split
    · exact digits
    · exact digits
  cases number with
  | whole digits => exact signed digits.numeric
  | broken digits => exact signed digits.numeric
  | infinite => rfl
  | nan => rfl

/-- The text of a number is not empty. -/
lemma WrittenNumber.ne_nil (number : WrittenNumber n t) : t ≠ [] := by
  cases number with
  | whole digits => exact List.append_ne_nil_of_right_ne_nil _ digits.nonempty
  | broken digits => exact List.append_ne_nil_of_right_ne_nil _ digits.ne_nil
  | infinite => nofun
  | nan => nofun

/-- Bare characters are no controls. -/
lemma printable_of_bare (bare : t.all isBare) : Printable t :=
  fun c mem => (isBare_iff.1 (List.all_eq_true.1 bare c mem)).1

mutual
/-- The text of a value holds no controls. -/
lemma Written.printable : ∀ {v t}, Written v t → Printable t
  | _, _, .null => by decide
  | _, _, .yes => by decide
  | _, _, .no => by decide
  | _, _, .num number => printable_of_bare number.bare
  | _, _, .str quoted => quoted.printable
  | _, _, .arr items => .cons (by decide) items.printable
  | _, _, .obj fields => .cons (by decide) fields.printable

/-- The text of items holds no controls. -/
lemma WrittenItems.printable : ∀ {vs t}, WrittenItems vs t → Printable t
  | _, _, .nil => by decide
  | _, _, .last first => first.printable.append (by decide)
  | _, _, .more first rest => first.printable.append (.cons (by decide) rest.printable)

/-- The text of fields holds no controls. -/
lemma WrittenFields.printable : ∀ {fs t}, WrittenFields fs t → Printable t
  | _, _, .nil => by decide
  | _, _, .last key first =>
    .append (key.printable.append (.cons (by decide) first.printable)) (by decide)
  | _, _, .more key first rest =>
    .append (key.printable.append (.cons (by decide) first.printable))
      (.cons (by decide) rest.printable)
end

/-! ### Brackets -/

/-- Where brackets are read: those inside a string do not count. -/
inductive Place where
  | outside
  | inside
  | escaped

/-- What follows the bracket that closes a level; `depth` levels more are open inside it. -/
def afterClose : Nat → Place → List Char → List Char
  | _, _, [] => []
  | depth, .escaped, _ :: r => afterClose depth .inside r
  | depth, .inside, c :: r =>
    if c = '"' then afterClose depth .outside r
    else afterClose depth (if c = '\\' then .escaped else .inside) r
  | depth, .outside, c :: r =>
    if c = '"' then afterClose depth .inside r
    else if c = '[' ∨ c = '{' then afterClose (depth + 1) .outside r
    else if c = ']' ∨ c = '}' then
      match depth with
      | 0 => r
      | depth + 1 => afterClose depth .outside r
    else afterClose depth .outside r

/-- What follows when one level closes. -/
def closed (r : List Char) : Nat → List Char
  | 0 => r
  | depth + 1 => afterClose depth .outside r

/-- A backslash takes the next character with it. -/
lemma afterClose_backslash (d : Nat) (c : Char) (r : List Char) :
    afterClose d .inside ('\\' :: c :: r) = afterClose d .inside r := rfl

/-- A hexadecimal digit ends no string. -/
lemma afterClose_of_hexValue? {n : Nat} (hex : hexValue? c = some n) (d : Nat) (r : List Char) :
    afterClose d .inside (c :: r) = afterClose d .inside r := by
  obtain ⟨-, quote, backslash⟩ := plain_of_hexValue? hex
  simp [afterClose, quote, backslash]

/-- An escape does not end the string that it stands in. -/
lemma Escape.afterClose_append (escape : Escape c t) (d : Nat) (r : List Char) :
    afterClose d .inside (t ++ r) = afterClose d .inside r := by
  cases escape with
  | plain least quote backslash => simp [afterClose, quote, backslash]
  | unit first second third fourth =>
    simp only [List.cons_append, List.nil_append, afterClose_backslash,
      afterClose_of_hexValue? first, afterClose_of_hexValue? second, afterClose_of_hexValue? third,
      afterClose_of_hexValue? fourth]
  | _ => exact afterClose_backslash ..

/-- Spelled characters do not end the string that they stand in. -/
lemma Spelled.afterClose_append (spelled : Spelled cs t) (d : Nat) (r : List Char) :
    afterClose d .inside (t ++ r) = afterClose d .inside r := by
  induction spelled with
  | nil => rfl
  | cons first rest ih => rw [List.append_assoc, first.afterClose_append, ih]

/-- A quoted text closes no bracket. -/
lemma Quoted.afterClose_append (quoted : Quoted s t) (d : Nat) (r : List Char) :
    afterClose d .outside (t ++ r) = afterClose d .outside r := by
  obtain ⟨spelled⟩ := quoted
  have opened : afterClose d .inside (_ ++ '"' :: r) = _ := spelled.afterClose_append d ('"' :: r)
  simpa [afterClose] using opened

/-- Bare characters close no bracket. -/
lemma afterClose_of_bare (bare : t.all isBare) (d : Nat) (r : List Char) :
    afterClose d .outside (t ++ r) = afterClose d .outside r := by
  induction t with
  | nil => rfl
  | cons c t ih =>
    rw [List.all_cons, Bool.and_eq_true] at bare
    obtain ⟨first, rest⟩ := bare
    have other := (isBare_iff.1 first).2
    simp only [marks, List.mem_cons, List.not_mem_nil, or_false, not_or] at other
    obtain ⟨quote, square, square', brace, brace'⟩ := other
    simp [afterClose, quote, square, square', brace, brace', ih rest]

mutual
/-- A value leaves the open levels as they are. -/
lemma Written.afterClose_append : ∀ {v t}, Written v t →
    ∀ d r, afterClose d .outside (t ++ r) = afterClose d .outside r
  | _, _, .null, d, r => afterClose_of_bare rfl d r
  | _, _, .yes, d, r => afterClose_of_bare rfl d r
  | _, _, .no, d, r => afterClose_of_bare rfl d r
  | _, _, .num number, d, r => afterClose_of_bare number.bare d r
  | _, _, .str quoted, d, r => quoted.afterClose_append d r
  | _, _, .arr items, d, r => by
    simpa [afterClose, closed] using items.afterClose_append (d + 1) r
  | _, _, .obj fields, d, r => by
    simpa [afterClose, closed] using fields.afterClose_append (d + 1) r

/-- Items close one level. -/
lemma WrittenItems.afterClose_append : ∀ {vs t}, WrittenItems vs t →
    ∀ d r, afterClose d .outside (t ++ r) = closed r d
  | _, _, .nil, d, r => by simp [afterClose, closed]
  | _, _, .last first, d, r => by simp [afterClose, closed, first.afterClose_append]
  | _, _, .more first rest, d, r =>
    by simp [afterClose, first.afterClose_append, rest.afterClose_append]

/-- Fields close one level. -/
lemma WrittenFields.afterClose_append : ∀ {fs t}, WrittenFields fs t →
    ∀ d r, afterClose d .outside (t ++ r) = closed r d
  | _, _, .nil, d, r => by simp [afterClose, closed]
  | _, _, .last key first, d, r =>
    by simp [afterClose, closed, key.afterClose_append, first.afterClose_append]
  | _, _, .more key first rest, d, r => by
    simp [afterClose, key.afterClose_append, first.afterClose_append, rest.afterClose_append]
end

/-- Only an object begins with its brace. -/
lemma Written.exists_fields (front : Written v t) (begins : t.head? = some '{') :
    ∃ fields u, t = '{' :: u ∧ WrittenFields fields u := by
  cases front with
  | obj fields => exact ⟨_, _, rfl, fields⟩
  | num number =>
    have bare := List.all_eq_true.1 number.bare '{' (List.mem_of_mem_head? begins)
    exact absurd bare (by decide)
  | str quoted =>
    cases quoted
    cases begins
  | _ => cases begins

/-- The text of a value is not empty. -/
lemma Written.ne_nil (written : Written v t) : t ≠ [] := by
  cases written with
  | num number => exact number.ne_nil
  | str quoted =>
    cases quoted
    nofun
  | _ => nofun

/-- The text of an object begins with a brace. -/
lemma Written.head?_obj {fields : List (String × Json)} (written : Written (.obj fields) t) :
    t.head? = some '{' := by
  cases written
  rfl

/-- No value ends before the brace that closes an object. -/
lemma Written.eq_nil_of_append {fields : List (String × Json)} {r : List Char}
    (whole : Written (.obj fields) (t ++ r)) (front : Written v t) : r = [] := by
  have begins : t.head? = some '{' := by
    rw [← List.head?_append_of_ne_nil t front.ne_nil]
    exact whole.head?_obj
  obtain ⟨some, u', rfl, inner'⟩ := front.exists_fields begins
  obtain ⟨all, u, split, inner⟩ := whole.exists_fields whole.head?_obj
  obtain rfl : u' ++ r = u := List.tail_eq_of_cons_eq split
  have rest : afterClose 0 .outside (u' ++ r) = r := inner'.afterClose_append 0 r
  have nothing : afterClose 0 .outside (u' ++ r ++ []) = [] := inner.afterClose_append 0 []
  rwa [List.append_nil, rest] at nothing

end Fleet.Json
