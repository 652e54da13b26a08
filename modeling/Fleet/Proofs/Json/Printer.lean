import Fleet.Json.Printer
import Fleet.Proofs.Json.Written

/-!
# Printed values are JSON texts

Whatever its strings hold, a value is printed as one of its texts (`written_chars`).

The proof follows the printer: characters of a string one by one (`escape_escapeChar`), numbers by
their sign and digits (`writtenNumber_text`), and then items and fields by a mutual recursion with
values. Nothing is asked of the value, so control characters, quotes and characters outside the
basic plane are among the cases.
-/

namespace Fleet.Json

open Decimal

variable {n : Nat}

/-! ### Strings -/

/-- A hexadecimal digit has its value. -/
lemma hexValue?_hexDigit (small : n < 16) : hexValue? (hexDigit n) = some n := by
  revert n
  decide

/-- A character is spelled as the grammar allows for it. -/
lemma escape_escapeChar (c : Char) : Escape c (escapeChar c) := by
  unfold escapeChar
  split_ifs with quote backslash newline carriage tab backspace formFeed control
  · exact quote ▸ .quote
  · exact backslash ▸ .backslash
  · exact newline ▸ .newline
  · exact carriage ▸ .carriage
  · exact tab ▸ .tab
  · exact backspace ▸ .backspace
  · exact formFeed ▸ .formFeed
  · have upper : c.toNat / 16 < 16 := by omega
    have lower : c.toNat % 16 < 16 := Nat.mod_lt _ (by decide)
    have digits : c.toNat = 0 * 4096 + 0 * 256 + c.toNat / 16 * 16 + c.toNat % 16 := by omega
    exact .unit rfl rfl (hexValue?_hexDigit upper) (hexValue?_hexDigit lower) digits
  · exact .plain (Nat.le_of_not_lt control) quote backslash

/-- Characters one after another are spelled so. -/
lemma spelled_flatMap (cs : List Char) : Spelled cs (cs.flatMap escapeChar) := by
  induction cs with
  | nil => exact .nil
  | cons c cs ih =>
    rw [List.flatMap_cons]
    exact .cons (escape_escapeChar c) ih

/-- A text is quoted. -/
lemma quoted_stringText (s : String) : Quoted s (stringText s) := ⟨spelled_flatMap s.toList⟩

/-! ### Numbers -/

/-- A whole number is its digits, behind a sign if it is negative. -/
lemma intText_eq (n : Int) :
    intText n = (if n < 0 then ['-'] else []) ++ Nat.toDigits 10 n.natAbs := by
  unfold intText
  split_ifs with negative
  · have magnitude : (-n).toNat = n.natAbs := by omega
    rw [magnitude]
    rfl
  · have magnitude : n.toNat = n.natAbs := by omega
    rw [magnitude]
    rfl

/-- The characters of a sign. -/
lemma toList_sign (negative : Bool) :
    (if negative then "-" else "").toList = if negative then ['-'] else [] := by
  cases negative <;> rfl

/-- A number is written as a numeral that stands for it. -/
lemma writtenNumber_text (n : Number) : WrittenNumber n n.text.toList := by
  cases n with
  | int n =>
    rw [Number.text, String.toList_ofList, intText_eq]
    exact .whole (whole_toDigits _) Nat.ofDigitChars_ten_toDigits
  | real x =>
    cases x with
    | finite negative b =>
      have broken := realLayout.broken_magnitude rfl rfl (shortest b)
      rw [Number.text, Layout.text, String.toList_append, String.toList_ofList, toList_sign]
      exact .broken broken
    | infinite negative => cases negative <;> exact .infinite
    | nan => exact .nan

/-! ### Values -/

mutual
/-- A value is printed as a text of it. -/
lemma written_chars : ∀ v, Written v (chars v)
  | .null => .null
  | .bool true => .yes
  | .bool false => .no
  | .num n => .num (writtenNumber_text n)
  | .str s => .str (quoted_stringText s)
  | .arr items => .arr (writtenItems_itemChars items)
  | .obj fields => .obj (writtenFields_fieldChars fields)

/-- Items are written with commas between them. -/
lemma writtenItems_itemChars : ∀ vs, WrittenItems vs (itemChars true vs)
  | [] => .nil
  | [v] => .last (written_chars v)
  | v :: w :: r => .more (written_chars v) (writtenItems_itemChars (w :: r))

/-- Fields are written with commas between them. -/
lemma writtenFields_fieldChars : ∀ fs, WrittenFields fs (fieldChars true fs)
  | [] => .nil
  | [(k, v)] => .last (quoted_stringText k) (written_chars v)
  | (k, v) :: f :: r =>
    .more (quoted_stringText k) (written_chars v) (writtenFields_fieldChars (f :: r))
end

end Fleet.Json
