import Mathlib.Data.List.Lex
import Mathlib.Data.String.Basic

/-!
# Bytes of a text

The bytes of a character tell it from every other one, and come in the order of the characters
whatever follows (`charBytes_append_lt`). So texts are ordered as their bytes are (`bytes_lt_iff`).
There are as many bytes as characters exactly in ASCII (`utf8ByteSize_eq_length_iff`).

`charBytes` spells out the encoding by the four ranges of code points. Between two characters of one
range the bytes are compared digit by digit in base 64; between two ranges the first byte decides.
The bytes of a text as the library has them are the bytes of its characters one after another
(`bytes_eq`), so no other fact about the library's encoding is used.
-/

namespace Fleet.Text

/-- Bytes of a character. -/
def charBytes (c : Char) : List Nat := (String.utf8EncodeChar c).map UInt8.toNat

/-- Bytes of a text. -/
def bytes (s : String) : List Nat := s.toUTF8.data.toList.map UInt8.toNat

variable {c d : Char} {cs ds : List Char}

/-- The bytes of a text are those of its characters. -/
lemma bytes_eq (s : String) : bytes s = s.toList.flatMap charBytes := by
  have encoded : s.toByteArray = s.toList.utf8Encode := by
    conv_lhs => rw [← String.ofList_toList (s := s)]
    exact String.toByteArray_ofList
  unfold bytes
  rw [String.toUTF8_eq_toByteArray, encoded, List.utf8Encode, List.data_toByteArray]
  exact List.map_flatMap

/-- Code points are below `0x110000`. -/
lemma toNat_lt (c : Char) : c.toNat < 0x110000 := by
  have valid : c.toNat < 0xd800 ∨ 0xdfff < c.toNat ∧ c.toNat < 0x110000 := c.valid
  omega

/-- A character of one to four bytes, in digits of six bits. -/
lemma charBytes_eq (c : Char) : charBytes c =
    if c.toNat < 0x80 then [c.toNat]
    else if c.toNat < 0x800 then [c.toNat / 0x40 + 0xc0, c.toNat % 0x40 + 0x80]
    else if c.toNat < 0x10000 then
      [c.toNat / 0x1000 + 0xe0, c.toNat / 0x40 % 0x40 + 0x80, c.toNat % 0x40 + 0x80]
    else
      [c.toNat / 0x40000 + 0xf0, c.toNat / 0x1000 % 0x40 + 0x80, c.toNat / 0x40 % 0x40 + 0x80,
        c.toNat % 0x40 + 0x80] := by
  have bound := toNat_lt c
  unfold charBytes String.utf8EncodeChar
  rw [show c.val.toNat = c.toNat from rfl]
  dsimp only
  generalize c.toNat = v at bound ⊢
  split_ifs
  all_goals simp only [List.map_cons, List.map_nil, UInt8.toNat_ofNat', List.cons.injEq, and_true]
  all_goals omega

/-- Every character has a byte. -/
lemma charBytes_ne_nil (c : Char) : charBytes c ≠ [] :=
  fun none => String.utf8EncodeChar_ne_nil (List.map_eq_nil_iff.1 none)

/-- An earlier character has earlier bytes. A longer form begins with a larger byte, and forms of
one length differ in a digit. -/
lemma charBytes_append_lt (lt : c < d) (x y : List Nat) : charBytes c ++ x < charBytes d ++ y := by
  have bound := toNat_lt d
  have lt' : c.toNat < d.toNat := lt
  rw [charBytes_eq, charBytes_eq]
  generalize c.toNat = v at lt' ⊢
  generalize d.toNat = w at bound lt' ⊢
  split_ifs
  all_goals simp only [List.cons_append, List.nil_append, List.cons_lt_cons_iff]
  all_goals omega

/-- Of two texts the one that comes first by characters comes first by bytes. -/
lemma flatMap_charBytes_lt (lt : cs < ds) : cs.flatMap charBytes < ds.flatMap charBytes := by
  induction lt with
  | @nil d ds =>
    have some : ((d :: ds).flatMap charBytes) ≠ [] := by
      rw [List.flatMap_cons]
      exact List.append_ne_nil_of_left_ne_nil (charBytes_ne_nil d) _
    exact List.not_le.1 fun none => some (List.le_nil.1 none)
  | rel lt => exact charBytes_append_lt lt _ _
  | cons _ ih => exact List.append_left_lt ih

/-- Bytes keep the order of characters. -/
lemma strictMono_flatMap_charBytes : StrictMono fun cs : List Char => cs.flatMap charBytes :=
  fun _ _ lt => flatMap_charBytes_lt lt

/-- The order of texts is that of their bytes. -/
lemma bytes_lt_iff {a b : String} : bytes a < bytes b ↔ a < b := by
  rw [bytes_eq, bytes_eq, String.lt_iff_toList_lt]
  exact strictMono_flatMap_charBytes.lt_iff_lt

/-! ### Bytes one by one -/

/-- The loop that lists bytes puts those from an index on behind those it has. -/
lemma toList_loop_eq (bs : ByteArray) (i : ℕ) (r : List UInt8) :
    ByteArray.toList.loop bs i r = r.reverse ++ bs.data.toList.drop i := by
  fun_induction ByteArray.toList.loop bs i r with
  | case1 i r more ih =>
    have inside : i < bs.data.toList.length := more
    rw [ih, List.drop_eq_getElem_cons inside]
    simp [ByteArray.get!, getElem!_pos bs.data i more]
  | case2 i r done =>
    have outside : bs.data.toList.length ≤ i := Nat.le_of_not_lt done
    rw [List.drop_eq_nil_of_le outside, List.append_nil]

/-- The bytes of a text of one character. -/
lemma toList_singleton (c : Char) :
    (String.singleton c).toUTF8.toList = String.utf8EncodeChar c := by
  rw [ByteArray.toList, toList_loop_eq, String.toUTF8_eq_toByteArray, String.toByteArray_singleton,
    List.utf8Encode, List.data_toByteArray]
  simp

/-! ### Bytes and characters -/

/-- A text has no fewer bytes than characters. -/
lemma length_le_utf8Len (cs : List Char) : cs.length ≤ String.utf8Len cs := by
  induction cs with
  | nil => exact le_refl 0
  | cons c cs ih =>
    rw [String.utf8Len_cons, List.length_cons]
    exact Nat.add_le_add ih c.utf8Size_pos

/-- A text has as many bytes as characters exactly if all of them are in ASCII. -/
lemma utf8Len_eq_length_iff : String.utf8Len cs = cs.length ↔ ∀ c ∈ cs, c.toNat < 0x80 := by
  induction cs with
  | nil => exact ⟨fun _ => nofun, fun _ => rfl⟩
  | cons c cs ih =>
    have least := length_le_utf8Len cs
    have one := c.utf8Size_pos
    have single : c.utf8Size = 1 ↔ c.toNat < 0x80 :=
      Char.utf8Size_eq_one_iff.trans Nat.lt_succ_iff.symm
    rw [String.utf8Len_cons, List.length_cons, List.forall_mem_cons, ← ih, ← single]
    omega

/-- A text has as many bytes as characters exactly if each of them is of one byte. -/
lemma utf8ByteSize_eq_length_iff {s : String} :
    s.utf8ByteSize = s.length ↔ ∀ c ∈ s.toList, c.toNat < 0x80 := by
  rw [← utf8Len_eq_length_iff, String.length_toList, ← String.utf8ByteSize_ofList,
    String.ofList_toList]

end Fleet.Text
