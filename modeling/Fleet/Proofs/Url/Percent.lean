import Fleet.Proofs.Text.Bytes
import Fleet.Url.Percent

/-!
# Percent encoding undone

Decoding gives the bytes of a text back where a percent sign is always encoded
(`decodeBytes_encode`), so different texts look different there (`encode_injective`).

Decoding is by bytes and encoding by characters, so the proof goes from digits to bytes, from bytes
to characters and from characters to texts, with a rest behind at every level. That the rest is
decoded on its own is what lets the levels be chained. The only thing asked of a set of characters
to encode is that the percent sign is one of them; slashes are kept apart by the sets that encode
them (`slash_not_mem_encode`).
-/

namespace Fleet.Url

variable {set : EncodeSet} {c : Char} {cs : List Char}

/-! ### Single bytes -/

/-- A hexadecimal digit has its value. -/
lemma hexValue?_hexDigit {n : ℕ} (small : n < 16) : hexValue? (hexDigit n) = some n := by
  revert n
  decide

/-- No hexadecimal digit is a slash. -/
lemma hexDigit_ne {n : ℕ} (small : n < 16) : hexDigit n ≠ '/' := by
  revert n
  decide

/-- A byte comes back from its hexadecimal value. -/
lemma decodeBytes_encodeByte (b : UInt8) (r : List Char) :
    decodeBytes (encodeByte b ++ r) = b :: decodeBytes r := by
  have bound := b.toNat_lt
  have upper : b.toNat / 16 < 16 := by omega
  have lower : b.toNat % 16 < 16 := Nat.mod_lt _ (by decide)
  have digits : b.toNat / 16 * 16 + b.toNat % 16 = b.toNat := by omega
  unfold encodeByte
  simp only [List.cons_append, List.nil_append, decodeBytes, hexValue?_hexDigit upper,
    hexValue?_hexDigit lower, digits, UInt8.ofNat_toNat]

/-- Bytes come back from their hexadecimal values. -/
lemma decodeBytes_flatMap (bs : List UInt8) (r : List Char) :
    decodeBytes (bs.flatMap encodeByte ++ r) = bs ++ decodeBytes r := by
  induction bs with
  | nil => rfl
  | cons b bs ih =>
    rw [List.flatMap_cons, List.append_assoc, decodeBytes_encodeByte, ih, List.cons_append]

/-- A character other than the percent sign stands for its own bytes. -/
lemma decodeBytes_cons (other : c ≠ '%') (r : List Char) :
    decodeBytes (c :: r) = String.utf8EncodeChar c ++ decodeBytes r := by
  rw [← Text.toList_singleton, decodeBytes]
  exact fun _ _ _ percent => absurd percent other

/-! ### Characters -/

/-- A character comes back, written by its bytes or as it stands. -/
lemma decodeBytes_encodeChar (percent : set '%' = true) (c : Char) (r : List Char) :
    decodeBytes (encodeChar set c ++ r) = String.utf8EncodeChar c ++ decodeBytes r := by
  unfold encodeChar
  split
  · rw [decodeBytes_flatMap, Text.toList_singleton]
  · rename_i plain
    have other : c ≠ '%' := by
      rintro rfl
      exact plain (by simp [percent])
    exact decodeBytes_cons other r

/-- Characters come back, written by their bytes or as they stand. -/
lemma decodeBytes_encode (percent : set '%' = true) (cs : List Char) :
    decodeBytes (encode set cs) = cs.flatMap String.utf8EncodeChar := by
  induction cs with
  | nil => rfl
  | cons c cs ih =>
    unfold encode at ih ⊢
    rw [List.flatMap_cons, decodeBytes_encodeChar percent, ih, List.flatMap_cons]

/-- Different texts look different in a part that holds no percent signs of their own. -/
lemma encode_injective (percent : set '%' = true) : Function.Injective (encode set) := by
  intro cs ds same
  have bytes := congrArg (fun cs => (decodeBytes cs).map UInt8.toNat) same
  simp only [decodeBytes_encode percent, List.map_flatMap] at bytes
  exact Text.strictMono_flatMap_charBytes.injective bytes

/-- No slash stands in a part that encodes them. -/
lemma slash_not_mem_encode (slash : set '/' = true) (cs : List Char) : '/' ∉ encode set cs := by
  have byte (b : UInt8) : '/' ∉ encodeByte b := by
    have bound := b.toNat_lt
    have upper : b.toNat / 16 < 16 := by omega
    have lower : b.toNat % 16 < 16 := Nat.mod_lt _ (by decide)
    simp [encodeByte, (hexDigit_ne upper).symm, (hexDigit_ne lower).symm]
  intro mem
  obtain ⟨c, -, inside⟩ := List.mem_flatMap.1 mem
  unfold encodeChar at inside
  split at inside
  · obtain ⟨b, -, digit⟩ := List.mem_flatMap.1 inside
    exact byte b digit
  · rename_i plain
    obtain rfl := List.mem_singleton.1 inside
    exact plain (by simp [slash])

end Fleet.Url
