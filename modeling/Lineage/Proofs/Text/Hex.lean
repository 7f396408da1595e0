/-
Hexadecimal digits, and the digests that are written in them.

The message of a text is its characters' own bytes, one character after the other; the digest can be
followed on the list of characters, without an array of bytes in between.  It has sixty-four digits.
-/
import Mathlib.Tactic.Lemma
import Lineage.Sha256

namespace Lineage

namespace Text

lemma hexValue?_hexDigit {n : Nat} (h : n < 16) : hexValue? (hexDigit n) = some n := by
  have key : ∀ i : Fin 16, hexValue? (hexDigit i) = some i.val := by decide
  exact key ⟨n, h⟩

/-- The four digits of a code unit. -/
lemma hex_four (n : Nat) :
    hex 4 n = [hexDigit (n / 16 / 16 / 16 % 16), hexDigit (n / 16 / 16 % 16),
      hexDigit (n / 16 % 16), hexDigit (n % 16)] := rfl

lemma length_hex (width n : Nat) : (hex width n).length = width := by
  induction width generalizing n with
  | zero => rfl
  | succ width ih => rw [hex, List.length_append, ih, List.length_singleton]

lemma exists_hexDigit_of_mem_hex {c : Char} {width n : Nat} (h : c ∈ hex width n) :
    ∃ value < 16, c = hexDigit value := by
  induction width generalizing n with
  | zero => cases h
  | succ width ih =>
      rw [hex, List.mem_append, List.mem_singleton] at h
      rcases h with h | h
      · exact ih h
      · exact ⟨n % 16, Nat.mod_lt n (by decide), h⟩

end Text

namespace Sha256

/-- Going through an array of bytes from a place on lists the bytes from there. -/
lemma toList_loop (bytes : ByteArray) (i : Nat) (seen : List UInt8) :
    ByteArray.toList.loop bytes i seen = seen.reverse ++ bytes.data.toList.drop i := by
  fun_induction ByteArray.toList.loop bytes i seen with
  | case1 i seen h ih =>
      have hi : i < bytes.data.toList.length := h
      have hget : bytes.get! i = bytes.data.toList[i] := getElem!_pos bytes.data i h
      rw [ih, List.drop_eq_getElem_cons hi, List.reverse_cons, List.append_assoc,
        List.singleton_append, hget]
  | case2 i seen h =>
      have hi : bytes.data.toList.length ≤ i := Nat.not_lt.1 h
      rw [List.drop_eq_nil_of_le hi, List.append_nil]

lemma toList_toUTF8_ofList (cs : List Char) :
    (String.ofList cs).toUTF8.toList = cs.flatMap String.utf8EncodeChar := by
  rw [ByteArray.toList, toList_loop]
  simp [String.toUTF8, String.ofList, List.utf8Encode]

lemma digest_ofList (cs : List Char) :
    digest (String.ofList cs) =
      let t := final (cs.flatMap String.utf8EncodeChar)
      [t.a, t.b, t.c, t.d, t.e, t.f, t.g, t.h].flatMap fun word => Text.hex 8 word.toNat := by
  rw [digest, toList_toUTF8_ofList]

lemma length_digest (s : String) : (digest s).length = 64 := by
  simp [digest, Text.length_hex]

lemma exists_hexDigit_of_mem_digest {c : Char} {s : String} (h : c ∈ digest s) :
    ∃ value < 16, c = Text.hexDigit value := by
  obtain ⟨word, -, hc⟩ := List.mem_flatMap.1 h
  exact Text.exists_hexDigit_of_mem_hex hc

end Sha256

end Lineage
