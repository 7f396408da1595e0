/-
Strings of JSON text: what is written is read back.

A string is written character by character, and a character is one or two code units: two for those
beyond the basic plane.  The reader takes the escapes back to code units (`stringUnits_stringText`)
and joins the units to characters (`joinUnits_units`).  So the text of a string shows where the
string ends and which one it is, whatever follows it.
-/
import Lineage.Json.Printer
import Lineage.Json.Reader
import Lineage.Proofs.Text.Hex

namespace Lineage

namespace Json

open Text (hexDigit hex_four hexValue?_hexDigit)

/-! ### Code units -/

/-- The code units of a character. -/
def units (c : Char) : List Nat :=
  if c.toNat < 0x10000 then [c.toNat]
  else [0xd800 + (c.toNat - 0x10000) / 0x400, 0xdc00 + (c.toNat - 0x10000) % 0x400]

lemma hexUnit?_hex {n : Nat} (h : n < 0x10000) :
    hexUnit? (hexDigit (n / 16 / 16 / 16 % 16)) (hexDigit (n / 16 / 16 % 16))
      (hexDigit (n / 16 % 16)) (hexDigit (n % 16)) = some n := by
  have hsum : 4096 * (n / 16 / 16 / 16 % 16) + 256 * (n / 16 / 16 % 16) + 16 * (n / 16 % 16) +
      n % 16 = n := by omega
  simp only [hexUnit?, hexValue?_hexDigit (Nat.mod_lt _ (by decide : 16 > 0)),
    Option.bind_eq_bind, Option.bind_some, hsum]

/-- The values of characters leave out the surrogates. -/
lemma toNat_lt (c : Char) : c.toNat < 0xd800 ∨ (0xdfff < c.toNat ∧ c.toNat < 0x110000) :=
  c.valid

lemma unitChar_toNat {c : Char} (h : c.toNat < 0x10000) : unitChar c.toNat = c := by
  have hhigh : isHighHalf c.toNat = false := by
    have := toNat_lt c
    simp only [isHighHalf, Bool.and_eq_false_iff, decide_eq_false_iff_not]
    omega
  have hlow : isLowHalf c.toNat = false := by
    have := toNat_lt c
    simp only [isLowHalf, Bool.and_eq_false_iff, decide_eq_false_iff_not]
    omega
  simp [unitChar, hhigh, hlow, Char.ofNat_toNat]

/-- A unit that is not the first half of a pair stands for itself. -/
lemma joinUnits_cons_of_not_high {n : Nat} (h : isHighHalf n = false) (rest : List Nat) :
    joinUnits (n :: rest) = unitChar n :: joinUnits rest := by
  cases rest with
  | nil => rfl
  | cons m rest => simp [joinUnits, h]

lemma joinUnits_units_append (c : Char) (rest : List Nat) :
    joinUnits (units c ++ rest) = c :: joinUnits rest := by
  have hc := toNat_lt c
  by_cases h : c.toNat < 0x10000
  · have hhigh : isHighHalf c.toNat = false := by
      simp only [isHighHalf, Bool.and_eq_false_iff, decide_eq_false_iff_not]
      omega
    rw [units, if_pos h, List.singleton_append, joinUnits_cons_of_not_high hhigh, unitChar_toNat h]
  · -- a pair: its halves carry the upper and the lower ten bits
    have hhigh : isHighHalf (0xd800 + (c.toNat - 0x10000) / 0x400) = true := by
      simp only [isHighHalf, Bool.and_eq_true, decide_eq_true_eq]
      omega
    have hlow : isLowHalf (0xdc00 + (c.toNat - 0x10000) % 0x400) = true := by
      simp only [isLowHalf, Bool.and_eq_true, decide_eq_true_eq]
      omega
    have hsum : 0x10000 + 0x400 * (0xd800 + (c.toNat - 0x10000) / 0x400 - 0xd800) +
        (0xdc00 + (c.toNat - 0x10000) % 0x400 - 0xdc00) = c.toNat := by omega
    rw [units, if_neg h]
    simp only [List.cons_append, List.nil_append, joinUnits, hhigh, hlow, Bool.and_self, ↓reduceIte,
      hsum, Char.ofNat_toNat]

/-- The units of characters, joined, are the characters. -/
lemma joinUnits_units (cs : List Char) : joinUnits (cs.flatMap units) = cs := by
  induction cs with
  | nil => rfl
  | cons c cs ih => rw [List.flatMap_cons, joinUnits_units_append, ih]

/-! ### Reading what is written -/

/-- Units in front of those read from a text. -/
def before (us : List Nat) (found : Except ReadFault (List Nat × List Char)) :
    Except ReadFault (List Nat × List Char) := do
  let (units, rest) ← found
  .ok (us ++ units, rest)

lemma before_ok (us units : List Nat) (rest : List Char) :
    before us (.ok (units, rest)) = .ok (us ++ units, rest) := rfl

lemma before_before (us₁ us₂ : List Nat) (found : Except ReadFault (List Nat × List Char)) :
    before us₁ (before us₂ found) = before (us₁ ++ us₂) found := by
  cases found with
  | error fault => rfl
  | ok pair =>
      obtain ⟨units, rest⟩ := pair
      rw [before_ok, before_ok, before_ok, List.append_assoc]

lemma stringUnits_unitEscape (opening : List Char) {n : Nat} (h : n < 0x10000) {rest : List Char}
    (hrest : rest ≠ []) :
    stringUnits opening (unitEscape n ++ rest) = before [n] (stringUnits opening rest) := by
  obtain ⟨c, cs, rfl⟩ := List.exists_cons_of_ne_nil hrest
  rw [unitEscape, hex_four, stringUnits.eq_def]
  simp only [List.cons_append, List.nil_append, hexUnit?_hex h]
  rfl

/-- A character that is written as it is. -/
lemma stringUnits_plain (opening : List Char) {c : Char} (hquote : c ≠ '"') (hslash : c ≠ '\\')
    (hcontrol : 0x20 ≤ c.toNat) (rest : List Char) :
    stringUnits opening (c :: rest) = before [c.toNat] (stringUnits opening rest) := by
  have hlt : ¬ c.toNat < 0x20 := by omega
  rw [stringUnits.eq_def]
  split
  · next heq => exact absurd heq (List.cons_ne_nil _ _)
  · next heq => exact absurd (List.cons.inj heq).1 hquote
  · next heq => exact absurd (List.cons.inj heq).1 hslash
  · next heq => exact absurd (List.cons.inj heq).1 hslash
  · next heq => exact absurd (List.cons.inj heq).1 hslash
  · next heq => exact absurd (List.cons.inj heq).1 hslash
  · next heq =>
      cases heq
      rw [if_neg hlt]
      rfl

/-- A character that is written as a backslash and a letter. -/
lemma stringUnits_letter (opening : List Char) {c e : Char} (he : escaped? e = some c)
    (rest : List Char) :
    stringUnits opening ('\\' :: e :: rest) = before [c.toNat] (stringUnits opening rest) := by
  have hne : e ≠ 'u' := by
    rintro rfl
    simp [escaped?] at he
  rw [stringUnits, he]
  · rfl
  · exact fun _ _ _ _ _ h _ => hne h
  · exact hne

/-- The four ways of writing a character: as a backslash and a letter, as it is, by its code unit,
or by the two units of a pair. -/
lemma escapeChar_cases (c : Char) :
    (∃ e, escaped? e = some c ∧ escapeChar c = ['\\', e] ∧ units c = [c.toNat]) ∨
    (c ≠ '"' ∧ c ≠ '\\' ∧ 0x20 ≤ c.toNat ∧ c.toNat ≤ 0x7e ∧ escapeChar c = [c] ∧
      units c = [c.toNat]) ∨
    (∃ n, n < 0x10000 ∧ escapeChar c = unitEscape n ∧ units c = [n]) ∨
    ∃ m n, m < 0x10000 ∧ n < 0x10000 ∧ escapeChar c = unitEscape m ++ unitEscape n ∧
      units c = [m, n] := by
  have hc := toNat_lt c
  by_cases h₁ : c = '"'
  · subst h₁; exact Or.inl ⟨'"', rfl, rfl, rfl⟩
  by_cases h₂ : c = '\\'
  · subst h₂; exact Or.inl ⟨'\\', rfl, rfl, rfl⟩
  by_cases h₃ : c = '\n'
  · subst h₃; exact Or.inl ⟨'n', rfl, rfl, rfl⟩
  by_cases h₄ : c = '\r'
  · subst h₄; exact Or.inl ⟨'r', rfl, rfl, rfl⟩
  by_cases h₅ : c = '\t'
  · subst h₅; exact Or.inl ⟨'t', rfl, rfl, rfl⟩
  by_cases h₆ : c = '\x08'
  · subst h₆; exact Or.inl ⟨'b', rfl, rfl, rfl⟩
  by_cases h₇ : c = '\x0c'
  · subst h₇; exact Or.inl ⟨'f', rfl, rfl, rfl⟩
  right
  rw [escapeChar, if_neg h₁, if_neg h₂, if_neg h₃, if_neg h₄, if_neg h₅, if_neg h₆, if_neg h₇]
  by_cases h₈ : (0x20 ≤ c.toNat && c.toNat ≤ 0x7e) = true
  · rw [if_pos h₈]
    simp only [Bool.and_eq_true, decide_eq_true_eq] at h₈
    exact Or.inl ⟨h₁, h₂, h₈.1, h₈.2, rfl, if_pos (by omega)⟩
  right
  rw [if_neg h₈]
  by_cases h₉ : c.toNat < 0x10000
  · rw [if_pos h₉]
    exact Or.inl ⟨c.toNat, h₉, rfl, if_pos h₉⟩
  · rw [if_neg h₉]
    exact Or.inr ⟨_, _, by omega, by omega, rfl, if_neg h₉⟩

/-- One character: its units are read, and the reader goes on behind it. -/
lemma stringUnits_escapeChar (opening : List Char) (c : Char) {rest : List Char}
    (hrest : rest ≠ []) :
    stringUnits opening (escapeChar c ++ rest) = before (units c) (stringUnits opening rest) := by
  rcases escapeChar_cases c with ⟨e, he, htext, hunits⟩ |
    ⟨hquote, hslash, hcontrol, -, htext, hunits⟩ | ⟨n, hn, htext, hunits⟩ |
    ⟨m, n, hm, hn, htext, hunits⟩
  · rw [htext, hunits]
    exact stringUnits_letter opening he rest
  · rw [htext, hunits]
    exact stringUnits_plain opening hquote hslash hcontrol rest
  · rw [htext, hunits, stringUnits_unitEscape opening hn hrest]
  · have hpair : unitEscape n ++ rest ≠ [] := List.append_ne_nil_of_right_ne_nil _ hrest
    rw [htext, hunits, List.append_assoc, stringUnits_unitEscape opening hm hpair,
      stringUnits_unitEscape opening hn hrest, before_before]
    rfl

/-- The text of a string up to its closing quote gives the units of the string. -/
lemma stringUnits_stringText (opening : List Char) (cs rest : List Char) :
    stringUnits opening (cs.flatMap escapeChar ++ '"' :: rest) = .ok (cs.flatMap units, rest) := by
  induction cs with
  | nil => rfl
  | cons c cs ih =>
      have hrest : cs.flatMap escapeChar ++ '"' :: rest ≠ [] :=
        List.append_ne_nil_of_right_ne_nil _ (List.cons_ne_nil _ _)
      rw [List.flatMap_cons, List.append_assoc, stringUnits_escapeChar opening c hrest, ih,
        before_ok, List.flatMap_cons]

/-- **Strings are read back.**  Behind its opening quote, the text of a string is read as the
string, and the reader stops right behind the closing quote. -/
lemma string_stringText (opening : List Char) (s : String) (rest : List Char) :
    string opening (s.toList.flatMap escapeChar ++ '"' :: rest) = .ok (s, rest) := by
  simp only [string, stringUnits_stringText, joinUnits_units, String.ofList_toList]

/-- The text of a string shows which string it is and where it ends. -/
lemma stringText_append_inj {s t : String} {r r' : List Char}
    (h : stringText s ++ r = stringText t ++ r') : s = t ∧ r = r' := by
  simp only [stringText, List.cons_append, List.append_assoc, List.nil_append, List.cons.injEq,
    true_and] at h
  have hs := string_stringText [] s r
  rw [h, string_stringText] at hs
  cases hs
  exact ⟨rfl, rfl⟩

end Json

end Lineage
