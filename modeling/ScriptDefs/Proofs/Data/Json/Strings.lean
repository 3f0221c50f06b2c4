import Mathlib.Data.List.Basic
import ScriptDefs.Data.Json.Printer
import ScriptDefs.Data.Json.Reader

/-!
# JSON strings

A text is read back from a JSON string up to the closing quote. Written in ASCII it must hold no
surrogates, since two escapes that make up a pair stand for one code point.
-/

namespace ScriptDefs

namespace CodePoint

theorem valid_toNat (c : Char) : c.toNat < 0xD800 ∨ 0xDFFF < c.toNat ∧ c.toNat < 0x110000 := c.valid

theorem ofNat?_of_valid {n : Nat} (h : n < 0xD800 ∨ 0xDFFF < n ∧ n < 0x110000) :
    ofNat? n = some (.scalar (Char.ofNat n)) := by
  have hsurrogate : ¬ (0xD800 ≤ n ∧ n < 0xE000) := by omega
  have hlt : n < 0x110000 := by omega
  unfold ofNat?
  rw [dif_neg hsurrogate, if_pos hlt]

/-- Every code point is found under its number. -/
theorem ofNat?_toNat (c : CodePoint) : ofNat? c.toNat = some c := by
  cases c with
  | scalar c => exact (ofNat?_of_valid (valid_toNat c)).trans (by rw [Char.ofNat_toNat])
  | surrogate k =>
    have hk := k.isLt
    have hsurrogate : 0xD800 ≤ 0xD800 + k.val ∧ 0xD800 + k.val < 0xE000 := by omega
    change ofNat? (0xD800 + k.val) = _
    unfold ofNat?
    rw [dif_pos hsurrogate]
    exact congrArg (fun k ↦ some (surrogate k)) (Fin.ext (Nat.add_sub_cancel_left _ _))

theorem toNat_injective : Function.Injective toNat := by
  intro c d h
  have hd := ofNat?_toNat d
  rw [← h, ofNat?_toNat] at hd
  exact Option.some.inj hd

theorem toNat_lt (c : CodePoint) : c.toNat < 0x110000 := by
  cases c with
  | scalar c =>
    have hvalid := valid_toNat c
    change c.toNat < 0x110000
    omega
  | surrogate k =>
    rw [toNat]
    omega

/-- A hexadecimal digit has the value that it was written for. -/
theorem hexDigit?_hexDigit {n : Nat} (h : n < 16) : hexDigit? (Text.hexDigit n) = some n := by
  have hall : ∀ m < 16, hexDigit? (Text.hexDigit m) = some m := by decide
  exact hall n h

end CodePoint

namespace Json

/-- The digits of an escape give back its number. -/
theorem fourHex?_hexDigits {n : Nat} (h : n < 0x10000) : ∃ a b c d,
    Text.hexDigits 4 n = [a, b, c, d] ∧ fourHex? a b c d = some n := by
  refine ⟨_, _, _, _, rfl, ?_⟩
  rw [fourHex?, CodePoint.hexDigit?_hexDigit (by omega), CodePoint.hexDigit?_hexDigit (by omega),
    CodePoint.hexDigit?_hexDigit (by omega), CodePoint.hexDigit?_hexDigit (by omega)]
  simp [Text.numberOf]
  omega

/-- An escape that is no high surrogate stands for its number, whatever follows. -/
theorem readString?_escape {a b c d : CodePoint} {n : Nat} (h : fourHex? a b c d = some n)
    (hn : ¬ (0xD800 ≤ n ∧ n < 0xDC00)) (rest : Text) :
    readString? (.scalar '\\' :: .scalar 'u' :: a :: b :: c :: d :: rest) =
      (readString? rest).map (prepend n) := by
  rw [readString?, h]
  dsimp only
  split
  · next a' b' c' d' rest' =>
    cases hlow : fourHex? a' b' c' d' with
    | none =>
      rw [readString?, hlow]
      rfl
    | some low => exact if_neg fun hand ↦ hn ⟨hand.1, hand.2.1⟩
  · rfl

theorem readString?_unicodeEscape {n : Nat} (h : n < 0x10000) (hn : ¬ (0xD800 ≤ n ∧ n < 0xDC00))
    (rest : Text) :
    readString? (unicodeEscape n ++ rest) = (readString? rest).map (prepend n) := by
  obtain ⟨a, b, c, d, htext, hnumber⟩ := fourHex?_hexDigits h
  rw [unicodeEscape, htext]
  exact readString?_escape hnumber hn rest

/-- The escapes of a surrogate pair stand for one code point. -/
theorem readString?_pair {high low : Nat} (hhigh : 0xD800 ≤ high ∧ high < 0xDC00)
    (hlow : 0xDC00 ≤ low ∧ low < 0xE000) (rest : Text) :
    readString? (unicodeEscape high ++ unicodeEscape low ++ rest) =
      (readString? rest).map (prepend (pairNumber high low)) := by
  obtain ⟨a, b, c, d, htext, hnumber⟩ := fourHex?_hexDigits (n := high) (by omega)
  obtain ⟨a', b', c', d', htext', hnumber'⟩ := fourHex?_hexDigits (n := low) (by omega)
  rw [unicodeEscape, unicodeEscape, htext, htext']
  simp only [List.cons_append, List.nil_append]
  rw [readString?, hnumber]
  simp only [hnumber']
  exact if_pos ⟨hhigh.1, hhigh.2, hlow⟩

/-- A scalar value is read back from its escapes. -/
theorem readString?_asciiEscape {n : Nat} (h : n < 0xD800 ∨ 0xDFFF < n ∧ n < 0x110000)
    (rest : Text) : readString? (asciiEscape n ++ rest) = (readString? rest).map (prepend n) := by
  unfold asciiEscape
  split
  · exact readString?_unicodeEscape (by omega) (by omega) rest
  · have hpair :
        pairNumber (0xD800 + (n - 0x10000) / 0x400) (0xDC00 + (n - 0x10000) % 0x400) = n := by
      unfold pairNumber
      omega
    rw [readString?_pair (by omega) (by omega), hpair]

/-- A code point inside a JSON string is read back; surrogates only where they stand as they are. -/
theorem readString?_escaped (ascii : Bool) {c : CodePoint} (hc : ascii = true → c.toChar?.isSome)
    (rest : Text) :
    readString? (escaped ascii c ++ rest) = (readString? rest).map fun r ↦ (c :: r.1, r.2) := by
  have hprepend : (fun r : Text × Text ↦ (c :: r.1, r.2)) = prepend c.toNat := by
    funext r
    rw [prepend, CodePoint.ofNat?_toNat]
    rfl
  have hlt := c.toNat_lt
  unfold escaped
  split
  · next h => subst h; rfl
  split
  · next h => subst h; rfl
  split
  · next h => subst h; rfl
  split
  · next h => subst h; rfl
  split
  · next h => subst h; rfl
  split
  · next h =>
    obtain rfl : c = .scalar '\x08' := CodePoint.toNat_injective h
    rfl
  split
  · next h =>
    obtain rfl : c = .scalar '\x0c' := CodePoint.toNat_injective h
    rfl
  split
  · rw [hprepend]
    exact readString?_unicodeEscape (by omega) (by omega) rest
  split
  · next hascii =>
    rw [Bool.and_eq_true, decide_eq_true_iff] at hascii
    rw [hprepend]
    cases c with
    | scalar x => exact readString?_asciiEscape (CodePoint.valid_toNat x) rest
    | surrogate _ => cases hc hascii.1
  · -- a code point that stands for itself
    rename_i hquote hbackslash _ _ _ _ _ hcontrol _
    rw [List.singleton_append, readString?, if_neg hcontrol]
    · exact hquote
    · exact fun _ _ _ _ _ h _ ↦ hbackslash h
    · exact fun _ _ h _ ↦ hbackslash h

/-- A JSON string is read back up to its closing quote. -/
theorem readString?_flatMap_escaped (ascii : Bool) {t : Text}
    (ht : ascii = true → t.isEncodable = true) (rest : Text) :
    readString? (t.flatMap (escaped ascii) ++ .scalar '"' :: rest) = some (t, rest) := by
  induction t with
  | nil => rfl
  | cons c t ih =>
    have hall (h : ascii = true) : c.toChar?.isSome ∧ Text.isEncodable t = true := by
      simpa [Text.isEncodable] using ht h
    rw [List.flatMap_cons, List.append_assoc, readString?_escaped ascii (fun h ↦ (hall h).1),
      ih fun h ↦ (hall h).2]
    rfl

end Json

end ScriptDefs
