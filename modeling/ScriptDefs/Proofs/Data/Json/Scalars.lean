import ScriptDefs.Proofs.Data.Assoc
import ScriptDefs.Proofs.Data.JsonForm
import ScriptDefs.Proofs.Data.Json.Number
import ScriptDefs.Proofs.Data.Json.Strings

/-!
# Scalars in JSON text

A scalar is written unless it is an integer with too many digits, and what is written for it is read
back as it, whatever follows that can follow a value.
-/

namespace ScriptDefs

namespace Json

variable {rest : Text}

/-- What can follow a value inside a JSON text: nothing, white space, a comma or a closing
bracket. -/
def Follows (rest : Text) : Prop :=
  ∀ c ∈ rest.head?, isSpace c = true ∨ c = .scalar ',' ∨ c = .scalar ']' ∨ c = .scalar '\x7d'

theorem isSpace_iff {c : CodePoint} : isSpace c = true ↔
    c = .scalar ' ' ∨ c = .scalar '\t' ∨ c = .scalar '\n' ∨ c = .scalar '\r' := by
  simp [isSpace, or_assoc]

theorem Follows.endsNumber (h : Follows rest) : EndsNumber rest := by
  have hall : ∀ c ∈ rest.head?,
      CodePoint.asciiDigit? c = none ∧ c ≠ .scalar '.' ∧ c ≠ .scalar 'e' ∧ c ≠ .scalar 'E' := by
    intro c hc
    have hcases := h c hc
    rw [isSpace_iff] at hcases
    rcases hcases with (rfl | rfl | rfl | rfl) | rfl | rfl | rfl <;> exact ⟨rfl, by decide⟩
  exact ⟨fun c hc ↦ (hall c hc).1, fun c hc ↦ (hall c hc).2.1, fun c hc ↦ (hall c hc).2.2⟩

/-- A code point that a scalar can begin with. -/
structure StartsScalar (c : CodePoint) : Prop where
  space : isSpace c = false
  bracket : c ∉ [.scalar '[', .scalar ']', .scalar '\x7b']

theorem startsScalar_of_isDigit {c : Char} (h : c.isDigit = true) : StartsScalar (.scalar c) := by
  constructor
  · rw [Bool.eq_false_iff, ne_eq, isSpace_iff]
    simp only [CodePoint.scalar.injEq]
    rintro (rfl | rfl | rfl | rfl) <;> cases h
  · simp only [List.mem_cons, CodePoint.scalar.injEq, List.not_mem_nil, or_false]
    rintro (rfl | rfl | rfl) <;> cases h

/-- A number is no word. -/
theorem find?_words_of_isDigit (negative : Bool) {c : Char} (h : c.isDigit = true) (t : Text) :
    words.find? (fun w ↦ w.1.isPrefixOf (Binary64.signed negative (.scalar c :: t))) = none := by
  rw [List.find?_eq_none]
  intro w hw
  rw [List.isPrefixOf_iff_prefix]
  rintro ⟨u, hu⟩
  simp only [words, List.mem_cons, List.not_mem_nil, or_false] at hw
  rcases hw with rfl | rfl | rfl | rfl | rfl | rfl <;> cases negative <;> cases hu <;> cases h

/-- What a text needs to be read back: written in ASCII it holds no surrogates. -/
def Legible (ascii : Bool) (t : Text) : Prop := ascii = true → t.isEncodable = true

theorem readScalar_number {negative : Bool} {c : Char} {t : Text}
    {r : Except ReadError (Scalar × Text)} (hc : c.isDigit = true)
    (h : readNumber (Binary64.signed negative (.scalar c :: t)) = r) :
    readScalar (Binary64.signed negative (.scalar c :: t)) = r := by
  have hwords := find?_words_of_isDigit negative hc t
  unfold readScalar
  split
  · next heq =>
    cases negative
    · cases heq
      cases hc
    · cases heq
  · rw [hwords]
    exact h

/-- A text of a scalar begins like one and is read back as it, whatever follows. -/
structure DenotesScalar (t : Text) (s : Scalar) : Prop where
  starts : ∃ c t', t = c :: t' ∧ StartsScalar c
  reads : ∀ {rest : Text}, Follows rest → readScalar (t ++ rest) = .ok (s, rest)

theorem DenotesScalar.of_number {negative : Bool} {t : Text} {s : Scalar} {c : Char} {t' : Text}
    (hc : c.isDigit = true) (ht : t = .scalar c :: t')
    (h : ∀ {rest : Text}, Follows rest →
      readNumber (Binary64.signed negative t ++ rest) = .ok (s, rest)) :
    DenotesScalar (Binary64.signed negative t) s where
  starts := by
    subst ht
    cases negative with
    | true => exact ⟨_, _, rfl, rfl, by decide⟩
    | false => exact ⟨_, _, rfl, startsScalar_of_isDigit hc⟩
  reads := fun hrest ↦ by
    have hread := h hrest
    rw [signed_append, ht, List.cons_append] at hread ⊢
    exact readScalar_number hc hread

theorem denotes_ofInt {n : Int} (hn : n.natAbs < Nat.pow 10 DigitLimit.limit) :
    DenotesScalar (Text.ofInt n) (.int n) := by
  obtain ⟨c, cs, hcs⟩ := List.exists_cons_of_ne_nil (Nat.toDigits_ne_nil (b := 10) (n := n.natAbs))
  have hc : c.isDigit = true := Text.isDigit_of_mem_toDigits n.natAbs c (hcs ▸ List.mem_cons_self)
  rw [ofInt_eq]
  refine .of_number hc (congrArg _ hcs) fun hrest ↦ ?_
  rw [← ofInt_eq]
  exact readNumber_ofInt hn hrest.endsNumber

theorem denotes_toText (x : Binary64) : DenotesScalar (x.toText numberNames) (.float x) := by
  cases x with
  | finite negative rank =>
    obtain ⟨ws, fs, e, h⟩ := exists_writes rank
    obtain ⟨c, cs, rfl⟩ := List.exists_cons_of_ne_nil h.whole.ne_nil
    refine .of_number (h.whole.isDigit c List.mem_cons_self) h.text fun hrest ↦ ?_
    exact readNumber_magnitudeText negative rank hrest.endsNumber
  | infinite negative =>
    cases negative <;> exact ⟨⟨_, _, rfl, rfl, by decide⟩, fun _ ↦ rfl⟩
  | nan => exact ⟨⟨_, _, rfl, rfl, by decide⟩, fun _ ↦ rfl⟩

theorem denotes_stringText {ascii : Bool} {t : Text} (ht : Legible ascii t) :
    DenotesScalar (stringText ascii t) (.text t) where
  starts := ⟨_, _, rfl, rfl, by decide⟩
  reads {rest} _ := by
    have hread := readString?_flatMap_escaped ascii ht rest
    rw [stringText, List.append_assoc, List.cons_append, readScalar]
    dsimp only [List.singleton_append]
    rw [hread]

theorem isWritable_int_iff {n : Int} :
    (Scalar.int n).isWritable = true ↔ n.natAbs < Nat.pow 10 DigitLimit.limit := by
  unfold Scalar.isWritable
  exact decide_eq_true_iff

/-- An integer is written unless it has too many digits. -/
theorem integerText_outcome (n : Int) :
    Outcome (fun t ↦ (Scalar.int n).isWritable = true ∧ DenotesScalar t (.int n))
      (fun e ↦ (Scalar.int n).isWritable = false ∧ e = .digitLimit .writing) (integerText n) := by
  unfold integerText DigitLimit.integerText
  rw [← Bool.not_eq_true, isWritable_int_iff]
  by_cases h : n.natAbs < Nat.pow 10 DigitLimit.limit
  · rw [if_neg (Nat.not_le.mpr h)]
    exact .ok ⟨h, denotes_ofInt h⟩
  · rw [if_pos (Nat.le_of_not_lt h)]
    exact .error ⟨h, rfl⟩

/-- A scalar is written unless it is an integer with too many digits, and read back. -/
theorem scalarText_outcome {ascii : Bool} {s : Scalar} (hkind : s.kind ∉ [.date, .moment, .bytes])
    (ht : ∀ t, s = .text t → Legible ascii t) :
    Outcome (fun t ↦ s.isWritable = true ∧ DenotesScalar t s)
      (fun e ↦ s.isWritable = false ∧ e = .digitLimit .writing) (scalarText ascii s) := by
  cases s with
  | null => exact .ok ⟨rfl, ⟨_, _, rfl, rfl, by decide⟩, fun _ ↦ rfl⟩
  | bool b => cases b <;> exact .ok ⟨rfl, ⟨_, _, rfl, rfl, by decide⟩, fun _ ↦ rfl⟩
  | int n => exact integerText_outcome n
  | float x => exact .ok ⟨rfl, denotes_toText x⟩
  | text t => exact .ok ⟨rfl, denotes_stringText (ht t rfl)⟩
  | date _ | moment _ | bytes _ => exact absurd (by simp [Scalar.kind]) hkind

end Json

end ScriptDefs
