import TaggedContent.Json.Quoted

namespace TaggedContent
namespace Json

/-!
# Quoted strings read back

A character is written as itself or as an escape.  In the first case it neither ends the
string nor begins an escape, and in the second the escape is read as this character.  So
reading takes one step for each character that was written, and one for the closing
quote.
-/

/-- The text after a backslash is read as the character. -/
def Escapes (code : List Char) (letter : Char) : Prop :=
  ∀ rest, escape? (code ++ rest) = some (letter, rest)

theorem digit?_digitChar : ∀ digit < 16, Hex.digit? digit.digitChar = some digit := by
  decide

/-- Two zeros and two digits write a character of the first two rows. -/
theorem escapes_hex {letter : Char} (control : letter.toNat < 0x20) :
    Escapes ['u', '0', '0', (letter.toNat / 16).digitChar, (letter.toNat % 16).digitChar]
      letter := by
  intro rest
  have high := digit?_digitChar (letter.toNat / 16) (by omega)
  have low := digit?_digitChar (letter.toNat % 16) (by omega)
  have zero : Hex.digit? '0' = some 0 := by decide
  have unit : fourDigits? ('0' :: '0' :: (letter.toNat / 16).digitChar ::
      (letter.toNat % 16).digitChar :: rest) = some (letter.toNat, rest) := by
    have value : 16 * (letter.toNat / 16) + letter.toNat % 16 = letter.toNat := by omega
    simp [fourDigits?, Hex.isDigit, Hex.value, high, low, zero, value]
  have plane : ¬ (0xDC00 ≤ letter.toNat ∧ letter.toNat ≤ 0xDFFF) := by omega
  have whole : ¬ (0xD800 ≤ letter.toNat ∧ letter.toNat ≤ 0xDBFF) := by omega
  simp only [List.cons_append, List.nil_append, escape?, unicodeEscape?, unit, Option.bind_some,
    if_neg plane, if_neg whole, Char.ofNat_toNat]

theorem escapeLetter_eq (letter : Char) :
    (escapeLetter letter = [letter] ∧ letter ≠ '"' ∧ letter ≠ '\\' ∧ ¬ letter.toNat < 0x20) ∨
      ∃ code, escapeLetter letter = '\\' :: code ∧ Escapes code letter := by
  unfold escapeLetter
  split
  case h_1 | h_2 | h_3 | h_4 | h_5 | h_6 | h_7 => exact Or.inr ⟨_, rfl, fun _ => rfl⟩
  case h_8 notQuote notBackslash _ _ _ _ _ =>
    split
    case isTrue control => exact Or.inr ⟨_, rfl, escapes_hex control⟩
    case isFalse printed => exact Or.inl ⟨rfl, notQuote, notBackslash, printed⟩

/-- The characters are read one by one, by induction over the text. -/
theorem unquoteWithin_flatMap (text rest : List Char) {steps : Nat} (enough : text.length < steps) :
    unquoteWithin steps (text.flatMap escapeLetter ++ '"' :: rest) = some (text, rest) := by
  induction text generalizing steps with
  | nil =>
      cases steps with
      | zero => cases enough
      | succ steps => simp [unquoteWithin]
  | cons letter text inductionHypothesis =>
      cases steps with
      | zero => cases enough
      | succ steps =>
          have later := inductionHypothesis (Nat.lt_of_succ_lt_succ enough)
          rw [List.flatMap_cons, List.append_assoc]
          rcases escapeLetter_eq letter with ⟨same, notQuote, notBackslash, printed⟩ |
            ⟨code, same, escapes⟩
          · simp only [same, List.singleton_append, unquoteWithin, if_neg notQuote,
              if_neg notBackslash, if_neg printed, later, Option.map_some]
          · have backslash : ¬ '\\' = '"' := by decide
            rw [same, List.cons_append, unquoteWithin, if_neg backslash, if_pos rfl, escapes]
            simp only [Option.bind_some, later, Option.map_some]

theorem length_le_flatMap_escapeLetter (text : List Char) :
    text.length ≤ (text.flatMap escapeLetter).length := by
  induction text with
  | nil => exact Nat.le_refl 0
  | cons letter text inductionHypothesis =>
      rw [List.flatMap_cons, List.length_append, List.length_cons]
      rcases escapeLetter_eq letter with ⟨same, _⟩ | ⟨code, same, _⟩
      all_goals
        rw [same, List.length_cons]
        omega

/-- What a quoted text is read as, after its opening quote. -/
theorem unquote?_quoted (text rest : List Char) :
    unquote? (text.flatMap escapeLetter ++ '"' :: rest) = some (text, rest) := by
  apply unquoteWithin_flatMap
  have shorter := length_le_flatMap_escapeLetter text
  rw [List.length_append, List.length_cons]
  omega

end Json
end TaggedContent
