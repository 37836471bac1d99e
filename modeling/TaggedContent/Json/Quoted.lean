import TaggedContent.Text

namespace TaggedContent
namespace Json

/-!
# Quoted strings

Quotes, backslashes and control characters are escaped when a string is written;
all else stands for itself.  When one is read every escape of the format is
accepted, and two `\u` escapes may write one character beyond the basic plane.
-/

/-- The text of one character inside quotes. -/
def escapeLetter (letter : Char) : List Char :=
  match letter with
  | '"' => ['\\', '"']
  | '\\' => ['\\', '\\']
  | '\x08' => ['\\', 'b']
  | '\x0C' => ['\\', 'f']
  | '\n' => ['\\', 'n']
  | '\r' => ['\\', 'r']
  | '\t' => ['\\', 't']
  | _ =>
      if letter.toNat < 0x20 then
        ['\\', 'u', '0', '0', (letter.toNat / 16).digitChar, (letter.toNat % 16).digitChar]
      else [letter]

def quoted (text : List Char) : List Char :=
  '"' :: (text.flatMap escapeLetter ++ ['"'])

/-- The number that the next four hexadecimal digits write. -/
def fourDigits? : List Char → Option (Nat × List Char)
  | first :: second :: third :: fourth :: rest =>
      let digits := [first, second, third, fourth]
      if digits.all Hex.isDigit then some (Hex.value digits, rest) else none
  | _ => none

/-- The character after `\u`.  A high surrogate has to be followed by the escape of
a low one, and a low one cannot stand alone. -/
def unicodeEscape? (letters : List Char) : Option (Char × List Char) :=
  (fourDigits? letters).bind fun (unit, rest) =>
    if 0xDC00 ≤ unit ∧ unit ≤ 0xDFFF then none
    else if 0xD800 ≤ unit ∧ unit ≤ 0xDBFF then
      match rest with
      | '\\' :: 'u' :: rest =>
          (fourDigits? rest).bind fun (low, rest) =>
            if 0xDC00 ≤ low ∧ low ≤ 0xDFFF then
              some (Char.ofNat (0x10000 + (unit - 0xD800) * 0x400 + (low - 0xDC00)), rest)
            else none
      | _ => none
    else some (Char.ofNat unit, rest)

/-- The character after a backslash. -/
def escape? : List Char → Option (Char × List Char)
  | [] => none
  | letter :: rest =>
      match letter with
      | '"' => some ('"', rest)
      | '\\' => some ('\\', rest)
      | '/' => some ('/', rest)
      | 'b' => some ('\x08', rest)
      | 'f' => some ('\x0C', rest)
      | 'n' => some ('\n', rest)
      | 'r' => some ('\r', rest)
      | 't' => some ('\t', rest)
      | 'u' => unicodeEscape? rest
      | _ => none

/-- The characters up to the closing quote, in at most so many steps. -/
def unquoteWithin : Nat → List Char → Option (List Char × List Char)
  | 0, _ => none
  | _ + 1, [] => none
  | steps + 1, letter :: rest =>
      if letter = '"' then some ([], rest)
      else if letter = '\\' then
        (escape? rest).bind fun (letter, rest) =>
          (unquoteWithin steps rest).map fun (text, rest) => (letter :: text, rest)
      else if letter.toNat < 0x20 then none
      else (unquoteWithin steps rest).map fun (text, rest) => (letter :: text, rest)

/-- The string that the text after an opening quote begins with, and what follows
its closing quote. -/
def unquote? (letters : List Char) : Option (List Char × List Char) :=
  unquoteWithin letters.length letters

end Json
end TaggedContent
