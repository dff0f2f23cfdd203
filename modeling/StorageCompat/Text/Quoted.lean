import StorageCompat.Text.Printable

/-!
Quoted text, as values are shown in messages. Single quotes are used unless the text holds
one and no double quote; what is not printable is written by its code point.
-/

namespace StorageCompat.Text

def hexDigits : (width number : Nat) → List Char
  | 0, _ => []
  | width + 1, number => hexDigits width (number / 16) ++ [Nat.digitChar (number % 16)]

/-- A code point in two, four or eight hexadecimal digits, whichever it fits first. -/
def escapeCodePoint (character : Char) : List Char :=
  let number := character.toNat
  if number < 0x100 then '\\' :: 'x' :: hexDigits 2 number
  else if number < 0x10000 then '\\' :: 'u' :: hexDigits 4 number
  else '\\' :: 'U' :: hexDigits 8 number

def quoteCharacter (mark character : Char) : List Char :=
  if character = mark || character = '\\' then ['\\', character]
  else if character = '\n' then ['\\', 'n']
  else if character = '\r' then ['\\', 'r']
  else if character = '\t' then ['\\', 't']
  else if isPrintable character then [character]
  else escapeCodePoint character

/-- The kind of quote that needs no escape, if there is one, single quotes first. -/
def quoteMark (text : List Char) : Char :=
  if text.contains '\'' && !text.contains '"' then '"' else '\''

def quoted (text : String) : String :=
  let characters := text.toList
  let mark := quoteMark characters
  String.ofList (mark :: characters.flatMap (quoteCharacter mark) ++ [mark])

end StorageCompat.Text
