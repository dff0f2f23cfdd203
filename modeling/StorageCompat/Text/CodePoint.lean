/-!
Characters named by their code points, and the hexadecimal digits that write these.
-/

namespace StorageCompat.Text

def hexValue? (character : Char) : Option Nat :=
  if '0' ≤ character && character ≤ '9' then some (character.toNat - '0'.toNat)
  else if 'a' ≤ character && character ≤ 'f' then some (character.toNat - 'a'.toNat + 10)
  else if 'A' ≤ character && character ≤ 'F' then some (character.toNat - 'A'.toNat + 10)
  else none

def baseValue (base : Nat) (digits : List Nat) : Nat :=
  digits.foldl (fun number digit => base * number + digit) 0

/-- The character of a code point. Half of a surrogate pair is none by itself. -/
def ofCodePoint? (number : Nat) : Option Char :=
  if number.isValidChar then some (Char.ofNat number) else none

end StorageCompat.Text
