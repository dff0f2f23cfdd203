import StorageCompat.Fault
import StorageCompat.Text.Digit

/-!
The types of structs, enums and contracts carry the number of the node that declares them,
behind the parenthesis that closes their name. A change elsewhere in the sources changes the
numbers, so they are erased before types are compared.
-/

namespace StorageCompat.TypeKey

def declaredKinds : List (List Char) :=
  ["t_struct(".toList, "t_enum(".toList, "t_contract(".toList]

def opensDeclared (text : List Char) : Bool :=
  declaredKinds.any fun word => word.isPrefixOf text

def dropId (text : List Char) : List Char :=
  match text.dropWhile Text.isDecimalDigit with
  | '_' :: rest => if text.head?.any Text.isDecimalDigit then rest else '_' :: rest
  | rest => rest

/-- Erases the number behind the parenthesis that closes the first one opened, where `depth`
parentheses are open already. -/
def dropIdBehind : (depth : Nat) → List Char → List Char
  | _, [] => []
  | depth, '(' :: rest => '(' :: dropIdBehind (depth + 1) rest
  | 0, ')' :: rest => ')' :: dropIdBehind 0 rest
  | 1, ')' :: rest => ')' :: dropId rest
  | depth + 2, ')' :: rest => ')' :: dropIdBehind (depth + 1) rest
  | depth, character :: rest => character :: dropIdBehind depth rest

/-- The first parenthesis opened is closed, where `depth` are open already. -/
def closes : (depth : Nat) → List Char → Bool
  | _, [] => false
  | depth, '(' :: rest => closes (depth + 1) rest
  | 0, ')' :: rest => closes 0 rest
  | 1, ')' :: _ => true
  | depth + 2, ')' :: rest => closes (depth + 1) rest
  | depth, _ :: rest => closes depth rest

def eraseIds : List Char → List Char
  | [] => []
  | character :: rest =>
      let later := eraseIds rest
      if opensDeclared (character :: rest) then dropIdBehind 0 (character :: later)
      else character :: later

/-- The text in front of the first declared type whose parenthesis is never closed, and the
text from there. -/
def firstUnclosed? : List Char → Option (List Char × List Char)
  | [] => none
  | character :: rest =>
      if opensDeclared (character :: rest) && !closes 0 (character :: rest) then
        some ([], character :: rest)
      else (firstUnclosed? rest).map fun found => (character :: found.1, found.2)

/-- Text with the numbers erased, if every declared type is closed. A refusal shows what the
text has become up to the first one that is not. -/
def withoutIds (text : List Char) : Except Fault (List Char) :=
  match firstUnclosed? text with
  | some (before, rest) => .error (.unclosed (String.ofList (eraseIds before ++ rest)))
  | none => .ok (eraseIds text)

example : withoutIds "t_array(t_enum(E)7)".toList =
    .ok "t_array(t_enum(E))".toList := rfl

example : withoutIds "t_struct(A)5_t_enum(B".toList =
    .error (.unclosed "t_struct(A)t_enum(B") := rfl

end StorageCompat.TypeKey
