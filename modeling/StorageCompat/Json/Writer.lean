import StorageCompat.Binary64.Shortest
import StorageCompat.Value.Basic

/-!
Values written as JSON. `lines` puts each item and entry on a line of its own, indented by
two blanks a level; `line` writes one line, with every separator of lines escaped.
-/

namespace StorageCompat.Json

def floatSpelling : Binary64.Spelling := ⟨"NaN", "Infinity", "-Infinity"⟩

def hexEscape (character : Char) : List Char :=
  let digit (place : Nat) := Nat.digitChar (character.toNat / Nat.pow 16 place % 16)
  ['\\', 'u', digit 3, digit 2, digit 1, digit 0]

/-- A character within quotes: only what the format requires is escaped. -/
def escapeRequired (character : Char) : List Char :=
  match character with
  | '"' => ['\\', '"']
  | '\\' => ['\\', '\\']
  | '\x08' => ['\\', 'b']
  | '\x0c' => ['\\', 'f']
  | '\n' => ['\\', 'n']
  | '\r' => ['\\', 'r']
  | '\t' => ['\\', 't']
  | _ => if character.toNat < 0x20 then hexEscape character else [character]

/-- As `escapeRequired`, and the separators of lines beyond ASCII are escaped too. -/
def escapeSeparators (character : Char) : List Char :=
  match character.toNat with
  | 0x85 | 0x2028 | 0x2029 => hexEscape character
  | _ => escapeRequired character

def quote (escape : Char → List Char) (text : String) : String :=
  String.ofList ('"' :: text.toList.flatMap escape ++ ['"'])

inductive Style where
  | indented
  | compact
  deriving DecidableEq

namespace Style

def escape : Style → Char → List Char
  | .indented => escapeRequired
  | .compact => escapeSeparators

def lineBreak : Style → Nat → String
  | .indented, depth => "\n" ++ String.ofList (List.replicate (2 * depth) ' ')
  | .compact, _ => ""

def enclose (style : Style) (opening closing : String) (depth : Nat) :
    List String → String
  | [] => opening ++ closing
  | items =>
      opening ++ style.lineBreak (depth + 1) ++
        ("," ++ style.lineBreak (depth + 1)).intercalate items ++
        style.lineBreak depth ++ closing

end Style

mutual

def write (style : Style) (depth : Nat) : Value → String
  | .null => "null"
  | .bool true => "true"
  | .bool false => "false"
  | .int value => toString value
  | .float value => value.toText floatSpelling
  | .text value => quote style.escape value
  | .list items => style.enclose "[" "]" depth (writeItems style (depth + 1) items)
  | .object entries =>
      style.enclose "\x7b" "\x7d" depth (writeEntries style (depth + 1) entries)
  | .moment text => quote style.escape text
termination_by structural value => value

def writeItems (style : Style) (depth : Nat) : List Value → List String
  | [] => []
  | value :: rest => write style depth value :: writeItems style depth rest
termination_by structural items => items

def writeEntries (style : Style) (depth : Nat) : List (String × Value) → List String
  | [] => []
  | (name, value) :: rest =>
      (quote style.escape name ++ ": " ++ write style depth value) ::
        writeEntries style depth rest
termination_by structural entries => entries

end

def lines (value : Value) : String := write .indented 0 value

def line (value : Value) : String := write .compact 0 value

end StorageCompat.Json
