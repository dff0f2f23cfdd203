import StorageCompat.Files.Tree

/-!
Texts in files. A path of one name leads to a place of the working directory, and a file that holds
a text is read as that text with plain line ends.
-/

namespace StorageCompat

namespace Files.Tree

def plainText (text : String) : String :=
  String.ofList (plainLineEnds text.toList)

def HoldsText (tree : Tree) (path : Path) (text : String) : Prop :=
  ∃ place, tree.resolve path = .ok place ∧ tree.isDirectory place = false ∧
    tree.content? place = some text.toUTF8

theorem plainLineEnds_eq {text : List Char} (plain : '\r' ∉ text) : plainLineEnds text = text := by
  induction text with
  | nil => rfl
  | cons character rest ih =>
      obtain ⟨other, plain⟩ := not_or.1 (mt List.mem_cons.2 plain)
      rw [plainLineEnds, ih plain]
      · rintro _ rfl
        exact absurd rfl other
      · rintro rfl
        exact absurd rfl other

theorem plainText_eq {text : String} (plain : '\r' ∉ text.toList) : plainText text = text := by
  rw [plainText, plainLineEnds_eq plain, String.ofList_toList]

theorem resolve_name (tree : Tree) {name : String} (plain : '\x00' ∉ name.toList)
    (short : name.utf8ByteSize ≤ longestName) (below : name ≠ "..") :
    tree.resolve ⟨"", [name]⟩ = .ok ⟨some 0, [name]⟩ := by
  have text : (⟨"", [name]⟩ : Path).text.utf8ByteSize ≤ longestPath := by
    rw [Path.text, String.intercalate_singleton, String.empty_append]
    split
    case h_1 => decide
    case h_2 => exact Nat.le_trans short (by decide)
  have walked : tree.walk .working name = .ok ⟨some 0, [name]⟩ := by
    have working : tree.isDirectory .working = true := rfl
    rw [walk, if_pos working, if_neg (Nat.not_lt.2 short), if_neg below]
    rfl
  have allowed : name.contains '\x00' = false := by
    rw [String.contains_char_eq, decide_eq_false plain]
  rw [resolve, List.any_cons, allowed, List.any_nil, Bool.or_false, if_neg Bool.false_ne_true,
    if_neg (Nat.not_lt.2 text)]
  change tree.walk .working name >>= _ = _
  rw [walked]
  rfl

theorem exists?_of_resolve {tree : Tree} {path : Path} {place : Place}
    (resolved : tree.resolve path = .ok place) :
    tree.exists? path = .ok (tree.isDirectory place || (tree.content? place).isSome) := by
  rw [exists?, place?, resolved]
  rfl

theorem fromUTF8?_toUTF8 (text : String) : String.fromUTF8? text.toUTF8 = some text :=
  dif_pos text.isValidUTF8

theorem readText_of_holdsText {tree : Tree} {path : Path} {text : String}
    (holds : tree.HoldsText path text) (absent : Fault) :
    tree.readText path absent = .ok (plainText text) := by
  obtain ⟨place, resolved, file, content⟩ := holds
  rw [readText, place?, resolved]
  change (if tree.isDirectory place = true then _ else _) = _
  rw [file, content]
  simp only [fromUTF8?_toUTF8]
  rfl

end Files.Tree

end StorageCompat
