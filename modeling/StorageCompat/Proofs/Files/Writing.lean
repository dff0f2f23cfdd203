import StorageCompat.Proofs.Files.Reading
import StorageCompat.Proofs.Success

/-!
Files that are written. Writing a file leaves the directories as they are, so the path of the file
still leads to its place, and there the text is found that was written.
-/

namespace StorageCompat.Files.Tree

theorem lookup_enterFile (place : Place) (content : ByteArray)
    (files : List (Place × ByteArray)) :
    (enterFile place content files).lookup place = some content := by
  induction files with
  | nil => simp [enterFile]
  | cons file rest ih =>
      obtain ⟨other, old⟩ := file
      by_cases same : other = place
      · simp [enterFile, same]
      · simp [enterFile, same, List.lookup_cons, ih, beq_false_of_ne (Ne.symm same)]

/-- If a name leads anywhere, only the directories have a part in where it leads. -/
theorem walk_eq_ok_iff (tree : Tree) (place next : Place) (name : String) :
    tree.walk place name = .ok next ↔
      tree.isDirectory place = true ∧ name.utf8ByteSize ≤ longestName ∧
        (if name = ".." then place.up else place.child name) = next := by
  rw [walk, ← Nat.not_lt]
  cases tree.isDirectory place with
  | false =>
      have ended : (if (tree.content? place).isSome = true then Except.error DeadEnd.blocked
          else .error .missing : Except DeadEnd Place) ≠ .ok next := by
        intro absurd
        split at absurd <;> cases absurd
      exact iff_of_false ended (fun absurd => Bool.false_ne_true absurd.1)
  | true =>
      rw [if_pos rfl]
      split
      case isTrue long =>
        refine iff_of_false ?_ (fun absurd => absurd.2.1 long)
        rintro ⟨⟩
      case isFalse short =>
        rw [Except.ok.injEq]
        exact ⟨fun same => ⟨rfl, short, same⟩, fun led => led.2.2⟩

section Directories

variable {tree tree' : Tree} (same : tree'.directories = tree.directories)

include same

theorem isDirectory_congr (place : Place) : tree'.isDirectory place = tree.isDirectory place := by
  rw [isDirectory, isDirectory, same]

theorem foldlM_walk_congr {names : List String} {start place : Place}
    (led : names.foldlM tree.walk start = .ok place) :
    names.foldlM tree'.walk start = .ok place := by
  induction names generalizing start with
  | nil => exact led
  | cons name rest ih =>
      rw [List.foldlM_cons, bind_eq_ok_iff] at led ⊢
      obtain ⟨next, walked, led⟩ := led
      rw [walk_eq_ok_iff, ← isDirectory_congr same, ← walk_eq_ok_iff] at walked
      exact ⟨next, walked, ih led⟩

/-- A path that leads to a place does so in every tree with the same directories. -/
theorem resolve_congr {path : Path} {place : Place} (resolved : tree.resolve path = .ok place) :
    tree'.resolve path = .ok place := by
  unfold resolve at resolved ⊢
  split
  case isTrue null =>
    rw [if_pos null] at resolved
    cases resolved
  case isFalse plain =>
    rw [if_neg plain] at resolved
    split
    case isTrue long =>
      rw [if_pos long] at resolved
      cases resolved
    case isFalse short =>
      rw [if_neg short] at resolved
      exact foldlM_walk_congr same resolved

end Directories

theorem holdsText_of_writeText {tree tree' : Tree} {path : Path} {text : String}
    (written : tree.writeText path text = .ok tree') : tree'.HoldsText path text := by
  unfold writeText at written
  split at written
  case h_1 => cases written
  case h_2 place resolved =>
    split at written
    case isTrue => cases written
    case isFalse file =>
      cases written
      let written : Tree := { tree with files := enterFile place text.toUTF8 tree.files }
      have same : written.directories = tree.directories := rfl
      refine ⟨place, resolve_congr same resolved, ?_, lookup_enterFile _ _ _⟩
      rw [Bool.not_eq_true] at file
      exact file

theorem holdsText_of_save {tree tree' : Tree} {path : Path} {text : String}
    (saved : tree.save path text = .ok tree') : tree'.HoldsText path text := by
  obtain ⟨made, _, written⟩ := (bind_eq_ok_iff _ _ _).1 saved
  exact holdsText_of_writeText written

theorem makeDirectories_working (tree : Tree) (name : String) :
    tree.makeDirectories (Path.parent ⟨"", [name]⟩) = .ok tree := rfl

/-- A short name alone can be saved under, unless it is that of a directory. -/
theorem exists_save (tree : Tree) {name : String} (plain : '\x00' ∉ name.toList)
    (short : name.utf8ByteSize ≤ longestName) (below : name ≠ "..")
    (file : tree.isDirectory ⟨some 0, [name]⟩ = false) (text : String) :
    ∃ tree', tree.save ⟨"", [name]⟩ text = .ok tree' := by
  rw [save, makeDirectories_working]
  change ∃ tree', tree.writeText ⟨"", [name]⟩ text = .ok tree'
  rw [writeText, tree.resolve_name plain short below]
  refine ⟨_, if_neg ?_⟩
  rw [file]
  exact Bool.false_ne_true

end StorageCompat.Files.Tree
