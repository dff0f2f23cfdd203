import StorageCompat.Proofs.Layout.Extraction

/-!
What declarations say, in terms of their entries: which nodes of a contract declare a variable that
has a slot, and which texts describe the type of the variable.
-/

namespace StorageCompat.Layout

structure HasSlot (declaration : List (String × Value)) : Prop where
  declares : declaration.lookup "nodeType" = some (.text "VariableDeclaration")
  notConstant : ∀ constant ∈ declaration.lookup "constant", constant.holds = false
  notImmutable : declaration.lookup "mutability" ≠ some (.text "immutable")

def Tells (declaration : List (String × Value)) (wanted : TypeDescription) (text : String) : Prop :=
  ∃ descriptions, declaration.lookup "typeDescriptions" = some (.object descriptions) ∧
    descriptions.lookup wanted.entry = some (.text text)

theorem entryOrNull_same_text_iff (name text : String) (entries : List (String × Value)) :
    (SyntaxTree.entryOrNull name entries).same (.text text) = true ↔
      entries.lookup name = some (.text text) := by
  rw [Value.same_text_iff, SyntaxTree.entryOrNull]
  cases entries.lookup name with
  | none => simp
  | some value => simp

theorem entryOrNull_holds_iff (name : String) (entries : List (String × Value)) :
    (SyntaxTree.entryOrNull name entries).holds = false ↔
      ∀ value ∈ entries.lookup name, value.holds = false := by
  rw [SyntaxTree.entryOrNull]
  cases entries.lookup name with
  | none => simp [Value.holds]
  | some value => simp

theorem kept?_object_iff (declaration kept : List (String × Value)) :
    kept? (.object declaration) = some kept ↔ declaration = kept ∧ HasSlot declaration := by
  have kind : SyntaxTree.isNode variableDeclaration (.object declaration) = true ↔
      declaration.lookup "nodeType" = some (.text "VariableDeclaration") :=
    entryOrNull_same_text_iff "nodeType" "VariableDeclaration" declaration
  have inside : isOutsideStorage declaration = false ↔
      (∀ constant ∈ declaration.lookup "constant", constant.holds = false) ∧
        declaration.lookup "mutability" ≠ some (.text "immutable") := by
    rw [isOutsideStorage, Bool.or_eq_false_iff, entryOrNull_holds_iff, Bool.eq_false_iff,
      ne_eq, entryOrNull_same_text_iff]
  have slot : (SyntaxTree.isNode variableDeclaration (.object declaration) &&
      !isOutsideStorage declaration) = true ↔ HasSlot declaration := by
    rw [Bool.and_eq_true, Bool.not_eq_true', kind, inside]
    exact ⟨fun parts => ⟨parts.1, parts.2.1, parts.2.2⟩,
      fun slot => ⟨slot.declares, slot.notConstant, slot.notImmutable⟩⟩
  rw [kept?]
  split
  case isTrue keeps => simp [slot.1 keeps]
  case isFalse keeps => simp [mt slot.2 keeps]

theorem kept?_eq_some_iff (node : Value) (declaration : List (String × Value)) :
    kept? node = some declaration ↔ node = .object declaration ∧ HasSlot declaration := by
  cases node with
  | object entries =>
      rw [kept?_object_iff, Value.object.injEq]
      apply and_congr_right
      intro same
      rw [same]
  | _ => simp [kept?]

theorem typeText?_eq_some_iff_tells (wanted : TypeDescription)
    (declaration : List (String × Value)) (text : String) :
    typeText? wanted declaration = some text ↔ Tells declaration wanted text := by
  rw [typeText?_eq_some_iff, typeDescriptions, SyntaxTree.entryOrNull, Tells]
  cases declaration.lookup "typeDescriptions" with
  | none => simp [Value.holds, Value.entry?]
  | some given =>
      simp only [Option.getD_some, Option.some.injEq]
      split
      case isTrue holds =>
        cases given with
        | object descriptions => simp [Value.entry?]
        | _ => simp [Value.entry?]
      case isFalse empty =>
        -- An empty object is replaced by another one.
        cases given with
        | object descriptions =>
            obtain rfl : descriptions = [] := by simpa [Value.holds] using empty
            simp [Value.entry?]
        | _ => simp [Value.entry?]

end StorageCompat.Layout
