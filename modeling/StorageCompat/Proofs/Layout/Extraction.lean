import StorageCompat.Layout.Extraction
import StorageCompat.Proofs.Success

/-!
What the layout of a contract is made of. Of the contract's nodes only the declarations of
variables with a slot matter; each gives one variable with the key and the label of its type, and
the whole is refused as soon as one of them is.
-/

open StorageCompat.SyntaxTree (isNode)

namespace StorageCompat.Layout

def kept? : Value → Option (List (String × Value))
  | .object declaration =>
      if isNode variableDeclaration (.object declaration) && !isOutsideStorage declaration then
        some declaration
      else none
  | _ => none

def kept (nodes : List Value) : List (List (String × Value)) :=
  nodes.filterMap kept?

def typeText? (wanted : TypeDescription) (declaration : List (String × Value)) : Option String :=
  match Value.entry? wanted.entry (typeDescriptions declaration) with
  | .ok (some (.text text)) => some text
  | _ => none

def typeKey? (declaration : List (String × Value)) : Option String :=
  (typeText? .identifier declaration).bind fun identifier =>
    (TypeKey.ofIdentifier identifier).result.toOption

theorem result_declared? (contract node : Value) :
    (declared? contract node).result =
      match kept? node with
      | some declaration => do
          let slot ← (declared contract declaration).result
          return some slot
      | none => .ok none := by
  cases node with
  | object declaration =>
      rw [declared?, kept?]
      cases isNode variableDeclaration (.object declaration) with
      | false => rfl
      | true =>
          cases isOutsideStorage declaration with
          | true => rfl
          | false =>
              simp only [Bool.false_eq_true, if_true, if_false, Logged.result_bind,
                Logged.result_pure]
              rfl
  | _ => rfl

theorem result_filterMapM_declared? (contract : Value) (nodes : List Value) :
    (nodes.filterMapM (declared? contract)).result =
      (kept nodes).mapM fun declaration => (declared contract declaration).result := by
  rw [Logged.result_filterMapM]
  induction nodes with
  | nil => rfl
  | cons node rest ih =>
      rw [List.filterMapM_cons, result_declared?, kept, List.filterMap_cons, ih]
      cases kept? node with
      | none => rfl
      | some declaration =>
          simp only [List.mapM_cons, bind_assoc, pure_bind]
          rfl

theorem ofContract_result (definition : Value) :
    (ofContract definition).result = do
      let contract ← definition.entry "name"
      let found ← nodes definition
      let slots ← (kept found).mapM fun declaration => (declared contract declaration).result
      return ofLabelled slots := by
  simp only [ofContract, Logged.result_bind, Logged.result_lift, Logged.result_note,
    Logged.result_pure, result_filterMapM_declared?]
  rfl

theorem describedAs_eq_ok_iff (contract : Value) (declaration : List (String × Value))
    (wanted : TypeDescription) (given : Option Value) (text : String) :
    describedAs contract declaration wanted given = .ok text ↔ given = some (.text text) := by
  unfold describedAs
  split
  case h_1 found => simp
  case h_2 other =>
    constructor
    · intro absurd
      cases absurd
    · intro same
      exact absurd same (other text)

theorem typeText?_eq_some_iff (wanted : TypeDescription) (declaration : List (String × Value))
    (text : String) :
    typeText? wanted declaration = some text ↔
      Value.entry? wanted.entry (typeDescriptions declaration) = .ok (some (.text text)) := by
  unfold typeText?
  split
  case h_1 found => simp [found]
  case h_2 other =>
    constructor
    · intro absurd
      cases absurd
    · intro same
      exact absurd same (other text)

theorem describe_eq_ok_iff (contract : Value) (declaration : List (String × Value))
    (identifier label : String) :
    describe contract declaration = .ok (identifier, label) ↔
      typeText? .identifier declaration = some identifier ∧
        typeText? .label declaration = some label := by
  rw [typeText?_eq_some_iff, typeText?_eq_some_iff, describe]
  simp only [bind_eq_ok_iff, pure_eq_ok_iff, describedAs_eq_ok_iff, Prod.mk.injEq]
  constructor
  · rintro ⟨_, first, _, second, _, rfl, _, rfl, rfl, rfl⟩
    exact ⟨first, second⟩
  · rintro ⟨first, second⟩
    exact ⟨_, first, _, second, _, rfl, _, rfl, rfl, rfl⟩

theorem typeKey?_eq_some_iff (declaration : List (String × Value)) (key : String) :
    typeKey? declaration = some key ↔
      ∃ identifier, typeText? .identifier declaration = some identifier ∧
        (TypeKey.ofIdentifier identifier).result = .ok key := by
  simp only [typeKey?, Option.bind_eq_some_iff, toOption_eq_some_iff]

theorem entry_object_eq_ok_iff (name : String) (entries : List (String × Value)) (value : Value) :
    (Value.object entries).entry name = .ok value ↔ entries.lookup name = some value := by
  simp only [Value.entry]
  cases entries.lookup name <;> simp

/-- What a kept declaration gives: a variable of the contract under the declaration's name, with
the key of its type, and the label of the type. -/
theorem declared_eq_ok_iff (contract : Value) (declaration : List (String × Value)) (slot : Slot)
    (label : Value) :
    (declared contract declaration).result = .ok (slot, label) ↔
      ∃ name key text, declaration.lookup "name" = some name ∧ typeKey? declaration = some key ∧
        typeText? .label declaration = some text ∧ slot = ⟨contract, name, key⟩ ∧
        label = .text text := by
  simp only [declared, Logged.result_bind, Logged.result_lift, Logged.result_pure, bind_eq_ok_iff,
    Prod.exists, describe_eq_ok_iff, entry_object_eq_ok_iff, typeKey?_eq_some_iff,
    Except.ok.injEq, Prod.mk.injEq]
  constructor
  · rintro ⟨identifier, text, ⟨described, labelled⟩, key, found, name, named, rfl, rfl⟩
    exact ⟨name, key, text, named, ⟨identifier, described, found⟩, labelled, rfl, rfl⟩
  · rintro ⟨name, key, text, named, ⟨identifier, described, found⟩, labelled, rfl, rfl⟩
    exact ⟨identifier, text, ⟨described, labelled⟩, key, found, name, named, rfl, rfl⟩

end StorageCompat.Layout
