import StorageCompat.Proofs.Layout.TypeLabels
import StorageCompat.Proofs.TypeKey.Renumbering

/-!
Numbers of declaring nodes have no part in layouts. Two contracts whose kept declarations differ in
nothing but such numbers have the same layout, with the same variables and the same types in the
same order.
-/

namespace StorageCompat.Layout

/-- The same names in the same order, and the same values except for related ones under `name`. -/
def AgreeExcept (name : String) (related : Value → Value → Prop) :
    List (String × Value) → List (String × Value) → Prop :=
  List.Forall₂ fun entry entry' =>
    entry.1 = entry'.1 ∧ (entry.2 = entry'.2 ∨ entry.1 = name ∧ related entry.2 entry'.2)

def ObjectsAgreeExcept (name : String) (related : Value → Value → Prop) (first second : Value) :
    Prop :=
  ∃ entries entries', first = .object entries ∧ second = .object entries' ∧
    AgreeExcept name related entries entries'

def RenumberedIdentifier (first second : Value) : Prop :=
  ∃ identifier identifier', first = .text identifier ∧ second = .text identifier' ∧
    TypeKey.Renumbered [] identifier.toList identifier'.toList

def RenumberedDeclaration : List (String × Value) → List (String × Value) → Prop :=
  AgreeExcept "typeDescriptions" (ObjectsAgreeExcept "typeIdentifier" RenumberedIdentifier)

def RenumberedNode (node node' : Value) : Prop :=
  node = node' ∨ ∃ declaration declaration', kept? node = some declaration ∧
    node' = .object declaration' ∧ RenumberedDeclaration declaration declaration'

def RenumberedNodes (first second : Value) : Prop :=
  ∃ nodes nodes', first = .list nodes ∧ second = .list nodes' ∧
    List.Forall₂ RenumberedNode nodes nodes'

def RenumberedContract : Value → Value → Prop :=
  ObjectsAgreeExcept "nodes" RenumberedNodes

namespace AgreeExcept

variable {name other : String} {related : Value → Value → Prop}
  {entries entries' : List (String × Value)}

theorem rel_lookup (agree : AgreeExcept name related entries entries') (other : String) :
    Option.Rel (fun value value' => value = value' ∨ other = name ∧ related value value')
      (entries.lookup other) (entries'.lookup other) := by
  induction agree with
  | nil => exact .none
  | @cons entry entry' rest rest' here _ ih =>
      obtain ⟨first, value⟩ := entry
      obtain ⟨first', value'⟩ := entry'
      obtain ⟨rfl, values⟩ := here
      rw [List.lookup_cons, List.lookup_cons]
      cases same : other == first with
      | true =>
          rw [eq_of_beq same]
          exact .some values
      | false => exact ih

theorem lookup_of_ne (agree : AgreeExcept name related entries entries') (apart : other ≠ name) :
    entries.lookup other = entries'.lookup other := by
  have values := agree.rel_lookup other
  generalize entries.lookup other = found, entries'.lookup other = found' at values
  cases values with
  | none => rfl
  | some values =>
      obtain same | ⟨same, -⟩ := values
      · rw [same]
      · exact absurd same apart

theorem entryOrNull_of_ne (agree : AgreeExcept name related entries entries')
    (apart : other ≠ name) :
    SyntaxTree.entryOrNull other entries = SyntaxTree.entryOrNull other entries' := by
  rw [SyntaxTree.entryOrNull, SyntaxTree.entryOrNull, agree.lookup_of_ne apart]

theorem exists_lookup (agree : AgreeExcept name related entries entries') {value : Value}
    (found : entries.lookup name = some value) :
    ∃ value', entries'.lookup name = some value' ∧ (value = value' ∨ related value value') := by
  have values := agree.rel_lookup name
  rw [found] at values
  cases there : entries'.lookup name with
  | none =>
      rw [there] at values
      cases values
  | some value' =>
      rw [there] at values
      cases values with
      | some values => exact ⟨value', rfl, values.imp_right And.right⟩

end AgreeExcept

namespace RenumberedDeclaration

variable {declaration declaration' : List (String × Value)}

theorem typeDescriptions_agree (renumbered : RenumberedDeclaration declaration declaration') :
    typeDescriptions declaration = typeDescriptions declaration' ∨
      ObjectsAgreeExcept "typeIdentifier" RenumberedIdentifier (typeDescriptions declaration)
        (typeDescriptions declaration') := by
  rw [typeDescriptions, typeDescriptions, SyntaxTree.entryOrNull, SyntaxTree.entryOrNull]
  have values := renumbered.rel_lookup "typeDescriptions"
  generalize declaration.lookup _ = found, declaration'.lookup _ = found' at values
  cases values with
  | none => exact Or.inl rfl
  | some values =>
      obtain rfl | ⟨-, entries, entries', rfl, rfl, agree⟩ := values
      · exact Or.inl rfl
      · cases agree with
        | nil => exact Or.inl rfl
        | cons here rest => exact Or.inr ⟨_, _, rfl, rfl, .cons here rest⟩

theorem label_eq (renumbered : RenumberedDeclaration declaration declaration') :
    typeText? .label declaration = typeText? .label declaration' := by
  obtain same | ⟨entries, entries', before, after, agree⟩ := renumbered.typeDescriptions_agree
  · rw [typeText?, typeText?, same]
  · rw [typeText?, typeText?, before, after, Value.entry?, Value.entry?,
      agree.lookup_of_ne (by decide)]

theorem exists_identifier (renumbered : RenumberedDeclaration declaration declaration')
    {identifier : String} (described : typeText? .identifier declaration = some identifier) :
    ∃ identifier', typeText? .identifier declaration' = some identifier' ∧
      (identifier = identifier' ∨ TypeKey.Renumbered [] identifier.toList identifier'.toList) := by
  simp only [typeText?_eq_some_iff] at described ⊢
  obtain same | ⟨entries, entries', before, after, agree⟩ := renumbered.typeDescriptions_agree
  · exact ⟨identifier, same ▸ described, Or.inl rfl⟩
  · rw [before] at described
    obtain ⟨value, found, values⟩ := agree.exists_lookup (Except.ok.inj described)
    obtain rfl | ⟨_, identifier', ⟨⟩, rfl, renumbered⟩ := values
    · exact ⟨identifier, after ▸ congrArg Except.ok found, Or.inl rfl⟩
    · exact ⟨identifier', after ▸ congrArg Except.ok found, Or.inr renumbered⟩

theorem typeKey?_eq (renumbered : RenumberedDeclaration declaration declaration') {key : String}
    (keyed : typeKey? declaration = some key) : typeKey? declaration' = some key := by
  simp only [typeKey?_eq_some_iff, TypeKey.ofIdentifier_result, map_eq_ok_iff] at keyed ⊢
  obtain ⟨identifier, described, decoded, accepted, rfl⟩ := keyed
  obtain ⟨identifier', described', same | renumbered⟩ := renumbered.exists_identifier described
  · exact ⟨identifier', described', decoded, same ▸ accepted, rfl⟩
  · exact ⟨identifier', described', decoded, renumbered.keyOf_eq accepted, rfl⟩

theorem declared_eq (renumbered : RenumberedDeclaration declaration declaration')
    {contract : Value} {entry : Slot × Value}
    (given : (declared contract declaration).result = .ok entry) :
    (declared contract declaration').result = .ok entry := by
  obtain ⟨slot, label⟩ := entry
  rw [declared_eq_ok_iff] at given ⊢
  rw [← renumbered.label_eq, ← renumbered.lookup_of_ne (by decide)]
  obtain ⟨name, key, text, named, keyed, parts⟩ := given
  exact ⟨name, key, text, named, renumbered.typeKey?_eq keyed, parts⟩

theorem kept?_eq (renumbered : RenumberedDeclaration declaration declaration')
    (keeps : kept? (.object declaration) = some declaration) :
    kept? (.object declaration') = some declaration' := by
  have kind : SyntaxTree.isNode variableDeclaration (.object declaration) =
      SyntaxTree.isNode variableDeclaration (.object declaration') :=
    congrArg variableDeclaration.accepts (renumbered.entryOrNull_of_ne (by decide))
  have outside : isOutsideStorage declaration = isOutsideStorage declaration' := by
    rw [isOutsideStorage, isOutsideStorage,
      renumbered.entryOrNull_of_ne (show "constant" ≠ "typeDescriptions" by decide),
      renumbered.entryOrNull_of_ne (show "mutability" ≠ "typeDescriptions" by decide)]
  rw [kept?] at keeps ⊢
  rw [← kind, ← outside]
  split
  case isTrue => rfl
  case isFalse skipped =>
    rw [if_neg skipped] at keeps
    cases keeps

end RenumberedDeclaration

theorem eq_object_of_kept? {node : Value} {declaration : List (String × Value)}
    (keeps : kept? node = some declaration) : node = .object declaration := by
  cases node with
  | object entries =>
      rw [kept?] at keeps
      split at keeps
      case isTrue => rw [Option.some.inj keeps]
      case isFalse => cases keeps
  | _ => cases keeps

theorem RenumberedNode.rel_kept? {node node' : Value} (renumbered : RenumberedNode node node') :
    Option.Rel (fun declaration declaration' => declaration = declaration' ∨
      RenumberedDeclaration declaration declaration') (kept? node) (kept? node') := by
  obtain rfl | ⟨declaration, declaration', keeps, rfl, renumbered⟩ := renumbered
  · cases kept? node with
    | none => exact .none
    | some declaration => exact .some (Or.inl rfl)
  · obtain rfl := eq_object_of_kept? keeps
    rw [keeps, renumbered.kept?_eq keeps]
    exact .some (Or.inr renumbered)

theorem mapM_declared_eq {contract : Value} {found found' : List Value}
    {slots : List (Slot × Value)} (renumbered : List.Forall₂ RenumberedNode found found')
    (read : (kept found).mapM (fun declaration => (declared contract declaration).result) =
      .ok slots) :
    (kept found').mapM (fun declaration => (declared contract declaration).result) = .ok slots := by
  have declarations := List.rel_filterMap (fun _ _ related => related.rel_kept?) renumbered
  rw [kept] at read ⊢
  generalize found.filterMap kept? = before, found'.filterMap kept? = after at declarations read ⊢
  rw [mapM_eq_ok_iff] at read ⊢
  induction declarations generalizing slots with
  | nil =>
      cases read
      exact .nil
  | cons here _ ih =>
      obtain _ | ⟨given, read⟩ := read
      obtain rfl | renumbered := here
      · exact .cons given (ih read)
      · exact .cons (renumbered.declared_eq given) (ih read)

/-- The nodes of the second contract are those of the first one, renumbered. -/
theorem exists_nodes {entries entries' : List (String × Value)} {found : List Value}
    (agree : AgreeExcept "nodes" RenumberedNodes entries entries')
    (listed : nodes (.object entries) = .ok found) :
    ∃ found', nodes (.object entries') = .ok found' ∧ List.Forall₂ RenumberedNode found found' := by
  have values := agree.rel_lookup "nodes"
  rw [nodes, Value.entry?] at listed ⊢
  generalize entries.lookup "nodes" = given, entries'.lookup "nodes" = given' at values listed ⊢
  have same (nodes : List Value) : List.Forall₂ RenumberedNode nodes nodes :=
    List.forall₂_same.2 fun _ _ => Or.inl rfl
  cases values with
  | none => exact ⟨found, listed, same found⟩
  | some values =>
      obtain rfl | ⟨-, before, after, rfl, rfl, renumbered⟩ := values
      · exact ⟨found, listed, same found⟩
      · obtain rfl := Except.ok.inj listed
        exact ⟨after, rfl, renumbered⟩

/-- Contracts that differ in numbers of declaring nodes have one layout. -/
theorem ofContract_renumbered (definition other : Value) (layout : Layout)
    (renumbered : RenumberedContract definition other)
    (accepted : (ofContract definition).result = .ok layout) :
    (ofContract other).result = .ok layout := by
  obtain ⟨entries, entries', rfl, rfl, agree⟩ := renumbered
  simp only [ofContract_result, bind_eq_ok_iff, pure_eq_ok_iff, entry_object_eq_ok_iff]
    at accepted ⊢
  obtain ⟨contract, named, found, listed, slots, read, rfl⟩ := accepted
  obtain ⟨found', listed', renumbered⟩ := exists_nodes agree listed
  rw [agree.lookup_of_ne (by decide)] at named
  exact ⟨contract, named, found', listed', slots, mapM_declared_eq renumbered read, rfl⟩

def tokenContract (identifier : String) : Value :=
  .object [("name", .text "V"),
    ("nodes", .list [.object (declarationOf "token" identifier "contract Token")])]

def tokenLayout : Layout :=
  .ofLabelled [(⟨.text "V", .text "token", "t_contract(Token)"⟩, .text "contract Token")]

theorem renumbered_tokenIdentifier :
    TypeKey.Renumbered [] "t_contract$_Token_$7".toList "t_contract$_Token_$1234".toList := by
  have closes : TypeKey.ClosesDeclared "t_contract(Token)".toList :=
    ⟨[], "t_contract(".toList, by decide, "Token".toList, .of_not_mem (by decide) (by decide),
      rfl⟩
  have old : TypeKey.IsNumber ['7'] := ⟨by decide, List.all_eq_true.1 (by decide)⟩
  have new : TypeKey.IsNumber ['1', '2', '3', '4'] :=
    ⟨by decide, List.all_eq_true.1 (by decide)⟩
  exact .keep_append "t_contract$_Token_$".toList
    (.replace rfl closes old TypeKey.endsNumber_nil new .nil)

theorem renumberedDeclaration_declarationOf (name label : String) {identifier other : String}
    (renumbered : TypeKey.Renumbered [] identifier.toList other.toList) :
    RenumberedDeclaration (declarationOf name identifier label)
      (declarationOf name other label) := by
  have same (entry : String × Value) : entry.1 = entry.1 ∧ (entry.2 = entry.2 ∨
      entry.1 = "typeDescriptions" ∧ ObjectsAgreeExcept "typeIdentifier" RenumberedIdentifier
        entry.2 entry.2) :=
    ⟨rfl, Or.inl rfl⟩
  have identifiers : RenumberedIdentifier (.text identifier) (.text other) :=
    ⟨identifier, other, rfl, rfl, renumbered⟩
  exact .cons (same _) (.cons (same _) (.cons (same _) (.cons (same _) (.cons ⟨rfl, Or.inr
    ⟨rfl, _, _, rfl, rfl, .cons ⟨rfl, Or.inr ⟨rfl, identifiers⟩⟩
      (.cons ⟨rfl, Or.inl rfl⟩ .nil)⟩⟩ .nil))))

theorem renumbered_tokenContract :
    RenumberedContract (tokenContract "t_contract$_Token_$7")
      (tokenContract "t_contract$_Token_$1234") := by
  have declarations := renumberedDeclaration_declarationOf "token" "contract Token"
    renumbered_tokenIdentifier
  have nodes : List.Forall₂ RenumberedNode
      [.object (declarationOf "token" "t_contract$_Token_$7" "contract Token")]
      [.object (declarationOf "token" "t_contract$_Token_$1234" "contract Token")] :=
    .cons (Or.inr ⟨_, _, rfl, rfl, declarations⟩) .nil
  exact ⟨_, _, rfl, rfl,
    .cons ⟨rfl, Or.inl rfl⟩ (.cons ⟨rfl, Or.inr ⟨rfl, _, _, rfl, rfl, nodes⟩⟩ .nil)⟩

theorem ofContract_renumbered_token :
    RenumberedContract (tokenContract "t_contract$_Token_$7")
        (tokenContract "t_contract$_Token_$1234") ∧
      (ofContract (tokenContract "t_contract$_Token_$7")).result = .ok tokenLayout ∧
      (ofContract (tokenContract "t_contract$_Token_$1234")).result = .ok tokenLayout :=
  ⟨renumbered_tokenContract, rfl,
    ofContract_renumbered _ _ tokenLayout renumbered_tokenContract rfl⟩

end StorageCompat.Layout
