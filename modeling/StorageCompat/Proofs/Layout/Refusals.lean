import StorageCompat.Layout.Document
import StorageCompat.Proofs.Layout.Extraction
import StorageCompat.Proofs.SyntaxTree.Search
import StorageCompat.Proofs.TypeKey.Erasure

/-!
Which compiler output and which saved layouts break the command off. A contract does where its
nodes cannot be gone through, where what describes a type is no object, and where a variable has no
name; a saved layout where the type of a variable is a list or an object.
-/

namespace StorageCompat

namespace TypeKey

theorem settles_decode (identifier : List Char) : Settles (decode identifier) := by
  intro fault refused
  obtain ⟨run, rfl⟩ := fault_of_decode refused
  rfl

theorem settles_withoutIds (text : List Char) : Settles (withoutIds text) := by
  intro fault refused
  obtain ⟨shown, rfl⟩ := fault_of_withoutIds refused
  rfl

theorem settles_ofIdentifier (identifier : String) : Settles (ofIdentifier identifier).result := by
  rw [ofIdentifier_result, settles_map_iff, keyOf, settles_bind_iff]
  exact ⟨settles_decode _, fun decoded _ => settles_withoutIds decoded⟩

end TypeKey

namespace Value

theorem settles_entry?_iff (value : Value) (name : String) :
    Settles (value.entry? name) ↔ value.isObject = true := by
  cases value with
  | object entries => exact iff_of_true (settles_ok _) rfl
  | _ => exact iff_of_false (not_settles_error (.unsuited .optionalEntry) rfl) Bool.false_ne_true

theorem settles_entry_object_iff (entries : List (String × Value)) (name : String) :
    Settles ((Value.object entries).entry name) ↔ (entries.lookup name).isSome = true := by
  rw [entry]
  cases entries.lookup name with
  | none => exact iff_of_false (not_settles_error (.missingEntry name) rfl) Bool.false_ne_true
  | some value => exact iff_of_true (settles_ok value) rfl

theorem settles_elements_iff (value : Value) :
    Settles value.elements ↔ ∃ found, value.elements = .ok found := by
  cases value with
  | text characters => exact iff_of_true (settles_ok _) ⟨_, rfl⟩
  | list items => exact iff_of_true (settles_ok _) ⟨_, rfl⟩
  | object entries => exact iff_of_true (settles_ok _) ⟨_, rfl⟩
  | _ => exact iff_of_false (not_settles_error (.unsuited .elements) rfl) (by rintro ⟨_, ⟨⟩⟩)

end Value

namespace Layout

theorem settles_describedAs (contract : Value) (declaration : List (String × Value))
    (wanted : TypeDescription) (given : Option Value) :
    Settles (describedAs contract declaration wanted given) := by
  rw [describedAs.eq_def]
  split
  case h_1 text => exact settles_ok text
  case h_2 => exact (settles_error_iff _).2 rfl

theorem settles_describe_iff (contract : Value) (declaration : List (String × Value)) :
    Settles (describe contract declaration) ↔ (typeDescriptions declaration).isObject = true := by
  rw [describe, settles_bind_iff, Value.settles_entry?_iff]
  apply and_iff_left_of_imp
  intro described identifier _
  simp only [settles_bind_iff, Value.settles_entry?_iff, settles_describedAs, true_and]
  exact ⟨described, fun label _ identifier _ label _ => settles_ok _⟩

/-- What describes the type of a declared variable is an object, and the variable has a name if its
type has a key and a label. -/
structure Describable (declaration : List (String × Value)) : Prop where
  described : (typeDescriptions declaration).isObject = true
  named : (typeKey? declaration).isSome = true → (typeText? .label declaration).isSome = true →
    (declaration.lookup "name").isSome = true

theorem settles_declared_iff (contract : Value) (declaration : List (String × Value)) :
    Settles (declared contract declaration).result ↔ Describable declaration := by
  simp only [declared, Logged.result_bind, Logged.result_lift, Logged.result_pure, settles_bind_iff,
    settles_describe_iff, TypeKey.settles_ofIdentifier, Value.settles_entry_object_iff, true_and,
    Prod.forall, describe_eq_ok_iff]
  constructor
  · rintro ⟨described, named⟩
    refine ⟨described, ?_⟩
    intro keyed labelled
    obtain ⟨key, keyed⟩ := Option.isSome_iff_exists.1 keyed
    obtain ⟨label, labelled⟩ := Option.isSome_iff_exists.1 labelled
    obtain ⟨identifier, identified, found⟩ := (typeKey?_eq_some_iff _ _).1 keyed
    exact (named identifier label ⟨identified, labelled⟩ key found).1
  · rintro ⟨described, named⟩
    refine ⟨described, ?_⟩
    rintro identifier label ⟨identified, labelled⟩ key found
    have keyed := (typeKey?_eq_some_iff _ _).2 ⟨identifier, identified, found⟩
    refine ⟨named (Option.isSome_of_eq_some keyed) (Option.isSome_of_eq_some labelled), ?_⟩
    exact fun _ _ => settles_ok _

def GivesVariable (declaration : List (String × Value)) : Prop :=
  (typeKey? declaration).isSome = true ∧ (typeText? .label declaration).isSome = true ∧
    (declaration.lookup "name").isSome = true

theorem exists_declared_iff (contract : Value) (declaration : List (String × Value)) :
    (∃ entry, (declared contract declaration).result = .ok entry) ↔ GivesVariable declaration := by
  simp only [GivesVariable, Option.isSome_iff_exists, Prod.exists, declared_eq_ok_iff]
  constructor
  · rintro ⟨_, _, name, key, text, named, keyed, labelled, -, -⟩
    exact ⟨⟨key, keyed⟩, ⟨text, labelled⟩, ⟨name, named⟩⟩
  · rintro ⟨⟨key, keyed⟩, ⟨text, labelled⟩, ⟨name, named⟩⟩
    exact ⟨_, _, name, key, text, named, keyed, labelled, rfl, rfl⟩

theorem settles_nodes_iff (entries : List (String × Value)) :
    Settles (nodes (.object entries)) ↔ ∃ found, nodes (.object entries) = .ok found := by
  rw [nodes, Value.entry?]
  cases entries.lookup "nodes" with
  | none => exact iff_of_true (settles_ok []) ⟨[], rfl⟩
  | some listed => exact listed.settles_elements_iff

/-- The nodes of a contract can be gone through, and of the variables that have a slot each can be
described up to the first that is refused. -/
def Extractable (definition : Value) : Prop :=
  ∃ found, nodes definition = .ok found ∧ UpToFirst GivesVariable Describable (kept found)

theorem settles_ofContract_iff (entries : List (String × Value))
    (named : (entries.lookup "name").isSome = true) :
    Settles (ofContract (.object entries)).result ↔ Extractable (.object entries) := by
  obtain ⟨contract, named⟩ := Option.isSome_iff_exists.1 named
  have given := (entry_object_eq_ok_iff "name" entries contract).2 named
  rw [ofContract_result, given]
  change Settles (nodes _ >>= _) ↔ _
  rw [settles_bind_iff, settles_nodes_iff]
  have settled (found : List Value) :
      Settles ((kept found).mapM fun declaration => (declared contract declaration).result) ↔
        UpToFirst GivesVariable Describable (kept found) := by
    simp only [settles_mapM_iff, exists_declared_iff, settles_declared_iff]
  constructor
  · rintro ⟨⟨found, listed⟩, each⟩
    have read := each found listed
    rw [settles_bind_iff, settled] at read
    exact ⟨found, listed, read.1⟩
  · rintro ⟨found, listed, read⟩
    refine ⟨⟨found, listed⟩, ?_⟩
    intro other listed'
    obtain rfl := Except.ok.inj (listed.symm.trans listed')
    rw [settles_bind_iff, settled]
    exact ⟨read, fun slots _ => settles_ok _⟩

/-- The variables of a saved layout have no list and no object for a type, if the parts of the
layout can be read at all. -/
def TypesLookable (document : Value) : Prop :=
  ∀ drafts types, readParts document = .ok (drafts, types) →
    ∀ draft ∈ drafts, draft.isLookable = true

theorem settles_malformed {α : Type} (result : Except Fault α) :
    Settles (result.mapError malformed) := by
  cases result with
  | ok value => exact settles_ok value
  | error fault =>
      cases fault <;> exact (settles_error_iff _).2 rfl

theorem settles_build_iff (drafts : List Draft) (types : Table Value) :
    Settles (build drafts types) ↔ ∀ draft ∈ drafts, draft.isLookable = true := by
  rw [build, ← List.all_eq_true]
  split
  case isTrue lookable =>
      refine iff_of_true ?_ lookable
      cases drafts.mapM (Draft.resolve? types) with
      | some slots => exact settles_ok _
      | none => exact (settles_error_iff _).2 rfl
  case isFalse other => exact iff_of_false (not_settles_error (.unsuited .tableKey) rfl) other

theorem settles_ofDocument_iff (document : Value) :
    Settles (ofDocument document) ↔ TypesLookable document := by
  rw [ofDocument, settles_bind_iff, and_iff_right (settles_malformed _), TypesLookable]
  simp only [Prod.forall, mapError_eq_ok_iff, settles_build_iff]

end Layout

end StorageCompat
