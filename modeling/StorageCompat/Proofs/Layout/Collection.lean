import Mathlib.Data.List.Induction
import StorageCompat.Proofs.Layout.Declarations

/-!
What the extraction of a contract returns. Every declaration of a variable with a slot gives one
variable, in order; types are listed under their keys in the order of the first variable of a type,
with the label that the last one brings. Other nodes have no part in it.
-/

namespace StorageCompat

theorem eraseDups_concat (names : List String) (name : String) :
    (names ++ [name]).eraseDups =
      if name ∈ names then names.eraseDups else names.eraseDups ++ [name] := by
  rw [List.eraseDups_append]
  split
  case isTrue known => simp [List.removeAll, known]
  case isFalse new => simp [List.removeAll, new, List.eraseDups_cons]

theorem Entries.names_insert {α : Type} (name : String) (value : α)
    (entries : List (String × α)) :
    names (insert name value entries) =
      if name ∈ names entries then names entries else names entries ++ [name] := by
  split
  case isFalse new =>
    rw [insert_of_not_mem new, names, names, List.map_append]
    rfl
  case isTrue known =>
    induction entries with
    | nil => cases known
    | cons entry rest ih =>
        rw [insert]
        split
        case isTrue => rfl
        case isFalse other =>
          have later := (List.mem_cons.1 known).resolve_left (Ne.symm other)
          exact congrArg (entry.1 :: ·) (ih later)

/-- The names of a table are in the order in which they were first entered. -/
theorem Table.names_ofList {α : Type} (entries : List (String × α)) :
    (ofList entries).names = (Entries.names entries).eraseDups := by
  induction entries using List.reverseRecOn with
  | nil => rfl
  | append_singleton entries entry ih =>
      have entered : (ofList (entries ++ [entry])).names =
          Entries.names (Entries.insert entry.1 entry.2 (ofList entries).entries) := by
        rw [ofList, List.foldl_append]
        rfl
      have before : Entries.names (ofList entries).entries = (Entries.names entries).eraseDups := ih
      have together : Entries.names (entries ++ [entry]) = Entries.names entries ++ [entry.1] :=
        List.map_append
      rw [entered, Entries.names_insert, before, together, eraseDups_concat]
      simp only [List.mem_eraseDups]

namespace Layout

/-- What a declaration says of its variable: the name, and the key and the label of the type. -/
structure Variable where
  name : Value
  key : String
  label : String

def Variable.slot (contract : Value) (member : Variable) : Slot :=
  ⟨contract, member.name, member.key⟩

/-- The declaration names the variable, and the texts that describe its type are there; the one that
identifies the type has the key. -/
structure Declares (declaration : List (String × Value)) (member : Variable) : Prop where
  name : declaration.lookup "name" = some member.name
  key : ∃ identifier, Tells declaration .identifier identifier ∧
    (TypeKey.ofIdentifier identifier).result = .ok member.key
  label : Tells declaration .label member.label

def TakesLabels (types : Table Value) (members : List Variable) : Prop :=
  ∀ before last behind, members = before ++ last :: behind →
    (∀ later ∈ behind, later.key ≠ last.key) → types.get? last.key = some (.text last.label)

/-- The layout has the given variables of the contract, and each of their types once, in the order
of the first variable of the type. -/
structure Collects (contract : Value) (members : List Variable) (layout : Layout) : Prop where
  slots : layout.slots = members.map (Variable.slot contract)
  types : layout.types.names = (members.map Variable.key).eraseDups
  labels : TakesLabels layout.types members

theorem declared_eq_ok_iff_declares (contract : Value) (declaration : List (String × Value))
    (entry : Slot × Value) :
    (declared contract declaration).result = .ok entry ↔
      ∃ member, Declares declaration member ∧
        entry = (member.slot contract, .text member.label) := by
  obtain ⟨slot, label⟩ := entry
  simp only [declared_eq_ok_iff, typeKey?_eq_some_iff, typeText?_eq_some_iff_tells, Prod.mk.injEq]
  constructor
  · intro given
    obtain ⟨name, key, text, named, keyed, labelled, rfl, rfl⟩ := given
    exact ⟨⟨name, key, text⟩, ⟨named, keyed, labelled⟩, rfl, rfl⟩
  · intro given
    obtain ⟨member, declares, rfl, rfl⟩ := given
    exact ⟨_, _, _, declares.name, declares.key, declares.label, rfl, rfl⟩

theorem mapM_declared {contract : Value} {declarations : List (List (String × Value))}
    {members : List Variable} (declares : List.Forall₂ Declares declarations members) :
    declarations.mapM (fun declaration => (declared contract declaration).result) =
      .ok (members.map fun member => (member.slot contract, .text member.label)) := by
  rw [mapM_eq_ok_iff, List.forall₂_map_right_iff]
  apply declares.imp
  intro declaration member given
  exact (declared_eq_ok_iff_declares contract declaration _).2 ⟨member, given, rfl⟩

theorem takesLabels_ofList (members : List Variable) :
    TakesLabels (.ofList (members.map fun member => (member.key, .text member.label))) members := by
  intro before last behind parts others
  have absent : ((behind.map fun member => (member.key, Value.text member.label)).reverse).lookup
      last.key = none := by
    rw [List.lookup_eq_none_iff]
    intro entry member
    obtain ⟨later, inside, rfl⟩ := List.mem_map.1 (List.mem_reverse.1 member)
    exact bne_iff_ne.2 (others later inside).symm
  rw [Table.get?_ofList, parts, List.map_append, List.map_cons, List.reverse_append,
    List.reverse_cons, List.append_assoc, List.lookup_append, absent]
  simp

theorem collects_ofLabelled (contract : Value) (members : List Variable) :
    Collects contract members
      (ofLabelled (members.map fun member => (member.slot contract, .text member.label))) := by
  have slots (entries : List (Slot × Value)) :
      (ofLabelled entries).slots = entries.map Prod.fst := rfl
  have types (entries : List (Slot × Value)) :
      (ofLabelled entries).types = .ofList (entries.map fun entry => (entry.1.type, entry.2)) := rfl
  constructor
  · rw [slots, List.map_map]
    rfl
  · rw [types, Table.names_ofList, Entries.names, List.map_map, List.map_map]
    rfl
  · rw [types, List.map_map]
    exact takesLabels_ofList members

theorem nodes_eq_ok {entries : List (String × Value)} {found : List Value}
    (listed : entries.lookup "nodes" = some (.list found)) :
    nodes (.object entries) = .ok found := by
  rw [nodes, Value.entry?, listed]
  rfl

theorem ofContract_object {entries : List (String × Value)} {contract : Value}
    {found : List Value} (named : entries.lookup "name" = some contract)
    (listed : entries.lookup "nodes" = some (.list found)) :
    (ofContract (.object entries)).result = do
      let slots ← (kept found).mapM fun declaration => (declared contract declaration).result
      return ofLabelled slots := by
  rw [ofContract_result, (entry_object_eq_ok_iff "name" entries contract).2 named,
    nodes_eq_ok listed]
  rfl

/-- The variables that the kept declarations of a contract declare make its layout, and nothing else
in the contract has a part in it. -/
theorem ofContract_collects (entries : List (String × Value)) (contract : Value)
    (found : List Value) (named : entries.lookup "name" = some contract)
    (listed : entries.lookup "nodes" = some (.list found))
    (declares : ∀ declaration ∈ kept found, ∃ member, Declares declaration member) :
    (∀ node declaration, kept? node = some declaration ↔
      node = .object declaration ∧ HasSlot declaration) ∧
    ∃ members layout, List.Forall₂ Declares (kept found) members ∧
      (ofContract (.object entries)).result = .ok layout ∧ Collects contract members layout ∧
      ∀ entries' found', entries'.lookup "name" = some contract →
        entries'.lookup "nodes" = some (.list found') → kept found' = kept found →
        (ofContract (.object entries')).result = .ok layout := by
  refine ⟨kept?_eq_some_iff, ?_⟩
  obtain ⟨members, declared⟩ := exists_forall₂ declares
  have given (entries' : List (String × Value)) (found' : List Value)
      (named' : entries'.lookup "name" = some contract)
      (listed' : entries'.lookup "nodes" = some (.list found')) (same : kept found' = kept found) :
      (ofContract (.object entries')).result =
        .ok (ofLabelled
          (members.map fun member => (member.slot contract, .text member.label))) := by
    rw [ofContract_object named' listed', same, mapM_declared declared]
    rfl
  exact ⟨members, _, declared, given entries found named listed rfl,
    collects_ofLabelled contract members, given⟩

def addressDeclaration (name label : String) : List (String × Value) :=
  [("nodeType", .text "VariableDeclaration"), ("name", .text name),
    ("typeDescriptions",
      .object [("typeIdentifier", .text "t_address"), ("typeString", .text label)])]

def vaultNodes : List Value :=
  [.null, .object (addressDeclaration "owner" "address"),
    .object [("nodeType", .text "VariableDeclaration"), ("constant", .bool true)],
    .text "VariableDeclaration", .object (addressDeclaration "heir" "address payable")]

def vaultEntries : List (String × Value) :=
  [("name", .text "Vault"), ("nodes", .list vaultNodes)]

theorem declares_vaultNodes :
    ∀ declaration ∈ kept vaultNodes, ∃ member, Declares declaration member := by
  have kept_vaultNodes : kept vaultNodes =
      [addressDeclaration "owner" "address", addressDeclaration "heir" "address payable"] := rfl
  have declares (name label : String) :
      Declares (addressDeclaration name label) ⟨.text name, "t_address", label⟩ :=
    ⟨rfl, ⟨"t_address", ⟨_, rfl, rfl⟩, rfl⟩, ⟨_, rfl, rfl⟩⟩
  rw [kept_vaultNodes]
  intro declaration member
  simp only [List.mem_cons, List.not_mem_nil, or_false] at member
  rcases member with rfl | rfl
  · exact ⟨_, declares "owner" "address"⟩
  · exact ⟨_, declares "heir" "address payable"⟩

theorem ofContract_collects_vault :
    vaultEntries.lookup "name" = some (.text "Vault") ∧
      vaultEntries.lookup "nodes" = some (.list vaultNodes) ∧
      (∀ declaration ∈ kept vaultNodes, ∃ member, Declares declaration member) ∧
      ∃ members layout, List.Forall₂ Declares (kept vaultNodes) members ∧
        (ofContract (.object vaultEntries)).result = .ok layout ∧
        Collects (.text "Vault") members layout ∧
        ∀ entries found, entries.lookup "name" = some (.text "Vault") →
          entries.lookup "nodes" = some (.list found) → kept found = kept vaultNodes →
          (ofContract (.object entries)).result = .ok layout :=
  ⟨rfl, rfl, declares_vaultNodes,
    (ofContract_collects vaultEntries _ vaultNodes rfl rfl declares_vaultNodes).2⟩

end Layout

end StorageCompat
