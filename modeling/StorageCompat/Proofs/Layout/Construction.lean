import StorageCompat.Layout.Document
import StorageCompat.Proofs.Layout.Extraction
import StorageCompat.Proofs.TypeKey.Erasure

/-!
How layouts are made. Variables and types make a layout exactly if the types of all variables are
listed. The extraction of a contract lists them as it goes, so it is never refused for a type that
is missing; a document gives the layout that its parts make.
-/

namespace StorageCompat

namespace Draft

theorem resolve?_eq_some_iff (types : Table Value) (draft : Draft)
    (slot : { slot : Slot // slot.type ∈ types.names }) :
    draft.resolve? types = some slot ↔ draft = slot.val.toDraft := by
  obtain ⟨slot, listed⟩ := slot
  have found := (types.get?_isSome slot.type).2 listed
  constructor
  · intro resolved
    unfold resolve? at resolved
    split at resolved
    case h_1 key type =>
      split at resolved
      case isTrue known =>
        cases draft
        cases type
        cases resolved
        rfl
      case isFalse => cases resolved
    case h_2 => cases resolved
  · rintro rfl
    rw [resolve?, Slot.toDraft]
    exact dif_pos found

theorem all_isLookable_toDraft (slots : List Slot) :
    (slots.map Slot.toDraft).all isLookable = true := by
  rw [List.all_map, List.all_eq_true]
  intro slot _
  rfl

theorem mapM_resolve?_eq_some_iff (types : Table Value) (drafts : List Draft)
    (slots : List { slot : Slot // slot.type ∈ types.names }) :
    drafts.mapM (resolve? types) = some slots ↔
      drafts = (slots.map Subtype.val).map Slot.toDraft := by
  induction drafts generalizing slots with
  | nil =>
      cases slots with
      | nil => exact iff_of_true rfl rfl
      | cons slot others => exact iff_of_false nofun nofun
  | cons draft rest ih =>
      simp only [List.mapM_cons, Option.bind_eq_bind, Option.bind_eq_some_iff, Option.pure_def,
        Option.some.injEq, resolve?_eq_some_iff, ih]
      constructor
      · rintro ⟨slot, rfl, others, rfl, rfl⟩
        rfl
      · intro parts
        cases slots with
        | nil => cases parts
        | cons slot others =>
            obtain ⟨rfl, rfl⟩ := List.cons.inj parts
            exact ⟨slot, rfl, others, rfl, rfl⟩

end Draft

namespace Slot

theorem toDraft_injective : Function.Injective toDraft := by
  rintro ⟨_, _, _⟩ ⟨_, _, _⟩ same
  cases same
  rfl

end Slot

namespace Layout

@[ext] theorem ext {first second : Layout} (slots : first.slots = second.slots)
    (types : first.types = second.types) : first = second := by
  cases first
  cases second
  cases slots
  cases types
  rfl

/-- Drafts and types make the layout of which they are the drafts and the types, and no other. -/
theorem build_eq_ok_iff (drafts : List Draft) (types : Table Value) (layout : Layout) :
    build drafts types = .ok layout ↔
      drafts = layout.slots.map Slot.toDraft ∧ types = layout.types := by
  constructor
  · intro built
    unfold build at built
    split at built
    case isFalse => cases built
    case isTrue lookable =>
      split at built
      case h_2 => cases built
      case h_1 slots resolved =>
        cases built
        refine ⟨?_, rfl⟩
        exact (Draft.mapM_resolve?_eq_some_iff types drafts slots).1 resolved
  · rintro ⟨rfl, rfl⟩
    have resolved := (Draft.mapM_resolve?_eq_some_iff layout.types
      (layout.slots.map Slot.toDraft) (layout.slots.attach.map fun slot =>
        ⟨slot.val, layout.registered slot.val slot.property⟩)).2 (by simp)
    rw [build, if_pos (Draft.all_isLookable_toDraft _), resolved]
    apply congrArg Except.ok
    ext1
    · simp [ofResolved]
    · rfl

theorem build_self (layout : Layout) :
    build (layout.slots.map Slot.toDraft) layout.types = .ok layout :=
  (build_eq_ok_iff _ _ _).2 ⟨rfl, rfl⟩

def unlisted (types : Table Value) (slots : List Slot) : List String :=
  (slots.map Slot.type).filter fun type => type ∉ types.names

theorem filter_isRegistered_toDraft (types : Table Value) (slots : List Slot) :
    ((slots.map Slot.toDraft).filter fun draft => !draft.isRegistered types).map Draft.type =
      (unlisted types slots).map Value.text := by
  have registered (slot : Slot) :
      slot.toDraft.isRegistered types = decide (slot.type ∈ types.names) := by
    rw [Bool.eq_iff_iff, decide_eq_true_iff]
    exact types.get?_isSome slot.type
  have unregistered : ((fun draft => !draft.isRegistered types) ∘ Slot.toDraft) =
      (fun type => decide (type ∉ types.names)) ∘ Slot.type := by
    funext slot
    simp only [Function.comp_apply, registered, decide_not]
  rw [unlisted, List.filter_map, List.filter_map, List.map_map, List.map_map, unregistered]
  rfl

/-- Variables make a layout if their types are listed, and a refusal names those that are not. -/
theorem build_toDraft (slots : List Slot) (types : Table Value) :
    build (slots.map Slot.toDraft) types =
      if registered : ∀ slot ∈ slots, slot.type ∈ types.names then .ok ⟨slots, types, registered⟩
      else .error (.unregisteredTypes ((unlisted types slots).map Value.text)) := by
  split
  case isTrue registered => exact build_self ⟨slots, types, registered⟩
  case isFalse missing =>
    rw [build, if_pos (Draft.all_isLookable_toDraft slots)]
    cases resolved : (slots.map Slot.toDraft).mapM (Draft.resolve? types) with
    | some found =>
        have own := (Draft.mapM_resolve?_eq_some_iff _ _ _).1 resolved
        obtain rfl := List.map_injective_iff.2 Slot.toDraft_injective own
        exact absurd (ofResolved types found).registered missing
    | none => rw [filter_isRegistered_toDraft]

/-- A document gives the layout of which its parts are the drafts and the types. -/
theorem ofDocument_eq_ok_iff (document : Value) (layout : Layout) :
    ofDocument document = .ok layout ↔
      readParts document = .ok (layout.slots.map Slot.toDraft, layout.types) := by
  simp only [ofDocument, bind_eq_ok_iff, mapError_eq_ok_iff, build_eq_ok_iff]
  constructor
  · rintro ⟨⟨drafts, types⟩, read, rfl, rfl⟩
    exact read
  · intro read
    exact ⟨_, read, rfl, rfl⟩

def collected (definition : Value) : Except Fault (List (Slot × Value)) := do
  let contract ← definition.entry "name"
  let found ← nodes definition
  (kept found).mapM fun declaration => (declared contract declaration).result

/-- Extraction makes a layout of what it collects, as if the types still had to be looked up. -/
theorem ofContract_eq_build (definition : Value) :
    (ofContract definition).result =
      collected definition >>= fun entries =>
        build (entries.map fun entry => entry.1.toDraft)
          (.ofList (entries.map fun entry => (entry.1.type, entry.2))) := by
  have built (entries : List (Slot × Value)) :
      build (entries.map fun entry => entry.1.toDraft)
        (.ofList (entries.map fun entry => (entry.1.type, entry.2))) =
        .ok (ofLabelled entries) := by
    refine (build_eq_ok_iff _ _ _).2 ⟨?_, rfl⟩
    rw [ofLabelled, List.map_map]
    rfl
  simp only [ofContract_result, collected, bind_assoc, built]
  rfl

end Layout

namespace Fault

def IsOfLayout : Fault → Prop
  | .malformedLayout _ | .unregisteredTypes _ => True
  | _ => False

end Fault

namespace Value

theorem not_isOfLayout_of_entry {value : Value} {name : String} {fault : Fault}
    (refused : value.entry name = .error fault) : ¬fault.IsOfLayout := by
  unfold entry at refused
  split at refused
  case h_1 =>
    split at refused
    case h_1 => cases refused
    case h_2 =>
      cases refused
      exact not_false
  case h_2 =>
    cases refused
    exact not_false

theorem not_isOfLayout_of_entry? {value : Value} {name : String} {fault : Fault}
    (refused : value.entry? name = .error fault) : ¬fault.IsOfLayout := by
  unfold entry? at refused
  split at refused
  case h_1 => cases refused
  case h_2 =>
    cases refused
    exact not_false

theorem not_isOfLayout_of_elements {value : Value} {fault : Fault}
    (refused : value.elements = .error fault) : ¬fault.IsOfLayout := by
  unfold elements at refused
  split at refused
  case h_4 =>
    cases refused
    exact not_false
  all_goals cases refused

end Value

namespace TypeKey

theorem not_isOfLayout_of_keyOf {identifier : List Char} {fault : Fault}
    (refused : keyOf identifier = .error fault) : ¬fault.IsOfLayout := by
  obtain refused | ⟨_, _, refused⟩ := (bind_eq_error_iff _ _ _).1 refused
  · obtain ⟨run, rfl⟩ := fault_of_decode refused
    exact not_false
  · obtain ⟨shown, rfl⟩ := fault_of_withoutIds refused
    exact not_false

end TypeKey

namespace Layout

theorem not_isOfLayout_of_nodes {definition : Value} {fault : Fault}
    (refused : nodes definition = .error fault) : ¬fault.IsOfLayout := by
  obtain refused | ⟨listed, _, refused⟩ := (bind_eq_error_iff _ _ _).1 refused
  · exact Value.not_isOfLayout_of_entry? refused
  · cases listed with
    | none => cases refused
    | some listed => exact Value.not_isOfLayout_of_elements refused

theorem not_isOfLayout_of_describedAs {contract : Value} {declaration : List (String × Value)}
    {wanted : TypeDescription} {given : Option Value} {fault : Fault}
    (refused : describedAs contract declaration wanted given = .error fault) :
    ¬fault.IsOfLayout := by
  unfold describedAs at refused
  split at refused
  case h_1 => cases refused
  case h_2 =>
    cases refused
    exact not_false

theorem not_isOfLayout_of_describe {contract : Value} {declaration : List (String × Value)}
    {fault : Fault} (refused : describe contract declaration = .error fault) :
    ¬fault.IsOfLayout := by
  simp only [describe, bind_eq_error_iff] at refused
  obtain refused | ⟨_, _, refused | ⟨_, _, refused | ⟨_, _, refused | ⟨_, _, ⟨⟩⟩⟩⟩⟩ := refused
  · exact Value.not_isOfLayout_of_entry? refused
  · exact Value.not_isOfLayout_of_entry? refused
  · exact not_isOfLayout_of_describedAs refused
  · exact not_isOfLayout_of_describedAs refused

theorem not_isOfLayout_of_declared {contract : Value} {declaration : List (String × Value)}
    {fault : Fault} (refused : (declared contract declaration).result = .error fault) :
    ¬fault.IsOfLayout := by
  simp only [declared, Logged.result_bind, Logged.result_lift, Logged.result_pure,
    TypeKey.ofIdentifier_result, bind_eq_error_iff, map_eq_error_iff] at refused
  obtain refused | ⟨_, _, refused | ⟨_, _, refused | ⟨_, _, ⟨⟩⟩⟩⟩ := refused
  · exact not_isOfLayout_of_describe refused
  · exact TypeKey.not_isOfLayout_of_keyOf refused
  · exact Value.not_isOfLayout_of_entry refused

/-- Extraction is never refused for a layout: what it collects makes one. -/
theorem not_isOfLayout_of_ofContract {definition : Value} {fault : Fault}
    (refused : (ofContract definition).result = .error fault) : ¬fault.IsOfLayout := by
  simp only [ofContract_result, bind_eq_error_iff] at refused
  obtain refused | ⟨_, _, refused | ⟨_, _, refused | ⟨_, _, ⟨⟩⟩⟩⟩ := refused
  · exact Value.not_isOfLayout_of_entry refused
  · exact not_isOfLayout_of_nodes refused
  · obtain ⟨declaration, _, refused⟩ := exists_of_mapM_eq_error refused
    exact not_isOfLayout_of_declared refused

end Layout

end StorageCompat
