import StorageCompat.Proofs.Layout.Construction
import StorageCompat.Proofs.Layout.Refusals

/-!
How documents are refused. The parts of a document are there if each of its variables and each of
its types is an object with the entries that it has to have; otherwise the document is malformed.
The types of the variables are looked up afterwards. A document in which one of them is a list or an
object is refused like a value that is misused, and not like a layout.
-/

namespace StorageCompat

theorem Value.entry_eq_ok_iff (value found : Value) (name : String) :
    value.entry name = .ok found ↔
      ∃ entries, value = .object entries ∧ entries.lookup name = some found := by
  cases value with
  | object entries => simp [Layout.entry_object_eq_ok_iff]
  | _ => simp [entry]

theorem Value.entries_eq_ok_iff (value : Value) (found : List (String × Value)) :
    value.entries = .ok found ↔ value = .object found := by
  cases value <;> simp [entries]

namespace Layout

def ItemOf (item : Value) (draft : Draft) : Prop :=
  ∃ entries, item = .object entries ∧ entries.lookup "contract" = some draft.contract ∧
    entries.lookup "label" = some draft.label ∧ entries.lookup "type" = some draft.type

/-- The items of a list are those of the drafts. Without drafts an empty text and an empty object
are as good as a list. -/
inductive ItemsOf : Value → List Draft → Prop where
  | list {items : List Value} {drafts : List Draft} (each : List.Forall₂ ItemOf items drafts) :
      ItemsOf (.list items) drafts
  | text : ItemsOf (.text "") []
  | object : ItemsOf (.object []) []

def LabelOf (entry label : String × Value) : Prop :=
  entry.1 = label.1 ∧ ∃ entries, entry.2 = .object entries ∧ entries.lookup "label" = some label.2

/-- The parts of a document: its variables, as they are read, and its types with their labels. -/
inductive HasParts : Value → List Draft → Table Value → Prop where
  | object {document entries labels : List (String × Value)} {storage : Value}
      {drafts : List Draft} (found : document.lookup "storage" = some storage)
      (items : ItemsOf storage drafts)
      (listed : document.lookup "types" = some (.object entries))
      (labelled : List.Forall₂ LabelOf entries labels) :
      HasParts (.object document) drafts (.ofList labels)

theorem readVariable_eq_ok_iff (item : Value) (draft : Draft) :
    readVariable item = .ok draft ↔ ItemOf item draft := by
  obtain ⟨contract, label, type⟩ := draft
  simp only [readVariable, bind_eq_ok_iff, pure_eq_ok_iff, Value.entry_eq_ok_iff, ItemOf,
    Draft.mk.injEq]
  constructor
  · intro read
    obtain ⟨_, ⟨entries, rfl, first⟩, _, ⟨_, ⟨⟩, second⟩, _, ⟨_, ⟨⟩, third⟩, rfl, rfl, rfl⟩ := read
    exact ⟨entries, rfl, first, second, third⟩
  · intro given
    obtain ⟨entries, rfl, first, second, third⟩ := given
    exact ⟨_, ⟨entries, rfl, first⟩, _, ⟨entries, rfl, second⟩, _, ⟨entries, rfl, third⟩, rfl, rfl,
      rfl⟩

theorem eq_nil_of_texts {items : List Value} {drafts : List Draft}
    (each : List.Forall₂ ItemOf items drafts) (texts : ∀ item ∈ items, ∃ text, item = .text text) :
    items = [] ∧ drafts = [] := by
  cases each with
  | nil => exact ⟨rfl, rfl⟩
  | cons here =>
      obtain ⟨text, rfl⟩ := texts _ List.mem_cons_self
      obtain ⟨_, ⟨⟩, -⟩ := here

theorem readVariables_eq_ok_iff (storage : Value) (drafts : List Draft) :
    (∃ items, storage.elements = .ok items ∧ items.mapM readVariable = .ok drafts) ↔
      ItemsOf storage drafts := by
  simp only [mapM_eq_ok_iff, readVariable_eq_ok_iff]
  constructor
  · intro read
    obtain ⟨items, elements, each⟩ := read
    -- Characters and names are texts.
    cases storage with
    | list others =>
        cases elements
        exact .list each
    | text characters =>
        cases elements
        obtain ⟨empty, rfl⟩ := eq_nil_of_texts each (List.forall_mem_map.2 fun _ _ => ⟨_, rfl⟩)
        obtain rfl : characters = "" := by simpa using empty
        exact .text
    | object entries =>
        cases elements
        obtain ⟨empty, rfl⟩ := eq_nil_of_texts each (List.forall_mem_map.2 fun _ _ => ⟨_, rfl⟩)
        obtain rfl : entries = [] := by simpa using empty
        exact .object
    | _ => cases elements
  · intro items
    cases items with
    | list each => exact ⟨_, rfl, each⟩
    | text => exact ⟨[], rfl, .nil⟩
    | object => exact ⟨[], rfl, .nil⟩

theorem readType_eq_ok_iff (entry label : String × Value) :
    readType entry = .ok label ↔ LabelOf entry label := by
  obtain ⟨name, text⟩ := label
  simp only [readType, bind_eq_ok_iff, pure_eq_ok_iff, Value.entry_eq_ok_iff, LabelOf,
    Prod.mk.injEq]
  constructor
  · intro read
    obtain ⟨_, given, rfl, rfl⟩ := read
    exact ⟨rfl, given⟩
  · intro labelled
    obtain ⟨rfl, given⟩ := labelled
    exact ⟨_, given, rfl, rfl⟩

theorem readParts_eq_ok_iff (document : Value) (drafts : List Draft) (types : Table Value) :
    readParts document = .ok (drafts, types) ↔ HasParts document drafts types := by
  simp only [readParts, bind_eq_ok_iff, pure_eq_ok_iff, Value.entry_eq_ok_iff,
    Value.entries_eq_ok_iff, Prod.mk.injEq]
  constructor
  · intro read
    obtain ⟨storage, ⟨parts, rfl, found⟩, items, elements, read, each, listed, ⟨_, ⟨⟩, there⟩,
      entries, rfl, labels, labelled, rfl, rfl⟩ := read
    refine .object found ((readVariables_eq_ok_iff _ _).1 ⟨items, elements, each⟩) there ?_
    rw [mapM_eq_ok_iff] at labelled
    exact labelled.imp fun entry label => (readType_eq_ok_iff entry label).1
  · intro parts
    cases parts with
    | object found items listed labelled =>
        obtain ⟨items, elements, each⟩ := (readVariables_eq_ok_iff _ _).2 items
        refine ⟨_, ⟨_, rfl, found⟩, items, elements, drafts, each, _, ⟨_, rfl, listed⟩, _, rfl, _,
          ?_, rfl, rfl⟩
        rw [mapM_eq_ok_iff]
        exact labelled.imp fun entry label => (readType_eq_ok_iff entry label).2

theorem exists_malformed (fault : Fault) :
    ∃ missing, malformed fault = .malformedLayout missing := by
  cases fault <;> exact ⟨_, rfl⟩

theorem fault_of_build {drafts : List Draft} {types : Table Value} {fault : Fault}
    (refused : build drafts types = .error fault) :
    (∃ keys, fault = .unregisteredTypes keys) ∨ fault = .unsuited .tableKey := by
  unfold build at refused
  split at refused
  case isTrue =>
    split at refused
    case h_1 => cases refused
    case h_2 =>
      cases refused
      exact Or.inl ⟨_, rfl⟩
  case isFalse =>
    cases refused
    exact Or.inr rfl

/-- A document without its parts is malformed, and no other document is. -/
theorem ofDocument_malformed_iff (document : Value) :
    (∃ missing, ofDocument document = .error (.malformedLayout missing)) ↔
      ¬∃ drafts types, HasParts document drafts types := by
  simp only [← readParts_eq_ok_iff, ofDocument]
  cases readParts document with
  | error fault =>
      obtain ⟨missing, same⟩ := exists_malformed fault
      refine iff_of_true ⟨missing, ?_⟩ ?_
      · exact congrArg Except.error same
      · intro read
        obtain ⟨_, _, ⟨⟩⟩ := read
  | ok parts =>
      refine iff_of_false ?_ (not_not_intro ⟨parts.1, parts.2, rfl⟩)
      intro refused
      obtain ⟨missing, refused⟩ := refused
      obtain ⟨_, ⟨⟩⟩ | ⟨⟨⟩⟩ := fault_of_build refused

theorem fault_of_ofDocument {document : Value} {fault : Fault}
    (refused : ofDocument document = .error fault) :
    fault.IsOfLayout ∨ fault = .unsuited .tableKey := by
  obtain refused | ⟨parts, _, refused⟩ := (bind_eq_error_iff _ _ _).1 refused
  · left
    cases read : readParts document with
    | ok parts =>
        rw [read] at refused
        cases refused
    | error other =>
        obtain ⟨missing, same⟩ := exists_malformed other
        rw [read] at refused
        obtain rfl : malformed other = fault := Except.error.inj refused
        rw [same]
        exact True.intro
  · apply (fault_of_build refused).imp_left
    intro unregistered
    obtain ⟨keys, rfl⟩ := unregistered
    exact True.intro

theorem reported_iff_settles (document : Value) :
    ((∃ layout, ofDocument document = .ok layout) ∨
      ∃ fault, ofDocument document = .error fault ∧ fault.IsOfLayout) ↔
      Settles (ofDocument document) := by
  cases given : ofDocument document with
  | ok layout => exact iff_of_true (Or.inl ⟨layout, rfl⟩) (settles_ok layout)
  | error fault =>
      rw [settles_error_iff]
      obtain reported | rfl := fault_of_ofDocument given
      · refine iff_of_true (Or.inr ⟨fault, rfl, reported⟩) ?_
        cases fault with
        | malformedLayout | unregisteredTypes => rfl
        | _ => exact False.elim reported
      · refine iff_of_false ?_ Bool.false_ne_true
        intro reported
        obtain ⟨_, ⟨⟩⟩ | ⟨_, ⟨⟩, ⟨⟩⟩ := reported

theorem isLookable_iff (draft : Draft) :
    draft.isLookable = true ↔
      (∀ items, draft.type ≠ .list items) ∧ ∀ entries, draft.type ≠ .object entries := by
  rw [Draft.isLookable]
  cases draft.type <;> simp

/-- A document gives a layout or is refused as layouts are, unless its parts are there and the type
of one of its variables is a list or an object: such a type cannot be looked up. A document whose
parts are not there is malformed, and no other document is. -/
theorem ofDocument_reported_iff (document : Value) :
    (((∃ layout, ofDocument document = .ok layout) ∨
        ∃ fault, ofDocument document = .error fault ∧ fault.IsOfLayout) ↔
      ∀ drafts types, HasParts document drafts types → ∀ draft ∈ drafts,
        (∀ items, draft.type ≠ .list items) ∧ ∀ entries, draft.type ≠ .object entries) ∧
    ((∃ missing, ofDocument document = .error (.malformedLayout missing)) ↔
      ¬∃ drafts types, HasParts document drafts types) ∧
    ∀ fault, ofDocument document = .error fault →
      fault.IsOfLayout ∨ fault = .unsuited .tableKey := by
  refine ⟨?_, ofDocument_malformed_iff document, fun fault => fault_of_ofDocument⟩
  rw [reported_iff_settles, settles_ofDocument_iff, TypesLookable]
  simp only [readParts_eq_ok_iff, isLookable_iff]

def listTypeDocument : Value :=
  .object
    [("storage", .list [.object [("contract", .text "V"), ("label", .text "a"),
        ("type", .list [])]]),
      ("types", .object [])]

theorem not_reported_listTypeDocument :
    ofDocument listTypeDocument = .error (.unsuited .tableKey) ∧
      ¬((∃ layout, ofDocument listTypeDocument = .ok layout) ∨
        ∃ fault, ofDocument listTypeDocument = .error fault ∧ fault.IsOfLayout) := by
  have refused : ofDocument listTypeDocument = .error (.unsuited .tableKey) := rfl
  refine ⟨refused, ?_⟩
  rw [refused]
  intro reported
  obtain ⟨_, ⟨⟩⟩ | ⟨_, ⟨⟩, ⟨⟩⟩ := reported

end Layout

end StorageCompat
