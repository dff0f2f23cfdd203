import StorageCompat.Proofs.Layout.Extraction

/-!
Type labels of an extracted layout. Types are listed under keys from which the numbers of
declaring nodes are erased, so types that differ in nothing else share one entry, and there the
label of the last one stays. A variable keeps the label of its own declaration exactly where all
declarations of one key agree on the label.
-/

namespace StorageCompat.Layout

def Labelled (layout : Layout) (declaration : List (String × Value)) (slot : Slot) : Prop :=
  ∃ text, typeText? .label declaration = some text ∧ layout.typeLabel slot = .ok (.text text)

/-- Each variable has the type label of its own declaration. -/
def KeepsLabels (declarations : List (List (String × Value))) (layout : Layout) : Prop :=
  List.Forall₂ (Labelled layout) declarations layout.slots

def lastOfKey? (key : Option String) (declarations : List (List (String × Value))) :
    Option (List (String × Value)) :=
  declarations.reverse.find? fun declaration => typeKey? declaration == key

/-- Each variable has the type label of the last declaration with the key of its own. -/
def TakesLastLabels (declarations : List (List (String × Value))) (layout : Layout) : Prop :=
  List.Forall₂ (fun declaration slot => ∃ last,
    lastOfKey? (typeKey? declaration) declarations = some last ∧ Labelled layout last slot)
    declarations layout.slots

/-- Declarations whose types have one key also give them one label. -/
def LabelsAgree (declarations : List (List (String × Value))) : Prop :=
  ∀ first ∈ declarations, ∀ second ∈ declarations, typeKey? first = typeKey? second →
    typeText? .label first = typeText? .label second

def Describes (declaration : List (String × Value)) (entry : Slot × Value) : Prop :=
  typeKey? declaration = some entry.1.type ∧
    ∃ text, typeText? .label declaration = some text ∧ entry.2 = .text text

theorem exists_entries {definition : Value} {layout : Layout} {found : List Value}
    (accepted : (ofContract definition).result = .ok layout)
    (listed : nodes definition = .ok found) :
    ∃ entries, List.Forall₂ Describes (kept found) entries ∧ layout = ofLabelled entries := by
  rw [ofContract_result] at accepted
  simp only [bind_eq_ok_iff, pure_eq_ok_iff, listed, mapM_eq_ok_iff, Except.ok.injEq] at accepted
  obtain ⟨contract, -, _, rfl, entries, read, rfl⟩ := accepted
  refine ⟨entries, read.imp ?_, rfl⟩
  rintro declaration ⟨slot, label⟩ declared
  obtain ⟨name, key, text, -, keyed, labelled, rfl, rfl⟩ :=
    (declared_eq_ok_iff _ _ _ _).1 declared
  exact ⟨keyed, text, labelled, rfl⟩

variable {declarations : List (List (String × Value))} {entries : List (Slot × Value)}

theorem lookup_entries (described : List.Forall₂ Describes declarations entries) (key : String) :
    (entries.map fun entry => (entry.1.type, entry.2)).lookup key =
      (declarations.find? fun declaration => typeKey? declaration == some key).bind
        fun declaration => (typeText? .label declaration).map Value.text := by
  induction described with
  | nil => rfl
  | @cons declaration entry declarations entries here _ ih =>
      obtain ⟨keyed, text, labelled, label⟩ := here
      rw [List.map_cons, List.lookup_cons, List.find?_cons, keyed]
      by_cases same : entry.1.type = key
      · simp [same, labelled, label]
      · simp [beq_false_of_ne same, beq_false_of_ne (Ne.symm same), ih]

theorem get?_types_ofLabelled (described : List.Forall₂ Describes declarations entries)
    (key : String) :
    (ofLabelled entries).types.get? key =
      (lastOfKey? (some key) declarations).bind
        fun last => (typeText? .label last).map Value.text := by
  rw [ofLabelled, Table.get?_ofList, ← List.map_reverse]
  exact lookup_entries (List.forall₂_reverse_iff.2 described) key

theorem labelled_last (described : List.Forall₂ Describes declarations entries) {slot : Slot}
    (member : slot ∈ (ofLabelled entries).slots) :
    ∃ last, lastOfKey? (some slot.type) declarations = some last ∧
      Labelled (ofLabelled entries) last slot := by
  obtain ⟨label, given⟩ := (ofLabelled entries).typeLabel_eq_ok slot member
  have listed := (typeLabel_eq_ok_iff _ _ _).1 given
  rw [get?_types_ofLabelled described] at listed
  obtain ⟨last, found, named⟩ := Option.bind_eq_some_iff.1 listed
  obtain ⟨text, labelled, rfl⟩ := Option.map_eq_some_iff.1 named
  exact ⟨last, found, text, labelled, given⟩

theorem takesLastLabels (described : List.Forall₂ Describes declarations entries) :
    TakesLastLabels declarations (ofLabelled entries) := by
  refine List.forall₂_map_right_iff.2 ?_
  obtain ⟨sizes, each⟩ := List.forall₂_iff_zip.1 described
  refine List.forall₂_iff_zip.2 ⟨sizes, ?_⟩
  intro declaration entry member
  have here : entry.1 ∈ (ofLabelled entries).slots :=
    List.mem_map.2 ⟨entry, (List.of_mem_zip member).2, rfl⟩
  rw [(each member).1]
  exact labelled_last described here

theorem Labelled.same_label {layout : Layout} {slot : Slot} {first second : List (String × Value)}
    (labelled : Labelled layout first slot) (labelled' : Labelled layout second slot) :
    typeText? .label first = typeText? .label second := by
  obtain ⟨text, given, label⟩ := labelled
  obtain ⟨text', given', label'⟩ := labelled'
  rw [label, Except.ok.injEq, Value.text.injEq] at label'
  rw [given, given', label']

theorem mem_of_lastOfKey? {key : Option String} {last : List (String × Value)}
    (found : lastOfKey? key declarations = some last) :
    last ∈ declarations ∧ typeKey? last = key := by
  have keyed := List.find?_some found
  exact ⟨List.mem_reverse.1 (List.mem_of_find?_eq_some found), eq_of_beq keyed⟩

theorem keepsLabels_iff {layout : Layout} (takes : TakesLastLabels declarations layout) :
    KeepsLabels declarations layout ↔ LabelsAgree declarations := by
  obtain ⟨sizes, each⟩ := List.forall₂_iff_get.1 takes
  constructor
  · intro keeps
    obtain ⟨-, own⟩ := List.forall₂_iff_get.1 keeps
    have same (i : Fin declarations.length) : ∃ last,
        lastOfKey? (typeKey? (declarations.get i)) declarations = some last ∧
        typeText? .label (declarations.get i) = typeText? .label last := by
      obtain ⟨last, found, labelled⟩ := each i.val i.isLt (sizes ▸ i.isLt)
      exact ⟨last, found, (own i.val i.isLt (sizes ▸ i.isLt)).same_label labelled⟩
    intro first member second member' sameKey
    obtain ⟨i, rfl⟩ := List.mem_iff_get.1 member
    obtain ⟨j, rfl⟩ := List.mem_iff_get.1 member'
    obtain ⟨last, found, label⟩ := same i
    obtain ⟨last', found', label'⟩ := same j
    rw [sameKey, found'] at found
    cases found
    rw [label, label']
  · intro agree
    refine List.forall₂_iff_get.2 ⟨sizes, ?_⟩
    intro i here there
    obtain ⟨last, found, text, labelled, given⟩ := each i here there
    obtain ⟨member, sameKey⟩ := mem_of_lastOfKey? found
    refine ⟨text, ?_, given⟩
    rw [← agree last member _ (List.get_mem _ _) sameKey, labelled]

/-- In the layout of a contract each variable has the type label of the last declaration with the
key of its own. All of them have their own labels exactly if declarations of one key agree. -/
theorem ofContract_typeLabel (definition : Value) (layout : Layout) (found : List Value)
    (accepted : (ofContract definition).result = .ok layout)
    (listed : nodes definition = .ok found) :
    TakesLastLabels (kept found) layout ∧
      (KeepsLabels (kept found) layout ↔ LabelsAgree (kept found)) := by
  obtain ⟨entries, described, rfl⟩ := exists_entries accepted listed
  have takes := takesLastLabels described
  exact ⟨takes, keepsLabels_iff takes⟩

def declarationOf (name identifier label : String) : List (String × Value) :=
  [("nodeType", .text "VariableDeclaration"), ("name", .text name), ("constant", .bool false),
    ("mutability", .text "mutable"),
    ("typeDescriptions",
      .object [("typeIdentifier", .text identifier), ("typeString", .text label)])]

def poolDeclarations : List (List (String × Value)) :=
  [declarationOf "a" "t_struct$_Pool_$12_storage" "struct A.Pool",
    declarationOf "b" "t_struct$_Pool_$34_storage" "struct B.Pool"]

def poolContract : Value :=
  .object [("name", .text "V"), ("nodes", .list (poolDeclarations.map Value.object))]

def poolLayout : Layout :=
  .ofLabelled
    [(⟨.text "V", .text "a", "t_struct(Pool)storage"⟩, .text "struct A.Pool"),
      (⟨.text "V", .text "b", "t_struct(Pool)storage"⟩, .text "struct B.Pool")]

theorem ofContract_typeLabel_pools :
    (ofContract poolContract).result = .ok poolLayout ∧
      nodes poolContract = .ok (poolDeclarations.map Value.object) ∧
      TakesLastLabels (kept (poolDeclarations.map Value.object)) poolLayout ∧
      (KeepsLabels (kept (poolDeclarations.map Value.object)) poolLayout ↔
        LabelsAgree (kept (poolDeclarations.map Value.object))) :=
  ⟨rfl, rfl, ofContract_typeLabel poolContract poolLayout _ rfl rfl⟩

/-- The first of two variables gets the label of the second one's type, which is another struct
of the same name. -/
theorem not_keepsLabels_pools :
    (ofContract poolContract).result = .ok poolLayout ∧
      nodes poolContract = .ok (poolDeclarations.map Value.object) ∧
      ¬KeepsLabels (kept (poolDeclarations.map Value.object)) poolLayout := by
  refine ⟨rfl, rfl, ?_⟩
  rintro (_ | ⟨⟨text, own, given⟩, _⟩)
  cases own
  have same : "struct B.Pool" = "struct A.Pool" := Value.text.inj (Except.ok.inj given)
  exact absurd same (by decide)

end StorageCompat.Layout
