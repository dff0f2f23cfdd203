import StorageCompat.Proofs.Layout.Collection
import StorageCompat.Proofs.TypeKey.Erasure

/-!
Which declaration of a contract is refused, and why. A declaration is refused for the first of four
reasons: the text that identifies its type is missing, the text that labels it is missing, the
identifier has no key, the variable has no name. The contract is refused as the first of its kept
declarations is that is refused, whatever stands behind it or between.
-/

namespace StorageCompat

theorem Value.entry_object_eq_error_iff (name : String) (entries : List (String × Value))
    (fault : Fault) :
    (Value.object entries).entry name = .error fault ↔
      entries.lookup name = none ∧ fault = .missingEntry name := by
  rw [entry]
  cases entries.lookup name with
  | none => simp [eq_comm]
  | some value => simp

namespace Layout

/-- What stands under "typeDescriptions" is an object, unless it counts as nothing. -/
def DescribedByObject (declaration : List (String × Value)) : Prop :=
  ∀ given ∈ declaration.lookup "typeDescriptions", given.holds = true →
    ∃ descriptions, given = .object descriptions

def Lacks (declaration : List (String × Value)) (wanted : TypeDescription) : Prop :=
  ∀ text, ¬Tells declaration wanted text

/-- Why a declaration is refused, in the order in which the reasons are looked at. -/
inductive Refused (contract : Value) (declaration : List (String × Value)) : Fault → Prop where
  | unidentified (lacks : Lacks declaration .identifier) :
      Refused contract declaration
        (.undescribed contract (SyntaxTree.entryOrNull "name" declaration) .identifier)
  | unlabelled {identifier : String} (identified : Tells declaration .identifier identifier)
      (lacks : Lacks declaration .label) :
      Refused contract declaration
        (.undescribed contract (SyntaxTree.entryOrNull "name" declaration) .label)
  | undecodable {identifier label run : String}
      (identified : Tells declaration .identifier identifier)
      (labelled : Tells declaration .label label)
      (refused : TypeKey.decode identifier.toList = .error (.undecodable run identifier)) :
      Refused contract declaration (.undecodable run identifier)
  | unclosed {identifier label shown : String} {text : List Char}
      (identified : Tells declaration .identifier identifier)
      (labelled : Tells declaration .label label)
      (decoded : TypeKey.decode identifier.toList = .ok text)
      (refused : TypeKey.withoutIds text = .error (.unclosed shown)) :
      Refused contract declaration (.unclosed shown)
  | unnamed {identifier label key : String}
      (identified : Tells declaration .identifier identifier)
      (labelled : Tells declaration .label label)
      (keyed : (TypeKey.ofIdentifier identifier).result = .ok key)
      (unnamed : declaration.lookup "name" = none) :
      Refused contract declaration (.missingEntry "name")

theorem exists_typeDescriptions {declaration : List (String × Value)}
    (described : DescribedByObject declaration) :
    ∃ descriptions, typeDescriptions declaration = .object descriptions := by
  rw [typeDescriptions, SyntaxTree.entryOrNull]
  cases found : declaration.lookup "typeDescriptions" with
  | none => exact ⟨[], rfl⟩
  | some given =>
      rw [Option.getD_some]
      split
      case isTrue holds => exact described given found holds
      case isFalse => exact ⟨[], rfl⟩

theorem describedAs_eq_error_iff (contract : Value) (declaration : List (String × Value))
    (wanted : TypeDescription) (given : Option Value) (fault : Fault) :
    describedAs contract declaration wanted given = .error fault ↔
      (∀ text, given ≠ some (.text text)) ∧
        fault = .undescribed contract (SyntaxTree.entryOrNull "name" declaration) wanted := by
  unfold describedAs
  split
  case h_1 text => simp
  case h_2 other =>
    rw [Except.error.injEq, eq_comm]
    exact (and_iff_right fun text same => other text same).symm

theorem describe_eq_error_iff (contract : Value) {declaration : List (String × Value)}
    (described : DescribedByObject declaration) (fault : Fault) :
    describe contract declaration = .error fault ↔
      (Lacks declaration .identifier ∧
        fault = .undescribed contract (SyntaxTree.entryOrNull "name" declaration) .identifier) ∨
      ((∃ identifier, Tells declaration .identifier identifier) ∧ Lacks declaration .label ∧
        fault = .undescribed contract (SyntaxTree.entryOrNull "name" declaration) .label) := by
  obtain ⟨descriptions, object⟩ := exists_typeDescriptions described
  have tells (wanted : TypeDescription) (text : String) :
      descriptions.lookup wanted.entry = some (.text text) ↔ Tells declaration wanted text := by
    rw [← typeText?_eq_some_iff_tells, typeText?_eq_some_iff, object, Value.entry?,
      Except.ok.injEq]
  have whole : describe contract declaration = do
      let identifier ← describedAs contract declaration .identifier
        (descriptions.lookup TypeDescription.identifier.entry)
      let label ← describedAs contract declaration .label
        (descriptions.lookup TypeDescription.label.entry)
      return (identifier, label) := by
    rw [describe, object]
    rfl
  simp only [whole, bind_eq_error_iff, describedAs_eq_error_iff, describedAs_eq_ok_iff, ne_eq,
    tells, Lacks]
  apply or_congr_right
  constructor
  · intro refused
    obtain ⟨identifier, identified, refused | ⟨label, -, ⟨⟩⟩⟩ := refused
    exact ⟨⟨identifier, identified⟩, refused⟩
  · intro refused
    obtain ⟨⟨identifier, identified⟩, lacks⟩ := refused
    exact ⟨identifier, identified, Or.inl lacks⟩

theorem declared_eq_error_iff (contract : Value) {declaration : List (String × Value)}
    (described : DescribedByObject declaration) (fault : Fault) :
    (declared contract declaration).result = .error fault ↔
      Refused contract declaration fault := by
  simp only [declared, Logged.result_bind, Logged.result_lift, Logged.result_pure,
    bind_eq_error_iff, Prod.exists, describe_eq_error_iff contract described, describe_eq_ok_iff,
    typeText?_eq_some_iff_tells, TypeKey.ofIdentifier_eq_error_iff,
    Value.entry_object_eq_error_iff]
  constructor
  · intro refused
    obtain described | ⟨identifier, label, ⟨identified, labelled⟩, refused⟩ := refused
    · obtain ⟨lacks, rfl⟩ | ⟨⟨identifier, identified⟩, lacks, rfl⟩ := described
      · exact .unidentified lacks
      · exact .unlabelled identified lacks
    · obtain keyless | ⟨key, keyed, ⟨unnamed, rfl⟩ | ⟨_, _, ⟨⟩⟩⟩ := refused
      · obtain ⟨run, refused, rfl⟩ | ⟨text, shown, decoded, refused, rfl⟩ := keyless
        · exact .undecodable identified labelled refused
        · exact .unclosed identified labelled decoded refused
      · exact .unnamed identified labelled keyed unnamed
  · intro refused
    cases refused with
    | unidentified lacks => exact Or.inl (Or.inl ⟨lacks, rfl⟩)
    | unlabelled identified lacks => exact Or.inl (Or.inr ⟨⟨_, identified⟩, lacks, rfl⟩)
    | undecodable identified labelled refused =>
        exact Or.inr ⟨_, _, ⟨identified, labelled⟩, Or.inl (Or.inl ⟨_, refused, rfl⟩)⟩
    | unclosed identified labelled decoded refused =>
        exact Or.inr ⟨_, _, ⟨identified, labelled⟩, Or.inl (Or.inr ⟨_, _, decoded, refused, rfl⟩)⟩
    | unnamed identified labelled keyed unnamed =>
        exact Or.inr ⟨_, _, ⟨identified, labelled⟩, Or.inr ⟨_, keyed, Or.inl ⟨unnamed, rfl⟩⟩⟩

def IsRefused (contract : Value) (declaration : List (String × Value)) : Prop :=
  ∃ fault, Refused contract declaration fault

theorem exists_declared_iff_not_isRefused (contract : Value)
    {declaration : List (String × Value)} (described : DescribedByObject declaration) :
    (∃ entry, (declared contract declaration).result = .ok entry) ↔
      ¬IsRefused contract declaration := by
  simp only [IsRefused, ← declared_eq_error_iff contract described]
  cases (declared contract declaration).result with
  | ok entry => simp
  | error fault => simp

/-- The first of the declarations that is refused, what stands before it, and why it is refused. -/
structure FirstRefused (contract : Value) (declarations before : List (List (String × Value)))
    (declaration : List (String × Value)) (fault : Fault) : Prop where
  parts : ∃ behind, declarations = before ++ declaration :: behind
  first : ∀ earlier ∈ before, ¬IsRefused contract earlier
  refused : Refused contract declaration fault

theorem exists_firstRefused {contract : Value} {declarations : List (List (String × Value))}
    (given : ∃ declaration ∈ declarations, IsRefused contract declaration) :
    ∃ fault before declaration, FirstRefused contract declarations before declaration fault := by
  induction declarations with
  | nil =>
      obtain ⟨declaration, member, -⟩ := given
      cases member
  | cons first rest ih =>
      by_cases here : IsRefused contract first
      · obtain ⟨fault, refused⟩ := here
        exact ⟨fault, [], first, ⟨rest, rfl⟩, List.forall_mem_nil _, refused⟩
      · obtain ⟨declaration, member, refused⟩ := given
        have later := (List.mem_cons.1 member).resolve_left fun same => here (same ▸ refused)
        obtain ⟨fault, before, declaration, ⟨behind, rfl⟩, earlier, refused⟩ :=
          ih ⟨declaration, later, refused⟩
        exact ⟨fault, first :: before, declaration, ⟨behind, rfl⟩,
          List.forall_mem_cons.2 ⟨here, earlier⟩, refused⟩

theorem ofContract_object_eq_error_iff {entries : List (String × Value)} {contract : Value}
    {found : List Value} (named : entries.lookup "name" = some contract)
    (listed : entries.lookup "nodes" = some (.list found)) (fault : Fault) :
    (ofContract (.object entries)).result = .error fault ↔
      ∃ before declaration behind, kept found = before ++ declaration :: behind ∧
        (∀ earlier ∈ before, ∃ entry, (declared contract earlier).result = .ok entry) ∧
        (declared contract declaration).result = .error fault := by
  rw [ofContract_object named listed, bind_eq_error_iff, ← mapM_eq_error_iff]
  exact or_iff_left fun made => by
    obtain ⟨_, _, ⟨⟩⟩ := made

/-- The contract is refused as the first declaration is that is refused, whatever stands behind. -/
theorem FirstRefused.ofContract_eq_error {contract : Value}
    {declarations before : List (List (String × Value))} {declaration : List (String × Value)}
    {fault : Fault} (first : FirstRefused contract declarations before declaration fault)
    (described : ∀ declaration ∈ declarations, DescribedByObject declaration)
    {entries : List (String × Value)} {found : List Value}
    {behind : List (List (String × Value))} (named : entries.lookup "name" = some contract)
    (listed : entries.lookup "nodes" = some (.list found))
    (same : kept found = before ++ declaration :: behind) :
    (ofContract (.object entries)).result = .error fault := by
  obtain ⟨others, rfl⟩ := first.parts
  have here := described declaration (List.mem_append_right before List.mem_cons_self)
  rw [ofContract_object_eq_error_iff named listed]
  refine ⟨before, declaration, behind, same, ?_, ?_⟩
  · intro earlier member
    have there := described earlier (List.mem_append_left _ member)
    exact (exists_declared_iff_not_isRefused contract there).2 (first.first earlier member)
  · exact (declared_eq_error_iff contract here fault).2 first.refused

theorem ofContract_eq_error_iff_firstRefused {entries : List (String × Value)} {contract : Value}
    {found : List Value} (named : entries.lookup "name" = some contract)
    (listed : entries.lookup "nodes" = some (.list found))
    (described : ∀ declaration ∈ kept found, DescribedByObject declaration) (fault : Fault) :
    (ofContract (.object entries)).result = .error fault ↔
      ∃ before declaration, FirstRefused contract (kept found) before declaration fault := by
  constructor
  · intro refused
    obtain ⟨before, declaration, behind, parts, earlier, here⟩ :=
      (ofContract_object_eq_error_iff named listed fault).1 refused
    rw [parts] at described
    have this := described declaration (List.mem_append_right before List.mem_cons_self)
    refine ⟨before, declaration, ⟨behind, parts⟩, ?_, ?_⟩
    · intro other member
      have there := described other (List.mem_append_left _ member)
      exact (exists_declared_iff_not_isRefused contract there).1 (earlier other member)
    · exact (declared_eq_error_iff contract this fault).1 here
  · intro refused
    obtain ⟨before, declaration, first⟩ := refused
    obtain ⟨behind, parts⟩ := first.parts
    exact first.ofContract_eq_error described named listed parts

/-- Some declaration is refused exactly if there is a first one that is. -/
theorem exists_firstRefused_iff (contract : Value) (declarations : List (List (String × Value))) :
    (∃ fault before declaration, FirstRefused contract declarations before declaration fault) ↔
      ∃ declaration ∈ declarations, IsRefused contract declaration := by
  constructor
  · intro first
    obtain ⟨fault, before, declaration, ⟨behind, rfl⟩, -, refused⟩ := first
    have member : declaration ∈ before ++ declaration :: behind :=
      List.mem_append_right before List.mem_cons_self
    exact ⟨declaration, member, fault, refused⟩
  · exact exists_firstRefused

/-- The extraction of a contract is refused exactly if one of its kept declarations is, and then as
the first of these is. Neither what stands behind that one nor any other node has a part in it. -/
theorem ofContract_refused (entries : List (String × Value)) (contract : Value)
    (found : List Value) (named : entries.lookup "name" = some contract)
    (listed : entries.lookup "nodes" = some (.list found))
    (described : ∀ declaration ∈ kept found, DescribedByObject declaration) :
    ((∃ fault, (ofContract (.object entries)).result = .error fault) ↔
      ∃ declaration ∈ kept found, IsRefused contract declaration) ∧
    (∀ fault, (ofContract (.object entries)).result = .error fault ↔
      ∃ before declaration, FirstRefused contract (kept found) before declaration fault) ∧
    (∀ before declaration fault, FirstRefused contract (kept found) before declaration fault →
      ∀ entries' found' behind, entries'.lookup "name" = some contract →
        entries'.lookup "nodes" = some (.list found') →
        kept found' = before ++ declaration :: behind →
        (ofContract (.object entries')).result = .error fault) ∧
    ∀ name missing, (Fault.undescribed contract name missing).message =
      contract.inline ++ "." ++ name.inline ++ " 缺少 " ++ missing.entry := by
  have as_first := ofContract_eq_error_iff_firstRefused named listed described
  refine ⟨?_, as_first, ?_, fun _ _ => rfl⟩
  · simp only [as_first, exists_firstRefused_iff]
  · intro before declaration fault first entries' found' behind named' listed' same
    exact first.ofContract_eq_error described named' listed' same

def debtNodes : List Value :=
  [.object (addressDeclaration "owner" "address"),
    .object [("nodeType", .text "VariableDeclaration"), ("constant", .bool true),
      ("typeDescriptions", .bool true)],
    .object [("nodeType", .text "VariableDeclaration"), ("name", .text "debt"),
      ("typeDescriptions", .object [("typeIdentifier", .text "t_struct$__")])],
    .object [("nodeType", .text "VariableDeclaration")]]

def debtEntries : List (String × Value) :=
  [("name", .text "Vault"), ("nodes", .list debtNodes)]

theorem describedByObject_debtNodes :
    ∀ declaration ∈ kept debtNodes, DescribedByObject declaration := by
  have object : ∀ declaration ∈ kept debtNodes,
      declaration.lookup "typeDescriptions" = none ∨
        ∃ descriptions, declaration.lookup "typeDescriptions" = some (.object descriptions) := by
    have kept_debtNodes : kept debtNodes =
        [addressDeclaration "owner" "address",
          [("nodeType", .text "VariableDeclaration"), ("name", .text "debt"),
            ("typeDescriptions", .object [("typeIdentifier", .text "t_struct$__")])],
          [("nodeType", .text "VariableDeclaration")]] := rfl
    simp only [kept_debtNodes, List.forall_mem_cons]
    exact ⟨Or.inr ⟨_, rfl⟩, Or.inr ⟨_, rfl⟩, Or.inl rfl, List.forall_mem_nil _⟩
  intro declaration member given found _
  obtain absent | ⟨descriptions, known⟩ := object declaration member
  · rw [absent] at found
    cases found
  · rw [known] at found
    cases found
    exact ⟨descriptions, rfl⟩

theorem ofContract_refused_debt :
    debtEntries.lookup "name" = some (.text "Vault") ∧
      debtEntries.lookup "nodes" = some (.list debtNodes) ∧
      (∀ declaration ∈ kept debtNodes, DescribedByObject declaration) ∧
      ((∃ fault, (ofContract (.object debtEntries)).result = .error fault) ↔
        ∃ declaration ∈ kept debtNodes, IsRefused (.text "Vault") declaration) ∧
      (ofContract (.object debtEntries)).result =
        .error (.undescribed (.text "Vault") (.text "debt") .label) ∧
      ∃ before declaration, FirstRefused (.text "Vault") (kept debtNodes) before declaration
        (.undescribed (.text "Vault") (.text "debt") .label) := by
  have refused := ofContract_refused debtEntries (.text "Vault") debtNodes rfl rfl
    describedByObject_debtNodes
  have given : (ofContract (.object debtEntries)).result =
      .error (.undescribed (.text "Vault") (.text "debt") .label) := rfl
  exact ⟨rfl, rfl, describedByObject_debtNodes, refused.1, given, (refused.2.1 _).1 given⟩

end Layout

end StorageCompat
