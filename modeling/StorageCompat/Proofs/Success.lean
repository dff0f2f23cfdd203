import Mathlib.Data.List.Forall2

/-!
When computations that may be refused succeed: a sequence if each of its parts does, a traversal
if it does at each element. A refusal of the whole is that of one of the parts.
-/

namespace StorageCompat

variable {ε α β : Type}

theorem bind_eq_ok_iff (first : Except ε α) (next : α → Except ε β) (value : β) :
    first >>= next = .ok value ↔ ∃ found, first = .ok found ∧ next found = .ok value := by
  cases first with
  | error fault => simp [bind, Except.bind]
  | ok found => simp [bind, Except.bind]

theorem bind_eq_error_iff (first : Except ε α) (next : α → Except ε β) (refusal : ε) :
    first >>= next = .error refusal ↔
      first = .error refusal ∨ ∃ found, first = .ok found ∧ next found = .error refusal := by
  cases first with
  | error other => simp [bind, Except.bind]
  | ok found => simp [bind, Except.bind]

theorem pure_eq_ok_iff (given value : α) :
    (pure given : Except ε α) = .ok value ↔ given = value :=
  ⟨Except.ok.inj, congrArg Except.ok⟩

theorem map_eq_ok_iff (first : Except ε α) (next : α → β) (value : β) :
    first.map next = .ok value ↔ ∃ found, first = .ok found ∧ next found = value := by
  cases first with
  | error fault => simp [Except.map]
  | ok found => simp [Except.map]

theorem map_eq_error_iff (first : Except ε α) (next : α → β) (refusal : ε) :
    first.map next = .error refusal ↔ first = .error refusal := by
  cases first with
  | error other => simp [Except.map]
  | ok found => simp [Except.map]

theorem mapError_eq_ok_iff {δ : Type} (first : Except ε α) (next : ε → δ) (value : α) :
    first.mapError next = .ok value ↔ first = .ok value := by
  cases first with
  | error fault => exact iff_of_false nofun nofun
  | ok found =>
      change (Except.ok found : Except δ α) = .ok value ↔ _
      rw [Except.ok.injEq, Except.ok.injEq]

theorem mapError_eq_error_iff {δ : Type} (first : Except ε α) (next : ε → δ) (refusal : δ) :
    first.mapError next = .error refusal ↔
      ∃ fault, first = .error fault ∧ next fault = refusal := by
  cases first with
  | error fault => simp [Except.mapError]
  | ok found => simp [Except.mapError]

theorem toOption_eq_some_iff (result : Except ε α) (value : α) :
    result.toOption = some value ↔ result = .ok value := by
  cases result <;> simp [Except.toOption]

theorem mapM_eq_ok_iff (visit : α → Except ε β) (elements : List α) (values : List β) :
    elements.mapM visit = .ok values ↔
      List.Forall₂ (fun element value => visit element = .ok value) elements values := by
  induction elements generalizing values with
  | nil =>
      rw [List.mapM_nil, pure_eq_ok_iff, List.forall₂_nil_left_iff]
      exact eq_comm
  | cons element rest ih =>
      simp only [List.mapM_cons, bind_eq_ok_iff, pure_eq_ok_iff, ih, List.forall₂_cons_left_iff]
      constructor
      · rintro ⟨value, here, later, there, rfl⟩
        exact ⟨value, later, here, there, rfl⟩
      · rintro ⟨value, later, here, there, rfl⟩
        exact ⟨value, here, later, there, rfl⟩

/-- A traversal is refused as the first element is that is refused; what stands behind it is not
looked at. -/
theorem mapM_eq_error_iff (visit : α → Except ε β) (elements : List α) (refusal : ε) :
    elements.mapM visit = .error refusal ↔
      ∃ before element behind, elements = before ++ element :: behind ∧
        (∀ earlier ∈ before, ∃ value, visit earlier = .ok value) ∧
        visit element = .error refusal := by
  induction elements with
  | nil =>
      constructor
      · intro refused
        cases refused
      · intro refused
        obtain ⟨before, element, behind, parts, -⟩ := refused
        cases List.append_ne_nil_of_right_ne_nil before (List.cons_ne_nil element behind) parts.symm
  | cons first rest ih =>
      rw [List.mapM_cons, bind_eq_error_iff]
      constructor
      · intro refused
        obtain here | ⟨value, accepted, later⟩ := refused
        · exact ⟨[], first, rest, rfl, List.forall_mem_nil _, here⟩
        obtain later | ⟨_, _, ⟨⟩⟩ := (bind_eq_error_iff _ _ _).1 later
        obtain ⟨before, element, behind, rfl, earlier, there⟩ := ih.1 later
        refine ⟨first :: before, element, behind, rfl, ?_, there⟩
        exact List.forall_mem_cons.2 ⟨⟨value, accepted⟩, earlier⟩
      · intro refused
        obtain ⟨before, element, behind, parts, earlier, there⟩ := refused
        cases before with
        | nil =>
            cases parts
            exact Or.inl there
        | cons other before =>
            cases parts
            obtain ⟨⟨value, accepted⟩, earlier⟩ := List.forall_mem_cons.1 earlier
            refine Or.inr ⟨value, accepted, (bind_eq_error_iff _ _ _).2 (Or.inl ?_)⟩
            exact ih.2 ⟨before, element, behind, rfl, earlier, there⟩

theorem exists_of_mapM_eq_error {visit : α → Except ε β} {elements : List α} {refusal : ε}
    (refused : elements.mapM visit = .error refusal) :
    ∃ element ∈ elements, visit element = .error refusal := by
  obtain ⟨before, element, behind, rfl, -, here⟩ := (mapM_eq_error_iff _ _ _).1 refused
  exact ⟨element, List.mem_append_right before List.mem_cons_self, here⟩

theorem exists_forall₂ {relation : α → β → Prop} {elements : List α}
    (each : ∀ element ∈ elements, ∃ value, relation element value) :
    ∃ values, List.Forall₂ relation elements values := by
  induction elements with
  | nil => exact ⟨[], .nil⟩
  | cons element rest ih =>
      obtain ⟨⟨value, here⟩, each⟩ := List.forall_mem_cons.1 each
      obtain ⟨values, later⟩ := ih each
      exact ⟨value :: values, .cons here later⟩

theorem exists_mapM {visit : α → Except ε β} {elements : List α}
    (each : ∀ element ∈ elements, ∃ value, visit element = .ok value) :
    ∃ values, elements.mapM visit = .ok values := by
  simp only [mapM_eq_ok_iff]
  exact exists_forall₂ each

end StorageCompat
