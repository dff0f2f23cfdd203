import StorageCompat.Alignment.Costs
import StorageCompat.Proofs.Success

/-!
Which named values are costs. An amount that is not given is the usual one; the five amounts are
costs if each is a whole number above zero and replacing is dearer than changing a type and than
renaming. Costs are read exactly where the amounts are costs, and they are these amounts.
-/

namespace StorageCompat.Alignment

structure Amounts where
  typeChange : Int
  rename : Int
  replace : Int
  delete : Int
  append : Int

structure Amounts.Valid (amounts : Amounts) : Prop where
  typeChange_pos : 0 < amounts.typeChange
  rename_pos : 0 < amounts.rename
  replace_pos : 0 < amounts.replace
  delete_pos : 0 < amounts.delete
  append_pos : 0 < amounts.append
  typeChange_lt_replace : amounts.typeChange < amounts.replace
  rename_lt_replace : amounts.rename < amounts.replace

/-- The amount given under a name, or the usual one if the name is absent. -/
def HasAmount (entries : List (String × Value)) (name : String) (usual amount : Int) : Prop :=
  entries.lookup name = some (.int amount) ∨ entries.lookup name = none ∧ amount = usual

/-- The amounts that entries give, and the usual ones for what they leave out. -/
structure Amounts.FilledFrom (entries : List (String × Value)) (amounts : Amounts) : Prop where
  typeChange : HasAmount entries "typechange" 1 amounts.typeChange
  rename : HasAmount entries "rename" 1 amounts.rename
  replace : HasAmount entries "replace" 2 amounts.replace
  delete : HasAmount entries "delete" 1 amounts.delete
  append : HasAmount entries "append" 1 amounts.append

namespace Costs

def amounts (costs : Costs) : Amounts :=
  ⟨costs.typeChange, costs.rename, costs.replace, costs.delete, costs.append⟩

theorem amounts_valid (costs : Costs) : costs.amounts.Valid where
  typeChange_pos := Int.natCast_pos.2 costs.typeChange_pos
  rename_pos := Int.natCast_pos.2 costs.rename_pos
  replace_pos := Int.natCast_pos.2 costs.replace_pos
  delete_pos := Int.natCast_pos.2 costs.delete_pos
  append_pos := Int.natCast_pos.2 costs.append_pos
  typeChange_lt_replace := Int.ofNat_lt.2 costs.typeChange_lt_replace
  rename_lt_replace := Int.ofNat_lt.2 costs.rename_lt_replace

theorem exists_amounts_eq {amounts : Amounts} (valid : amounts.Valid) :
    ∃ costs : Costs, costs.amounts = amounts := by
  obtain ⟨typeChange, rename, replace, delete, append, typeChangeLess, renameLess⟩ := valid
  refine ⟨{
    typeChange := amounts.typeChange.toNat
    rename := amounts.rename.toNat
    replace := amounts.replace.toNat
    delete := amounts.delete.toNat
    append := amounts.append.toNat
    typeChange_pos := by omega
    rename_pos := by omega
    delete_pos := by omega
    append_pos := by omega
    typeChange_lt_replace := by omega
    rename_lt_replace := by omega }, ?_⟩
  have whole {amount : Int} (positive : 0 < amount) : (amount.toNat : Int) = amount :=
    Int.toNat_of_nonneg (Int.le_of_lt positive)
  unfold Costs.amounts
  simp only [whole typeChange, whole rename, whole replace, whole delete, whole append]

theorem positive_eq_ok_iff (name : String) (value : Value) (cost : { cost : Nat // 0 < cost }) :
    positive name value = .ok cost ↔ value = .int cost.val := by
  obtain ⟨cost, above⟩ := cost
  unfold positive
  split
  case h_1 before =>
    rw [Except.ok.injEq, Subtype.mk.injEq, Value.int.injEq]
    exact Int.ofNat_inj.symm
  case h_2 other =>
    apply iff_of_false nofun
    intro same
    obtain ⟨before, rfl⟩ := Nat.exists_eq_succ_of_ne_zero (Nat.ne_of_gt above)
    exact other before same

theorem given_eq_int_iff (entries : List (String × Value)) (name : String) (usual : Nat)
    (amount : Int) :
    given entries name usual = .int amount ↔ HasAmount entries name usual amount := by
  unfold given HasAmount
  cases entries.lookup name with
  | none => simp [eq_comm]
  | some value => simp

/-- Costs are read from five values exactly if the values are the amounts of the costs. -/
theorem ofValues_eq_ok_iff (typeChange rename replace delete append : Value) (costs : Costs) :
    ofValues typeChange rename replace delete append = .ok costs ↔
      typeChange = .int costs.typeChange ∧ rename = .int costs.rename ∧
        replace = .int costs.replace ∧ delete = .int costs.delete ∧
          append = .int costs.append := by
  simp only [ofValues, bind_eq_ok_iff, positive_eq_ok_iff]
  constructor
  · intro read
    obtain ⟨typeChange, rfl, rename, rfl, replace, rfl, delete, rfl, append, rfl, read⟩ := read
    split at read
    case isTrue dearest =>
      cases read
      exact ⟨rfl, rfl, rfl, rfl, rfl⟩
    case isFalse => cases read
  · intro same
    obtain ⟨rfl, rfl, rfl, rfl, rfl⟩ := same
    refine ⟨⟨_, costs.typeChange_pos⟩, rfl, ⟨_, costs.rename_pos⟩, rfl, ⟨_, costs.replace_pos⟩,
      rfl, ⟨_, costs.delete_pos⟩, rfl, ⟨_, costs.append_pos⟩, rfl, ?_⟩
    rw [dif_pos ⟨costs.typeChange_lt_replace, costs.rename_lt_replace⟩]
    rfl

/-- Costs are read from entries exactly if their amounts are those of the entries, filled up with
the usual ones. -/
theorem ofEntries_eq_ok_iff (entries : List (String × Value)) (costs : Costs) :
    ofEntries entries = .ok costs ↔ costs.amounts.FilledFrom entries := by
  simp only [ofEntries, ofValues_eq_ok_iff, given_eq_int_iff]
  constructor
  · intro given
    obtain ⟨typeChange, rename, replace, delete, append⟩ := given
    exact ⟨typeChange, rename, replace, delete, append⟩
  · intro filled
    exact ⟨filled.typeChange, filled.rename, filled.replace, filled.delete, filled.append⟩

-- A change of type that costs as much as the usual replacement needs a dearer one.
example : ofEntries [("typechange", .int 2)] = .error (.replaceTooCheap 2 2 1) := rfl
example : ∃ costs, ofEntries [("typechange", .int 2), ("replace", .int 3)] = .ok costs := ⟨_, rfl⟩

end Costs

end StorageCompat.Alignment
