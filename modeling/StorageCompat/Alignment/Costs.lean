import StorageCompat.Fault

/-!
What the steps of an alignment cost. Pairing equal elements is free and every other step costs
something; replacing an element costs more than changing either half of it alone.
-/

namespace StorageCompat.Alignment

structure Costs where
  typeChange : Nat := 1
  rename : Nat := 1
  replace : Nat := 2
  delete : Nat := 1
  append : Nat := 1
  typeChange_pos : 0 < typeChange := by decide
  rename_pos : 0 < rename := by decide
  delete_pos : 0 < delete := by decide
  append_pos : 0 < append := by decide
  typeChange_lt_replace : typeChange < replace := by decide
  rename_lt_replace : rename < replace := by decide

namespace Costs

def standard : Costs := {}

def names : List String := ["typechange", "rename", "replace", "delete", "append"]

def ofPairing (costs : Costs) : Pairing → Nat
  | .equal => 0
  | .typeChange => costs.typeChange
  | .rename => costs.rename
  | .replace => costs.replace

def ofAction (costs : Costs) : Action → Nat
  | .pair pairing => costs.ofPairing pairing
  | .delete => costs.delete
  | .append => costs.append

def ofAnswer (costs : Costs) (answer : Answer) : Except Fault Nat :=
  match answer.pairing? with
  | some pairing => .ok (costs.ofPairing pairing)
  | none => .error (.illegalAnswer answer)

/-- A whole number above zero. Truth values are no numbers here. -/
def positive (name : String) : Value → Except CostFault { cost : Nat // 0 < cost }
  | .int (.ofNat (cost + 1)) => .ok ⟨cost + 1, Nat.succ_pos cost⟩
  | value => .error (.notPositive name value)

def ofValues (typeChange rename replace delete append : Value) : Except CostFault Costs := do
  let typeChange ← positive "typechange" typeChange
  let rename ← positive "rename" rename
  let replace ← positive "replace" replace
  let delete ← positive "delete" delete
  let append ← positive "append" append
  if dearest : typeChange.val < replace.val ∧ rename.val < replace.val then
    return {
      typeChange := typeChange.val
      rename := rename.val
      replace := replace.val
      delete := delete.val
      append := append.val
      typeChange_pos := typeChange.property
      rename_pos := rename.property
      delete_pos := delete.property
      append_pos := append.property
      typeChange_lt_replace := dearest.1
      rename_lt_replace := dearest.2 }
  else throw (.replaceTooCheap replace.val typeChange.val rename.val)

def given (entries : List (String × Value)) (name : String) (usual : Nat) : Value :=
  (entries.lookup name).getD (.int usual)

def ofEntries (entries : List (String × Value)) : Except CostFault Costs :=
  ofValues (given entries "typechange" standard.typeChange)
    (given entries "rename" standard.rename) (given entries "replace" standard.replace)
    (given entries "delete" standard.delete) (given entries "append" standard.append)

/-- As `ofEntries`, but every name has to be that of a cost. -/
def read (entries : List (String × Value)) : Except Fault Costs :=
  if (Entries.names entries).all names.contains then (ofEntries entries).mapError .costs
  else .error (.unsuited .cost)

def toValue (costs : Costs) : Value :=
  .object [("typechange", .int costs.typeChange), ("rename", .int costs.rename),
    ("replace", .int costs.replace), ("delete", .int costs.delete),
    ("append", .int costs.append)]

theorem replace_pos (costs : Costs) : 0 < costs.replace :=
  Nat.lt_trans costs.rename_pos costs.rename_lt_replace

theorem ofPairing_eq_zero_iff (costs : Costs) (pairing : Pairing) :
    costs.ofPairing pairing = 0 ↔ pairing = .equal := by
  have typeChange := costs.typeChange_pos
  have rename := costs.rename_pos
  have replace := costs.replace_pos
  cases pairing <;> simp [ofPairing] <;> omega

theorem ofPairing_le_replace (costs : Costs) (pairing : Pairing) :
    costs.ofPairing pairing ≤ costs.replace := by
  cases pairing with
  | equal => exact Nat.zero_le _
  | typeChange => exact Nat.le_of_lt costs.typeChange_lt_replace
  | rename => exact Nat.le_of_lt costs.rename_lt_replace
  | replace => exact Nat.le_refl _

theorem standard_ofAction_le (costs : Costs) (action : Action) :
    standard.ofAction action ≤ costs.ofAction action := by
  have typeChange := costs.typeChange_pos
  have rename := costs.rename_pos
  have replace := costs.rename_lt_replace
  have delete := costs.delete_pos
  have append := costs.append_pos
  cases action with
  | pair pairing => cases pairing <;> simp [ofAction, ofPairing, standard] <;> omega
  | delete => exact delete
  | append => exact append

end Costs

end StorageCompat.Alignment
