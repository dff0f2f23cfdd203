import StorageCompat.Alignment.Costs

/-!
The steps of an alignment of two sequences. A pairing takes an element of either side, a
deletion one of the first and an addition one of the second; each names the places of what
it takes.
-/

namespace StorageCompat.Alignment

variable {α β : Type}

inductive Step (α β : Type) where
  | pair (pairing : Pairing) (olderIndex : Nat) (older : α) (newerIndex : Nat)
      (newer : β)
  | delete (olderIndex : Nat) (older : α)
  | append (newerIndex : Nat) (newer : β)
  deriving DecidableEq, Repr

namespace Step

def action : Step α β → Action
  | .pair pairing _ _ _ _ => .pair pairing
  | .delete _ _ => .delete
  | .append _ _ => .append

def olderIndex? : Step α β → Option Nat
  | .pair _ index _ _ _ => some index
  | .delete index _ => some index
  | .append _ _ => none

def newerIndex? : Step α β → Option Nat
  | .pair _ _ _ index _ => some index
  | .delete _ _ => none
  | .append index _ => some index

def older? : Step α β → Option α
  | .pair _ _ older _ _ => some older
  | .delete _ older => some older
  | .append _ _ => none

def newer? : Step α β → Option β
  | .pair _ _ _ _ newer => some newer
  | .delete _ _ => none
  | .append _ newer => some newer

def cost (costs : Costs) (step : Step α β) : Nat :=
  costs.ofAction step.action

@[simp] theorem cost_pair (costs : Costs) (pairing : Pairing) (i : Nat) (first : α) (j : Nat)
    (second : β) : (pair pairing i first j second).cost costs = costs.ofPairing pairing := rfl

@[simp] theorem cost_delete (costs : Costs) (i : Nat) (first : α) :
    (delete i first : Step α β).cost costs = costs.delete := rfl

@[simp] theorem cost_append (costs : Costs) (j : Nat) (second : β) :
    (append j second : Step α β).cost costs = costs.append := rfl

def isEqual (step : Step α β) : Bool :=
  step.action == .pair .equal

def isAppend (step : Step α β) : Bool :=
  step.action == .append

def toValue (writeOlder : α → Value) (writeNewer : β → Value) (step : Step α β) : Value :=
  let older (index : Nat) (element : α) :=
    [("original_index", Value.int index), ("original", writeOlder element)]
  let newer (index : Nat) (element : β) :=
    [("updated_index", Value.int index), ("updated", writeNewer element)]
  .object <| ("action", .text step.action.name) ::
    match step with
    | .pair _ olderIndex element newerIndex other =>
        older olderIndex element ++ newer newerIndex other
    | .delete index element => older index element
    | .append index element => newer index element

end Step

end StorageCompat.Alignment
