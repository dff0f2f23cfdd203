import StorageCompat.Alignment
import StorageCompat.Layout.Basic
import StorageCompat.Log

/-!
What an upgrade changes in a storage layout. The two layouts are aligned slot by slot; two
slots compare by their labels and by the readable labels of their types, never by the keys
of the types. Added variables do no harm, every other change breaks stored data.
-/

open StorageCompat.Alignment (Answer Costs Pairing Script Step align)

namespace StorageCompat.Upgrade

/-- How upgrades are judged: what the steps cost, if other than usual, and whether variables
that stay the same are listed too. -/
structure Policy where
  costs : Option Costs := none
  includeEqual : Bool := false

abbrev Change := Step Slot Slot

def pairing (sameLabel sameType : Bool) : Pairing :=
  match sameLabel, sameType with
  | true, true => .equal
  | true, false => .typeChange
  | false, true => .rename
  | false, false => .replace

def compareSlots (older newer : Layout) (first second : Slot) : Except Fault Answer := do
  let sameLabel := first.label.same second.label
  let firstType ← older.typeLabel first
  let secondType ← newer.typeLabel second
  return .action (.pair (pairing sameLabel (firstType.same secondType)))

def script (costs : Option Costs) (older newer : Layout) :
    Except Fault (Script Slot Slot) := do
  let costs := costs.getD .standard
  let aligned ← (align costs (compareSlots older newer) older.slots newer.slots).run
  aligned

/-- The change is listed under a policy: additions never are. -/
def isListed (policy : Policy) (change : Change) : Bool :=
  !change.isAppend && (policy.includeEqual || !change.isEqual)

def breaking (changes : List Change) : List Change :=
  changes.filter fun change => !change.isEqual

def shownSide (slot : Option Slot) : String :=
  (slot.map Slot.shown).getD "None"

def noteChange (change : Change) : Logged Unit :=
  Logged.note .debug ("  " ++ change.action.name ++ ": " ++ shownSide change.older? ++
    " -> " ++ shownSide change.newer?)

def changes (policy : Policy) (older newer : Layout) : Logged (List Change) := do
  let script ← script policy.costs older newer
  Logged.note .debug ("序列对齐完成: " ++ toString older.slots.length ++ " x " ++
    toString newer.slots.length ++ ", 总代价 " ++ toString script.cost ++ ", " ++
    toString script.steps.length ++ " 个操作")
  let listed := script.steps.filter (isListed policy)
  Logged.note .info ("存储布局比对完成: 发现 " ++ toString (breaking listed).length ++
    " 处不兼容变更")
  (breaking listed).forM noteChange
  return listed

def isSafe (policy : Policy) (older newer : Layout) : Logged Bool := do
  let listed ← changes policy older newer
  return (breaking listed).isEmpty

def changeToValue (change : Change) : Value :=
  change.toValue Slot.toValue Slot.toValue

end StorageCompat.Upgrade
