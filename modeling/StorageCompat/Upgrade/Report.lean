import StorageCompat.Upgrade.Changes

/-!
Reports on an upgrade: whether it is safe, how many changes are not, and a description of
each change that is listed.
-/

namespace StorageCompat.Upgrade

structure ReportEntry where
  change : Change
  description : String

structure Report where
  safe : Bool
  incompatibleCount : Nat
  entries : List ReportEntry

def actionTitle : Alignment.Action → String
  | .pair .equal => "一致"
  | .pair .typeChange => "类型变更"
  | .pair .rename => "重命名"
  | .pair .replace => "替换变量"
  | .delete => "删除变量"
  | .append => "append"

def describeSlot (layout : Layout) (slot : Slot) : Except Fault String := do
  let type ← layout.typeLabel slot
  return slot.contract.inline ++ "." ++ slot.label.inline ++ " (" ++ type.inline ++ ")"

def describeChange (older newer : Layout) (change : Change) : Except Fault String := do
  let title := "[" ++ actionTitle change.action ++ "]"
  let parts ←
    match change with
    | .pair _ _ first _ second => do
        let first ← describeSlot older first
        let second ← describeSlot newer second
        pure [first, "->", second]
    | .delete _ first => do
        let first ← describeSlot older first
        pure [first]
    | .append _ second => do
        let second ← describeSlot newer second
        pure [second]
  return " ".intercalate (title :: parts)

def Report.ofChanges (changes : List Change) (older newer : Layout) :
    Except Fault Report := do
  let entries ← changes.mapM fun change => do
    let description ← describeChange older newer change
    return (⟨change, description⟩ : ReportEntry)
  let breaking := breaking changes
  return ⟨breaking.isEmpty, breaking.length, entries⟩

namespace Report

def entryToValue (entry : ReportEntry) : Value :=
  match changeToValue entry.change with
  | .object entries => .object (entries ++ [("description", .text entry.description)])
  | value => value

def toValue (report : Report) : Value :=
  .object
    [("safe", .bool report.safe), ("incompatible_count", .int report.incompatibleCount),
      ("operations", .list (report.entries.map entryToValue))]

def rule : String := String.ofList (List.replicate 80 '=')

def verdict (report : Report) : String :=
  if report.safe then "✓ 升级安全: 未发现存储不兼容变更"
  else "✗ 发现 " ++ toString report.incompatibleCount ++ " 处存储不兼容变更"

def printed (report : Report) : String :=
  let lines :=
    ["", rule, "存储布局升级检查", rule] ++
      report.entries.map (fun entry => "  " ++ entry.description) ++ ["", report.verdict]
  String.join (lines.map (· ++ "\n"))

end Report

end StorageCompat.Upgrade
