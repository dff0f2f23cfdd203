import StorageCompat.Alignment.Costs
import StorageCompat.Value.Access

/-!
Settings of a check. They come from a table "storage_check", which may hold a table "costs";
whatever else stands there is refused, and whatever is absent has its usual value.
-/

open StorageCompat.Alignment (Costs)
open StorageCompat.Files (Path)

namespace StorageCompat

structure Settings where
  includeEqual : Bool := false
  costs : Costs := .standard
  source : Option Path := none

namespace Settings

def names : List String := ["include_equal", "costs"]

/-- The names among the entries that are not known, in the order of their code points. -/
def unknown (known : List String) (entries : List (String × Value)) : List String :=
  ((Entries.names entries).filter fun name => !known.contains name).mergeSort
    fun first second => first ≤ second

/-- The table under a name; an empty one if the name is absent. -/
def table (name : String) (entries : List (String × Value)) (fault : SettingsFault) :
    Except SettingsFault (List (String × Value)) :=
  match entries.lookup name with
  | none => .ok []
  | some (.object entries) => .ok entries
  | some _ => .error fault

def readIncludeEqual (entries : List (String × Value)) : Except SettingsFault Bool :=
  match entries.lookup "include_equal" with
  | none => .ok false
  | some (.bool value) => .ok value
  | some value => .error (.includeEqualNotBool value)

def ofEntries (entries : List (String × Value)) : Except SettingsFault Settings := do
  let checks ← table "storage_check" entries .sectionNotTable
  match unknown names checks with
  | [] => pure ()
  | names => throw (.unknownEntries names)
  let includeEqual ← readIncludeEqual checks
  let costs ← table "costs" checks .costsNotTable
  match unknown Costs.names costs with
  | [] => pure ()
  | names => throw (.unknownCosts names)
  let costs ← (Costs.ofEntries costs).mapError .costs
  return { includeEqual, costs }

/-- Why settings are refused, as a cause of failure. A value that is too long to be written
takes the place of what was wrong with it. -/
def toFault : SettingsFault → Fault
  | .includeEqualNotBool value =>
      if value.isWritable then .settings (.includeEqualNotBool value) else .numberTooLong none
  | fault => .settings fault

def ofDocument : Value → Except Fault Settings
  | .object entries => (ofEntries entries).mapError toFault
  | _ => .error (.unsuited .optionalEntry)

end Settings

end StorageCompat
