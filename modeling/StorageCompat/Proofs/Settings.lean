import StorageCompat.Proofs.Alignment.Amounts
import StorageCompat.Proofs.Value.Writable
import StorageCompat.Settings

/-!
Which documents are settings. A document configures a switch and five amounts if its tables are
tables that hold known names only, the switch is a truth value and the costs are whole numbers;
what it leaves out has its usual value. It gives settings exactly if these amounts are costs, and
the settings are then this switch and these costs. Any other document is refused for the first
reason that is found, but for one kind: what stands in the place of the switch is part of the
refusal, and where it holds a whole number too long to be written, there is no such refusal.
-/

open StorageCompat.Alignment (Amounts Costs)

namespace StorageCompat.Settings

section

variable (entries : List (String × Value)) (name : String)

/-- The entries of the table under a name. It is empty if the name is absent. -/
def HasTable (found : List (String × Value)) : Prop :=
  entries.lookup name = some (.object found) ∨ entries.lookup name = none ∧ found = []

def HasNoTable : Prop :=
  ∃ value, entries.lookup name = some value ∧ ∀ found, value ≠ .object found

def OnlyNames (known : List String) : Prop :=
  ∀ name ∈ Entries.names entries, name ∈ known

/-- The truth value of the switch, which is off if it is absent. -/
def HasSwitch (includeEqual : Bool) : Prop :=
  entries.lookup "include_equal" = some (.bool includeEqual) ∨
    entries.lookup "include_equal" = none ∧ includeEqual = false

def HasOtherSwitch (value : Value) : Prop :=
  entries.lookup "include_equal" = some value ∧ ∀ includeEqual, value ≠ .bool includeEqual

end

/-- The document is made as settings are, with this switch and these amounts for the costs. -/
inductive Configures (document : List (String × Value)) (includeEqual : Bool)
    (amounts : Amounts) : Prop where
  | intro {checks costs : List (String × Value)}
      (opened : HasTable document "storage_check" checks)
      (known : OnlyNames checks ["include_equal", "costs"])
      (switch : HasSwitch checks includeEqual)
      (priced : HasTable checks "costs" costs)
      (actions : OnlyNames costs ["typechange", "rename", "replace", "delete", "append"])
      (filled : amounts.FilledFrom costs)

/-- Why a document is refused, in the order in which the reasons are looked at. -/
inductive Refused (document : List (String × Value)) : SettingsFault → Prop where
  | sectionNotTable (other : HasNoTable document "storage_check") :
      Refused document .sectionNotTable
  | unknownEntries {checks : List (String × Value)}
      (opened : HasTable document "storage_check" checks) (strange : ¬OnlyNames checks names) :
      Refused document (.unknownEntries (unknown names checks))
  | includeEqualNotBool {checks : List (String × Value)} {value : Value}
      (opened : HasTable document "storage_check" checks) (known : OnlyNames checks names)
      (other : HasOtherSwitch checks value) : Refused document (.includeEqualNotBool value)
  | costsNotTable {checks : List (String × Value)} {includeEqual : Bool}
      (opened : HasTable document "storage_check" checks) (known : OnlyNames checks names)
      (switch : HasSwitch checks includeEqual) (other : HasNoTable checks "costs") :
      Refused document .costsNotTable
  | unknownCosts {checks costs : List (String × Value)} {includeEqual : Bool}
      (opened : HasTable document "storage_check" checks) (known : OnlyNames checks names)
      (switch : HasSwitch checks includeEqual) (priced : HasTable checks "costs" costs)
      (strange : ¬OnlyNames costs Costs.names) :
      Refused document (.unknownCosts (unknown Costs.names costs))
  | costs {checks costs : List (String × Value)} {includeEqual : Bool} {fault : CostFault}
      (opened : HasTable document "storage_check" checks) (known : OnlyNames checks names)
      (switch : HasSwitch checks includeEqual) (priced : HasTable checks "costs" costs)
      (actions : OnlyNames costs Costs.names) (refused : Costs.ofEntries costs = .error fault) :
      Refused document (.costs fault)

/-- Somewhere in what stands in the place of the switch is a whole number that is too long to be
written, and nothing before the switch is wrong. -/
def HasUnwritableSwitch (document : List (String × Value)) : Prop :=
  ∃ checks value position number, HasTable document "storage_check" checks ∧
    OnlyNames checks ["include_equal", "costs"] ∧ checks.lookup "include_equal" = some value ∧
      value.part? position = some (.int number) ∧ 10 ^ Numeral.longest ≤ number.natAbs

theorem table_eq_ok_iff (name : String) (entries found : List (String × Value))
    (fault : SettingsFault) :
    table name entries fault = .ok found ↔ HasTable entries name found := by
  unfold table HasTable
  cases entries.lookup name with
  | none => simp [eq_comm]
  | some value => cases value <;> simp

theorem table_eq_error_iff (name : String) (entries : List (String × Value))
    (fault refusal : SettingsFault) :
    table name entries fault = .error refusal ↔ HasNoTable entries name ∧ fault = refusal := by
  unfold table HasNoTable
  cases entries.lookup name with
  | none => simp
  | some value => cases value <;> simp

theorem readIncludeEqual_eq_ok_iff (entries : List (String × Value)) (includeEqual : Bool) :
    readIncludeEqual entries = .ok includeEqual ↔ HasSwitch entries includeEqual := by
  unfold readIncludeEqual HasSwitch
  cases entries.lookup "include_equal" with
  | none => simp [eq_comm]
  | some value => cases value <;> simp

theorem readIncludeEqual_eq_error_iff (entries : List (String × Value)) (fault : SettingsFault) :
    readIncludeEqual entries = .error fault ↔
      ∃ value, HasOtherSwitch entries value ∧ .includeEqualNotBool value = fault := by
  unfold readIncludeEqual HasOtherSwitch
  cases entries.lookup "include_equal" with
  | none => simp
  | some value => cases value <;> simp

theorem unknown_eq_nil_iff (known : List String) (entries : List (String × Value)) :
    unknown known entries = [] ↔ OnlyNames entries known := by
  rw [unknown, ← List.length_eq_zero_iff, List.length_mergeSort, List.length_eq_zero_iff,
    List.filter_eq_nil_iff]
  simp [OnlyNames]

def refuseUnknown (known : List String) (entries : List (String × Value))
    (refusal : List String → SettingsFault) : Except SettingsFault Unit :=
  match unknown known entries with
  | [] => pure ()
  | names => throw (refusal names)

theorem refuseUnknown_eq_ok_iff (known : List String) (entries : List (String × Value))
    (refusal : List String → SettingsFault) (done : Unit) :
    refuseUnknown known entries refusal = .ok done ↔ OnlyNames entries known := by
  rw [← unknown_eq_nil_iff]
  unfold refuseUnknown
  split
  case h_1 none => exact iff_of_true rfl none
  case h_2 some => exact iff_of_false nofun some

theorem refuseUnknown_eq_error_iff (known : List String) (entries : List (String × Value))
    (refusal : List String → SettingsFault) (fault : SettingsFault) :
    refuseUnknown known entries refusal = .error fault ↔
      ¬OnlyNames entries known ∧ refusal (unknown known entries) = fault := by
  rw [← unknown_eq_nil_iff]
  unfold refuseUnknown
  split
  case h_1 none => exact iff_of_false nofun fun strange => strange.1 none
  case h_2 some =>
    rw [and_iff_right some]
    exact ⟨Except.error.inj, congrArg Except.error⟩

theorem ofEntries_eq (document : List (String × Value)) :
    ofEntries document = do
      let checks ← table "storage_check" document .sectionNotTable
      refuseUnknown names checks .unknownEntries
      let includeEqual ← readIncludeEqual checks
      let costs ← table "costs" checks .costsNotTable
      refuseUnknown Costs.names costs .unknownCosts
      let costs ← (Costs.ofEntries costs).mapError .costs
      return { includeEqual, costs } := by
  unfold ofEntries refuseUnknown
  congr 1
  funext checks
  cases unknown names checks with
  | cons name rest => rfl
  | nil =>
      show (readIncludeEqual checks >>= _) = (readIncludeEqual checks >>= _)
      congr 1
      funext includeEqual
      congr 1
      funext costs
      cases unknown Costs.names costs <;> rfl

theorem ofEntries_eq_ok_iff (document : List (String × Value)) (settings : Settings) :
    ofEntries document = .ok settings ↔
      Configures document settings.includeEqual settings.costs.amounts ∧
        settings.source = none := by
  simp only [ofEntries_eq, bind_eq_ok_iff, pure_eq_ok_iff, table_eq_ok_iff,
    refuseUnknown_eq_ok_iff, readIncludeEqual_eq_ok_iff, mapError_eq_ok_iff,
    Costs.ofEntries_eq_ok_iff]
  constructor
  · intro read
    obtain ⟨checks, opened, _, known, includeEqual, switch, costs, priced, _, actions, prices,
      filled, rfl⟩ := read
    exact ⟨.intro opened known switch priced actions filled, rfl⟩
  · intro made
    obtain ⟨⟨opened, known, switch, priced, actions, filled⟩, sourceless⟩ := made
    refine ⟨_, opened, (), known, _, switch, _, priced, (), actions, _, filled, ?_⟩
    rw [← sourceless]

/-- A document that gives no settings is refused for the first of the reasons. -/
theorem ofEntries_eq_error_iff (document : List (String × Value)) (fault : SettingsFault) :
    ofEntries document = .error fault ↔ Refused document fault := by
  simp only [ofEntries_eq, bind_eq_error_iff, table_eq_ok_iff, table_eq_error_iff,
    refuseUnknown_eq_ok_iff, refuseUnknown_eq_error_iff, readIncludeEqual_eq_ok_iff,
    readIncludeEqual_eq_error_iff, mapError_eq_error_iff]
  constructor
  · intro refused
    obtain ⟨other, rfl⟩ | ⟨checks, opened, refused⟩ := refused
    · exact .sectionNotTable other
    obtain ⟨strange, rfl⟩ | ⟨_, known, refused⟩ := refused
    · exact .unknownEntries opened strange
    obtain ⟨value, other, rfl⟩ | ⟨includeEqual, switch, refused⟩ := refused
    · exact .includeEqualNotBool opened known other
    obtain ⟨other, rfl⟩ | ⟨costs, priced, refused⟩ := refused
    · exact .costsNotTable opened known switch other
    obtain ⟨strange, rfl⟩ | ⟨_, actions, refused⟩ := refused
    · exact .unknownCosts opened known switch priced strange
    obtain ⟨reason, refused, rfl⟩ | ⟨_, _, ⟨⟩⟩ := refused
    exact .costs opened known switch priced actions refused
  · intro refused
    cases refused with
    | sectionNotTable other => exact Or.inl ⟨other, rfl⟩
    | unknownEntries opened strange => exact Or.inr ⟨_, opened, Or.inl ⟨strange, rfl⟩⟩
    | includeEqualNotBool opened known other =>
        exact Or.inr ⟨_, opened, Or.inr ⟨(), known, Or.inl ⟨_, other, rfl⟩⟩⟩
    | costsNotTable opened known switch other =>
        exact Or.inr ⟨_, opened, Or.inr ⟨(), known, Or.inr ⟨_, switch, Or.inl ⟨other, rfl⟩⟩⟩⟩
    | unknownCosts opened known switch priced strange =>
        exact Or.inr ⟨_, opened, Or.inr ⟨(), known, Or.inr ⟨_, switch, Or.inr ⟨_, priced,
          Or.inl ⟨strange, rfl⟩⟩⟩⟩⟩
    | costs opened known switch priced actions refused =>
        exact Or.inr ⟨_, opened, Or.inr ⟨(), known, Or.inr ⟨_, switch, Or.inr ⟨_, priced,
          Or.inr ⟨(), actions, Or.inl ⟨_, refused, rfl⟩⟩⟩⟩⟩⟩

theorem Refused.unique {document : List (String × Value)} {first second : SettingsFault}
    (here : Refused document first) (there : Refused document second) : first = second := by
  rw [← ofEntries_eq_error_iff] at here there
  exact Except.error.inj (here.symm.trans there)

theorem hasUnwritableSwitch_iff (document : List (String × Value)) :
    HasUnwritableSwitch document ↔
      ∃ value, Refused document (.includeEqualNotBool value) ∧ value.isWritable = false := by
  constructor
  · intro unwritable
    obtain ⟨checks, value, position, number, opened, known, given, found, long⟩ := unwritable
    refine ⟨value, .includeEqualNotBool opened known ⟨given, ?_⟩, ?_⟩
    · intro includeEqual same
      cases same
      cases position <;> cases found
    · rw [← Bool.not_eq_true, Value.isWritable_iff]
      intro short
      exact Nat.not_le_of_lt (short position number found) long
  · intro refused
    obtain ⟨value, refused, unwritable⟩ := refused
    cases refused with
    | includeEqualNotBool opened known other =>
        rw [← Bool.not_eq_true, Value.isWritable_iff] at unwritable
        simp only [not_forall] at unwritable
        obtain ⟨position, number, found, long⟩ := unwritable
        exact ⟨_, value, position, number, opened, known, other.1, found, Nat.le_of_not_lt long⟩

theorem toFault_eq_settings {reason : SettingsFault}
    (writable : ∀ value, reason = .includeEqualNotBool value → value.isWritable = true) :
    toFault reason = .settings reason := by
  cases reason with
  | includeEqualNotBool value => exact if_pos (writable value rfl)
  | _ => rfl

theorem ofDocument_object_eq_error_iff (document : List (String × Value)) (fault : Fault) :
    ofDocument (.object document) = .error fault ↔
      HasUnwritableSwitch document ∧ fault = .numberTooLong none ∨
        ¬HasUnwritableSwitch document ∧
          ∃ reason, Refused document reason ∧ fault = .settings reason := by
  rw [ofDocument, mapError_eq_error_iff]
  simp only [ofEntries_eq_error_iff]
  by_cases unwritable : HasUnwritableSwitch document
  · obtain ⟨value, refused, long⟩ := (hasUnwritableSwitch_iff document).1 unwritable
    have written : toFault (.includeEqualNotBool value) = .numberTooLong none :=
      if_neg (Bool.not_eq_true _ ▸ long)
    simp only [unwritable, true_and, not_true, false_and, or_false]
    constructor
    · intro refusal
      obtain ⟨reason, other, rfl⟩ := refusal
      rw [other.unique refused, written]
    · intro same
      exact ⟨_, refused, written.trans same.symm⟩
  · have settings (reason : SettingsFault) (refused : Refused document reason) :
        toFault reason = .settings reason := by
      apply toFault_eq_settings
      intro value same
      by_contra long
      rw [Bool.not_eq_true] at long
      exact unwritable ((hasUnwritableSwitch_iff document).2 ⟨value, same ▸ refused, long⟩)
    simp only [unwritable, false_and, not_false_eq_true, true_and, false_or]
    apply exists_congr
    intro reason
    apply and_congr_right
    intro refused
    rw [settings reason refused, eq_comm]

/-- Settings are read from a document exactly if it configures a switch and amounts that are costs,
and they are this switch and these costs. Any other document is refused as settings are, for the
first reason, unless a number in the place of the switch is too long to be written. -/
theorem ofDocument_iff_configures (document : List (String × Value)) :
    (∀ settings, ofDocument (.object document) = .ok settings ↔
      Configures document settings.includeEqual settings.costs.amounts ∧
        settings.source = none) ∧
    ((∃ settings, ofDocument (.object document) = .ok settings) ↔
      ∃ includeEqual amounts, Configures document includeEqual amounts ∧ amounts.Valid) ∧
    (∀ fault, ofDocument (.object document) = .error fault ↔
      HasUnwritableSwitch document ∧ fault = .numberTooLong none ∨
        ¬HasUnwritableSwitch document ∧
          ∃ reason, Refused document reason ∧ fault = .settings reason) ∧
    ∀ settings, ofDocument (.object document) = .ok settings → settings.costs.amounts.Valid := by
  have read (settings : Settings) : ofDocument (.object document) = .ok settings ↔
      Configures document settings.includeEqual settings.costs.amounts ∧
        settings.source = none := by
    rw [ofDocument, mapError_eq_ok_iff, ofEntries_eq_ok_iff]
  refine ⟨read, ?_, ofDocument_object_eq_error_iff document, fun settings _ =>
    settings.costs.amounts_valid⟩
  constructor
  · intro given
    obtain ⟨settings, given⟩ := given
    exact ⟨_, _, ((read settings).1 given).1, settings.costs.amounts_valid⟩
  · intro configured
    obtain ⟨includeEqual, amounts, configured, valid⟩ := configured
    obtain ⟨costs, rfl⟩ := Costs.exists_amounts_eq valid
    exact ⟨{ includeEqual, costs }, (read _).2 ⟨configured, rfl⟩⟩

def longSwitchDocument : List (String × Value) :=
  [("storage_check", .object [("include_equal", .int (10 ^ Numeral.longest : Nat))])]

theorem ofDocument_longSwitchDocument :
    ofDocument (.object longSwitchDocument) = .error (.numberTooLong none) ∧
      ¬((∃ settings, ofDocument (.object longSwitchDocument) = .ok settings) ∨
        ∃ reason, ofDocument (.object longSwitchDocument) = .error (.settings reason)) := by
  have known : OnlyNames [("include_equal", .int (10 ^ Numeral.longest : Nat))]
      ["include_equal", "costs"] := by
    intro name member
    cases List.mem_singleton.1 member
    exact List.mem_cons_self
  have unwritable : HasUnwritableSwitch longSwitchDocument :=
    ⟨_, _, [], _, Or.inl rfl, known, rfl, rfl, Nat.le_refl _⟩
  have refused : ofDocument (.object longSwitchDocument) = .error (.numberTooLong none) :=
    (ofDocument_object_eq_error_iff _ _).2 (Or.inl ⟨unwritable, rfl⟩)
  refine ⟨refused, ?_⟩
  rw [refused]
  intro reported
  obtain ⟨_, ⟨⟩⟩ | ⟨_, ⟨⟩⟩ := reported

end StorageCompat.Settings
