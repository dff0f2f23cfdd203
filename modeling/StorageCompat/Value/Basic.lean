import StorageCompat.Binary64.Basic
import StorageCompat.Table

/-!
Values as documents hold them: compiler output, saved layouts and settings are all made of
these. Numbers with and without a fraction are of two kinds, and the entries of an object
keep their order.
-/

namespace StorageCompat

/-- A value of a document. `moment` is a date or a time of a settings file, kept as the text
it is shown as. -/
inductive Value where
  | null
  | bool (value : Bool)
  | int (value : Int)
  | float (value : Binary64)
  | text (value : String)
  | list (items : List Value)
  | object (entries : List (String × Value))
  | moment (shown : String)
  deriving Repr

namespace Value

instance : Inhabited Value := ⟨.null⟩

/-- Null, false, zero and whatever is empty do not hold; all else does. -/
def holds : Value → Bool
  | .null => false
  | .bool value => value
  | .int value => value != 0
  | .float value => !value.isZero
  | .text value => !value.isEmpty
  | .list items => !items.isEmpty
  | .object entries => !entries.isEmpty
  | .moment _ => true

inductive Quantity where
  | whole (value : Int)
  | binary (value : Binary64)

def quantity? : Value → Option Quantity
  | .bool value => some (.whole (if value then 1 else 0))
  | .int value => some (.whole value)
  | .float value => some (.binary value)
  | _ => none

def Quantity.same : Quantity → Quantity → Bool
  | .whole first, .whole second => first == second
  | .whole first, .binary second => second.toInt? == some first
  | .binary first, .whole second => first.toInt? == some second
  | .binary first, .binary second => first.sameNumber second

def isNan : Value → Bool
  | .float .nan => true
  | _ => false

def sameQuantity (first : Quantity) (second : Value) : Bool :=
  match second.quantity? with
  | some quantity => first.same quantity
  | none => false

mutual

/-- Equality of values: by quantity among numbers, in order among lists, whatever the order
among objects. Not-a-number differs from itself. -/
def same : Value → Value → Bool
  | .null, .null => true
  | .bool first, second => sameQuantity (.whole (if first then 1 else 0)) second
  | .int first, second => sameQuantity (.whole first) second
  | .float first, second => sameQuantity (.binary first) second
  | .text first, .text second => first == second
  | .list first, .list second => sameItems first second
  | .object first, .object second =>
      first.length == second.length && sameEntries first second
  | .moment first, .moment second => first == second
  | _, _ => false
termination_by structural first => first

def sameItems : List Value → List Value → Bool
  | [], [] => true
  | first :: firsts, second :: seconds =>
      (first.same second || (first.isNan && second.isNan)) && sameItems firsts seconds
  | _, _ => false
termination_by structural firsts => firsts

def sameEntries : List (String × Value) → List (String × Value) → Bool
  | [], _ => true
  | (name, first) :: rest, others =>
      (match others.lookup name with
        | some second => first.same second || (first.isNan && second.isNan)
        | none => false) &&
      sameEntries rest others
termination_by structural entries => entries

end

theorem same_text_iff (value : Value) (text : String) :
    value.same (.text text) = true ↔ value = .text text := by
  cases value with
  | text other => simp [same]
  | _ => simp [same, sameQuantity, quantity?]

end Value

end StorageCompat
