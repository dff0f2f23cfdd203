import StorageCompat.Alignment.Grid

/-!
Aligning two sequences. Whether two elements go together is asked of a comparison, which may
have effects of its own: it is asked once for each pair, row by row, before anything is
decided, and the first answer that pairs nothing ends the alignment.
-/

namespace StorageCompat.Alignment

variable {m : Type → Type} [Monad m] {α β : Type}

def judge (compare : α → β → m Answer) (older : α) (newer : β) :
    ExceptT Fault m Pairing := do
  let answer ← compare older newer
  match answer.pairing? with
  | some pairing => return pairing
  | none => throw (.illegalAnswer answer)

def judgeAll (compare : α → β → m Answer) (older : List α) (newer : List β) :
    ExceptT Fault m (List (List Pairing)) :=
  older.mapM fun element => newer.mapM fun other => judge compare element other

/-- The cheapest script between two sequences. Its cost must not be too long to be written. -/
def align (costs : Costs) (compare : α → β → m Answer) (older : List α)
    (newer : List β) : ExceptT Fault m (Script α β) := do
  let pairings ← judgeAll compare older newer
  let script := script costs older newer pairings
  if Numeral.isWritable script.cost then return script else throw (.numberTooLong none)

end StorageCompat.Alignment
