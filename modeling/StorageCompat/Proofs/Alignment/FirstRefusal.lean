import StorageCompat.Proofs.Alignment.Asking

/-!
Where a comparison is refused, and what comes of it. The first answer, row by row, that pairs
nothing ends the alignment with an error that shows this answer. Where every answer is a pairing,
the only other thing that can go wrong is that the steps cost too much together to be written.
-/

namespace StorageCompat.Alignment

variable {α β γ : Type}

section Places

/-- In a table whose rows are equally long each place is found among all entries. -/
theorem getElem?_flatten {table : List (List γ)} {n : Nat}
    (columns : ∀ row ∈ table, row.length = n) (i : Nat) {j : Nat} (known : j < n) :
    table.flatten[i * n + j]? = table[i]?.bind fun row => row[j]? := by
  induction table generalizing i with
  | nil => rfl
  | cons row rest ih =>
      have long := columns row List.mem_cons_self
      rw [List.flatten_cons]
      cases i with
      | zero => rw [Nat.zero_mul, Nat.zero_add, List.getElem?_append_left (by omega)]; rfl
      | succ i =>
          have place : (i + 1) * n + j = row.length + (i * n + j) := by
            rw [long, Nat.succ_mul]
            omega
          rw [place, List.getElem?_append_right (by omega), Nat.add_sub_cancel_left]
          exact ih (fun other member => columns other (List.mem_cons_of_mem _ member)) i

theorem getElem?_product (older : List α) (newer : List β) (i : Nat) {j : Nat}
    (known : j < newer.length) :
    (older ×ˢ newer)[i * newer.length + j]? =
      older[i]?.bind fun first => newer[j]?.map (Prod.mk first) := by
  have columns : ∀ row ∈ older.map fun first => newer.map (Prod.mk first),
      row.length = newer.length := by
    intro row member
    obtain ⟨first, -, rfl⟩ := List.mem_map.1 member
    exact List.length_map _
  have flat : older ×ˢ newer = (older.map fun first => newer.map (Prod.mk first)).flatten :=
    List.flatMap_def
  rw [flat, getElem?_flatten columns i known, List.getElem?_map]
  cases older[i]? with
  | none => rfl
  | some first => exact List.getElem?_map

/-- What is found later among all entries is further down, or further right in the same row. -/
theorem after_of_place_le {n i j i' j' : Nat} (known : j' < n)
    (later : i * n + j ≤ i' * n + j') : i < i' ∨ i = i' ∧ j ≤ j' := by
  rcases Nat.lt_trichotomy i i' with lower | rfl | upper
  · exact Or.inl lower
  · exact Or.inr ⟨rfl, Nat.le_of_add_le_add_left later⟩
  · have rows : (i' + 1) * n ≤ i * n := Nat.mul_le_mul_right n upper
    rw [Nat.succ_mul] at rows
    omega

variable (answer : List (α × β) → α → β → Answer) (older : List α) (newer : List β)

/-- The answer to the elements at these places, asked for behind all pairs before them. -/
def Gets (i j : Nat) (given : Answer) : Prop :=
  ∃ first second, older[i]? = some first ∧ newer[j]? = some second ∧
    answer ((older ×ˢ newer).take (i * newer.length + j)) first second = given

/-- The first places, row by row, whose elements get an answer that pairs nothing. -/
structure Refuses (i j : Nat) (given : Answer) : Prop where
  gets : Gets answer older newer i j given
  illegal : given.pairing? = none
  first : ∀ i' j' given', Gets answer older newer i' j' given' → given'.pairing? = none →
    i < i' ∨ i = i' ∧ j ≤ j'

structure Tabled (table : List (List Pairing)) : Prop where
  measures : Measures older newer table
  entries : ∀ i j given, Gets answer older newer i j given →
    ∃ row pairing, table[i]? = some row ∧ row[j]? = some pairing ∧ given = legal pairing

variable {answer older newer}

theorem gets_iff {i j : Nat} {given : Answer} :
    Gets answer older newer i j given ↔ j < newer.length ∧
      (replies answer [] (older ×ˢ newer))[i * newer.length + j]? = some given := by
  constructor
  · intro gets
    obtain ⟨first, second, here, there, rfl⟩ := gets
    have known := (List.getElem?_eq_some_iff.1 there).1
    refine ⟨known, ?_⟩
    rw [getElem?_replies, getElem?_product older newer i known, here, there]
    rfl
  · intro given
    obtain ⟨known, given⟩ := given
    rw [getElem?_replies, getElem?_product older newer i known] at given
    cases here : older[i]? with
    | none =>
        rw [here] at given
        cases given
    | some first =>
        have there := List.getElem?_eq_getElem known
        rw [here, there] at given
        exact ⟨first, _, here, there, Option.some.inj given⟩

theorem exists_gets {k : Nat} {given : Answer}
    (there : (replies answer [] (older ×ˢ newer))[k]? = some given) :
    ∃ i j, k = i * newer.length + j ∧ Gets answer older newer i j given := by
  have known := (List.getElem?_eq_some_iff.1 there).1
  rw [length_replies, List.length_product] at known
  have positive : 0 < newer.length := Nat.pos_of_mul_pos_left (Nat.zero_lt_of_lt known)
  have parts : k = k / newer.length * newer.length + k % newer.length :=
    (Nat.div_add_mod' k newer.length).symm
  refine ⟨k / newer.length, k % newer.length, parts, gets_iff.2 ⟨Nat.mod_lt k positive, ?_⟩⟩
  rw [← parts]
  exact there

theorem Tabled.of_flatten {table : List (List Pairing)} (measures : Measures older newer table)
    (same : replies answer [] (older ×ˢ newer) = table.flatten.map legal) :
    Tabled answer older newer table where
  measures := measures
  entries := by
    intro i j given gets
    obtain ⟨known, there⟩ := gets_iff.1 gets
    rw [same, List.getElem?_map, getElem?_flatten measures.columns i known] at there
    obtain ⟨pairing, entry, rfl⟩ := Option.map_eq_some_iff.1 there
    obtain ⟨row, here, entry⟩ := Option.bind_eq_some_iff.1 entry
    exact ⟨row, pairing, here, entry, rfl⟩

theorem Tabled.not_illegal {table : List (List Pairing)} (tabled : Tabled answer older newer table)
    {i j : Nat} {given : Answer} (gets : Gets answer older newer i j given) :
    given.pairing? ≠ none := by
  obtain ⟨row, pairing, -, -, rfl⟩ := tabled.entries i j given gets
  exact Option.some_ne_none pairing

theorem Tabled.getElem_eq {table table' : List (List Pairing)}
    (tabled : Tabled answer older newer table) (tabled' : Tabled answer older newer table')
    {i j : Nat} {first : α} {second : β} (here : older[i]? = some first)
    (there : newer[j]? = some second) {row row' : List Pairing} (known : table[i]? = some row)
    (known' : table'[i]? = some row') : row[j]? = row'[j]? := by
  have gets : Gets answer older newer i j _ := ⟨first, second, here, there, rfl⟩
  obtain ⟨other, pairing, place, entry, given⟩ := tabled.entries i j _ gets
  obtain ⟨other', pairing', place', entry', given'⟩ := tabled'.entries i j _ gets
  cases known.symm.trans place
  cases known'.symm.trans place'
  cases given.symm.trans given'
  rw [entry, entry']

theorem Tabled.unique {table table' : List (List Pairing)}
    (tabled : Tabled answer older newer table) (tabled' : Tabled answer older newer table') :
    table = table' := by
  apply List.ext_getElem (tabled.measures.rows.trans tabled'.measures.rows.symm)
  intro i known known'
  have long := tabled.measures.columns _ (List.getElem_mem known)
  have long' := tabled'.measures.columns _ (List.getElem_mem known')
  have here : i < older.length := by
    rw [← tabled.measures.rows]
    exact known
  apply List.ext_getElem? 
  intro j
  by_cases there : j < newer.length
  · exact tabled.getElem_eq tabled' (List.getElem?_eq_getElem here)
      (List.getElem?_eq_getElem there) (List.getElem?_eq_getElem known)
      (List.getElem?_eq_getElem known')
  · rw [List.getElem?_eq_none (by omega), List.getElem?_eq_none (by omega)]

theorem Breaks.getElem? {answers : List Answer} {pairings : List Pairing} {given : Answer}
    (breaks : Breaks answers pairings given) : answers[pairings.length]? = some given := by
  obtain ⟨-, rest, rfl⟩ := breaks
  rw [List.getElem?_append_right (by rw [List.length_map]), List.length_map, Nat.sub_self]
  rfl

theorem Breaks.length_le {answers : List Answer} {pairings : List Pairing} {given other : Answer}
    {k : Nat} (breaks : Breaks answers pairings given) (there : answers[k]? = some other)
    (illegal : other.pairing? = none) : pairings.length ≤ k := by
  obtain ⟨-, rest, rfl⟩ := breaks
  by_contra before
  rw [List.getElem?_append_left (by rw [List.length_map]; omega), List.getElem?_map] at there
  obtain ⟨pairing, -, rfl⟩ := Option.map_eq_some_iff.1 there
  cases illegal

theorem Breaks.refuses {pairings : List Pairing} {given : Answer}
    (breaks : Breaks (replies answer [] (older ×ˢ newer)) pairings given) :
    ∃ i j, pairings.length = i * newer.length + j ∧ Refuses answer older newer i j given := by
  obtain ⟨i, j, place, gets⟩ := exists_gets breaks.getElem?
  refine ⟨i, j, place, gets, breaks.1, ?_⟩
  intro i' j' given' gets' illegal
  obtain ⟨known, there⟩ := gets_iff.1 gets'
  apply after_of_place_le known
  rw [← place]
  exact breaks.length_le there illegal

end Places

section Priced

def Trail.Priced (costs : Costs) (trail : Trail α β) : Prop :=
  trail.cost = total (Step.cost costs) trail.steps

variable {costs : Costs}

theorem Trail.priced_start : (Trail.start : Trail α β).Priced costs := rfl

theorem Trail.Priced.extend {trail : Trail α β} (priced : trail.Priced costs) (step : Step α β) :
    (trail.extend costs step).Priced costs := by
  rw [Priced, extend_cost, extend_steps, priced, total, total, List.map_cons, List.sum_cons,
    Nat.add_comm]

theorem Trail.Priced.best {paired deleted appended : Trail α β} (priced : paired.Priced costs)
    (priced' : deleted.Priced costs) (priced'' : appended.Priced costs) :
    (Trail.best paired deleted appended).Priced costs := by
  rcases best_eq paired deleted appended with best | best | best
  · rw [best]
    exact priced
  · rw [best]
    exact priced'
  · rw [best]
    exact priced''

structure Row.Priced (costs : Costs) (row : Row α β) : Prop where
  first : row.first.Priced costs
  others : ∀ trail ∈ row.others, trail.Priced costs

theorem Row.priced_additions {left : Trail α β} (priced : left.Priced costs)
    (newer : List (β × Nat)) : ∀ trail ∈ additions costs left newer, trail.Priced costs := by
  induction newer generalizing left with
  | nil => exact fun _ absurd => nomatch absurd
  | cons entry rest ih =>
      have here := priced.extend (.append entry.2 entry.1)
      exact List.forall_mem_cons.2 ⟨here, ih here⟩

theorem Row.priced_trails (older : α) (place : Nat) {diagonal left : Trail α β}
    {above : List (Trail α β)} (priced : diagonal.Priced costs) (priced' : left.Priced costs)
    (aboves : ∀ trail ∈ above, trail.Priced costs) (entries : List ((β × Nat) × Pairing)) :
    ∀ trail ∈ trails costs older place diagonal left above entries, trail.Priced costs := by
  induction entries generalizing diagonal left above with
  | nil => cases above <;> exact fun _ absurd => nomatch absurd
  | cons entry rest ih =>
      cases above with
      | nil => exact fun _ absurd => nomatch absurd
      | cons above aboves' =>
          obtain ⟨higher, further⟩ := List.forall_mem_cons.1 aboves
          have here := (priced.extend (.pair entry.2 place older entry.1.2 entry.1.1)).best
            (higher.extend (.delete place older)) (priced'.extend (.append entry.1.2 entry.1.1))
          exact List.forall_mem_cons.2 ⟨here, ih higher here further⟩

theorem Row.Priced.next {above : Row α β} (priced : above.Priced costs) (newer : List (β × Nat))
    (older : α) (place : Nat) (pairings : List Pairing) :
    (above.next costs newer older place pairings).Priced costs where
  first := priced.first.extend (.delete place older)
  others := priced_trails older place priced.first (priced.first.extend (.delete place older))
    priced.others _

theorem Row.Priced.last {row : Row α β} (priced : row.Priced costs) : row.last.Priced costs := by
  rw [Row.last, List.getLastD_eq_getLast?]
  cases there : row.others.getLast? with
  | none => exact priced.first
  | some trail => exact priced.others trail (List.mem_of_getLast? there)

theorem Row.Priced.foldl {row : Row α β} (priced : row.Priced costs) (newer : List (β × Nat))
    (entries : List ((α × Nat) × List Pairing)) :
    (entries.foldl (fun row entry => row.next costs newer entry.1.1 entry.1.2 entry.2)
      row).Priced costs := by
  induction entries generalizing row with
  | nil => exact priced
  | cons entry rest ih => exact ih (priced.next newer entry.1.1 entry.1.2 entry.2)

/-- Whatever the comparison said, the script names what its steps cost together. -/
theorem script_cost (costs : Costs) (older : List α) (newer : List β)
    (pairings : List (List Pairing)) :
    (script costs older newer pairings).cost =
      total (Step.cost costs) (script costs older newer pairings).steps := by
  have top : (Row.top costs newer.zipIdx : Row α β).Priced costs :=
    ⟨Trail.priced_start, Row.priced_additions Trail.priced_start _⟩
  have bottom := (top.foldl newer.zipIdx (older.zipIdx.zip pairings)).last
  rw [script, total, List.map_reverse, List.sum_reverse]
  exact bottom

end Priced

section Outcome

variable (costs : Costs) (answer : List (α × β) → α → β → Answer) (older : List α)
  (newer : List β)

def outcome : Except Fault (Script α β) × List (α × β) :=
  runBehind [] (align costs (noting answer) older newer)

/-- The alignment has ended at the first answer that pairs nothing: it has asked about the pairs up
to there, and its error shows the answer, if this can be written. -/
structure EndsAt (i j : Nat) (given : Answer) : Prop where
  refuses : Refuses answer older newer i j given
  fault : (outcome costs answer older newer).1 = .error (.illegalAnswer given)
  message : (Fault.illegalAnswer given).message =
    if given.isWritable then "match 函数返回了非法结果: " ++ given.shown else tooLongMessage none
  asked : (outcome costs answer older newer).2 =
    (older ×ˢ newer).take (i * newer.length + j + 1)
  calls : (outcome costs answer older newer).2.length = i * newer.length + j + 1

def TooDear (table : List (List Pairing)) : Prop :=
  Numeral.isWritable (total (Step.cost costs) (script costs older newer table).steps) = false

/-- The alignment has asked about every pair once, and has then come to a script, unless its steps
cost too much together to be written. -/
structure EndsBehind (table : List (List Pairing)) : Prop where
  tabled : Tabled answer older newer table
  script : ¬TooDear costs older newer table →
    (outcome costs answer older newer).1 = .ok (script costs older newer table)
  fault : TooDear costs older newer table →
    (outcome costs answer older newer).1 = .error (.numberTooLong none)
  asked : (outcome costs answer older newer).2 = older ×ˢ newer
  calls : (outcome costs answer older newer).2.length = older.length * newer.length

variable {costs answer older newer}

theorem Breaks.endsAt {pairings : List Pairing} {given : Answer}
    (breaks : Breaks (replies answer [] (older ×ˢ newer)) pairings given) :
    ∃ i j, EndsAt costs answer older newer i j given := by
  have ran := (asks_judgeAll answer older newer).stops [] pairings given breaks
  have short := breaks.length_lt
  rw [length_replies] at short
  obtain ⟨i, j, place, refuses⟩ := breaks.refuses
  have ends : outcome costs answer older newer =
      (.error (.illegalAnswer given), (older ×ˢ newer).take (i * newer.length + j + 1)) := by
    rw [outcome, align, runBehind_bind_error ran, place]
    rfl
  have asked := congrArg Prod.snd ends
  refine ⟨i, j, refuses, congrArg Prod.fst ends, rfl, asked, ?_⟩
  rw [asked]
  apply List.length_take_of_le
  omega

theorem conclude_ends (table : List (List Pairing)) (asked : List (α × β)) :
    runBehind asked (conclude (script costs older newer table)) =
      (if Numeral.isWritable (total (Step.cost costs) (script costs older newer table).steps) then
        .ok (script costs older newer table) else .error (.numberTooLong none), asked) := by
  rw [conclude, script_cost]
  split
  · rfl
  · rfl

theorem endsBehind_of_legal {pairings : List Pairing}
    (legals : replies answer [] (older ×ˢ newer) = pairings.map legal) :
    ∃ table, EndsBehind costs answer older newer table := by
  obtain ⟨table, ⟨measures, rfl⟩, ran⟩ :=
    (asks_judgeAll answer older newer).passes [] pairings legals
  have ends : outcome costs answer older newer = runBehind (older ×ˢ newer)
      (conclude (script costs older newer table)) :=
    runBehind_bind_ok ran _
  rw [conclude_ends] at ends
  have asked := congrArg Prod.snd ends
  refine ⟨table, .of_flatten measures legals, ?_, ?_, asked, ?_⟩
  · intro affordable
    rw [ends, if_pos (Bool.eq_true_of_not_eq_false affordable)]
  · intro dear
    rw [ends, if_neg (Bool.eq_false_iff.1 dear)]
  · rw [asked, List.length_product]

theorem align_endings (costs : Costs) (answer : List (α × β) → α → β → Answer) (older : List α)
    (newer : List β) :
    (∃ i j given, EndsAt costs answer older newer i j given) ∨
      ∃ table, EndsBehind costs answer older newer table := by
  rcases exists_breaks (replies answer [] (older ×ˢ newer)) with
    ⟨pairings, legals⟩ | ⟨pairings, given, breaks⟩
  · exact Or.inr (endsBehind_of_legal legals)
  · obtain ⟨i, j, ends⟩ := breaks.endsAt
    exact Or.inl ⟨i, j, given, ends⟩

/-- Whatever the answers are, the alignment fails exactly if one of them pairs nothing or if the
steps cost too much together to be written; and it ends at the first answer that pairs nothing, or
else behind the last pair. -/
theorem align_ends (costs : Costs) (answer : List (α × β) → α → β → Answer) (older : List α)
    (newer : List β) :
    ((∃ fault, (outcome costs answer older newer).1 = .error fault) ↔
      (∃ i j given, Gets answer older newer i j given ∧ given.pairing? = none) ∨
        ∃ table, Tabled answer older newer table ∧ TooDear costs older newer table) ∧
    ((∃ i j given, EndsAt costs answer older newer i j given) ∨
      ∃ table, EndsBehind costs answer older newer table) := by
  refine ⟨?_, align_endings costs answer older newer⟩
  rcases align_endings costs answer older newer with ⟨i, j, given, ends⟩ | ⟨table, ends⟩
  · have refused := ends.refuses
    exact ⟨fun _ => Or.inl ⟨i, j, given, refused.gets, refused.illegal⟩, fun _ => ⟨_, ends.fault⟩⟩
  constructor
  · intro failed
    obtain ⟨fault, failed⟩ := failed
    by_cases dear : TooDear costs older newer table
    · exact Or.inr ⟨table, ends.tabled, dear⟩
    · cases failed.symm.trans (ends.script dear)
  · intro reason
    rcases reason with ⟨i, j, given, gets, illegal⟩ | ⟨other, tabled, dear⟩
    · exact absurd illegal (ends.tabled.not_illegal gets)
    · obtain rfl := ends.tabled.unique tabled
      exact ⟨_, ends.fault dear⟩

def letterAnswers (_ : List (Char × Char)) (first second : Char) : Answer :=
  legal (pairLetters first second)

/-- Two additions that cost too much to be written end in an error, though nothing is compared. -/
theorem outcome_dearestAddition :
    (∃ fault, (outcome Upgrade.dearestAddition letterAnswers [] ['a', 'b']).1 = .error fault) ∧
      ¬∃ i j given, Gets letterAnswers [] ['a', 'b'] i j given ∧ given.pairing? = none := by
  have unasked : ¬∃ i j given, Gets letterAnswers [] ['a', 'b'] i j given ∧
      given.pairing? = none := by
    intro refused
    obtain ⟨i, j, given, ⟨first, second, absurd, -, -⟩, -⟩ := refused
    cases absurd
  refine ⟨?_, unasked⟩
  rcases align_endings Upgrade.dearestAddition letterAnswers [] ['a', 'b'] with
    ⟨i, j, given, ends⟩ | ⟨table, ends⟩
  · exact absurd ⟨i, j, given, ends.refuses.gets, ends.refuses.illegal⟩ unasked
  obtain rfl := List.eq_nil_of_length_eq_zero ends.tabled.measures.rows
  refine ⟨_, ends.fault ?_⟩
  have cost (costs : Costs) :
      total (Step.cost costs) (script costs ([] : List Char) ['a', 'b'] []).steps =
        costs.append + (costs.append + 0) := rfl
  have append := Upgrade.dearestAddition_append
  have positive := Upgrade.dearestAddition.append_pos
  rw [TooDear, cost, Bool.eq_false_iff, ne_eq, Numeral.isWritable_iff]
  omega

end Outcome

end StorageCompat.Alignment
