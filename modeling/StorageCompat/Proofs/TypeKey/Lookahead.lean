import Mathlib.Data.List.Find
import Mathlib.Logic.Function.Basic
import StorageCompat.Proofs.TypeKey.Runs

/-!
Reading a run forwards. A table is filled from the end of the run: which of its remainders are made
of escapes. Then the run is scanned from its start, and at each place the first escape is taken that
leaves such a remainder; where there is none, an underscore is literal. This comes to the same as
reading the run from its end.
-/

namespace StorageCompat.TypeKey

def tokens : List (List Char × Char) :=
  [(['_', '$', '_'], ','), (['$', '_'], '('), (['_', '$'], ')')]

/-- The first escape at a place that leaves a remainder of which the table says that it is made of
escapes. -/
def tokenAt (run : List Char) (table : Nat → Bool) (i : Nat) : Option (List Char × Char) :=
  tokens.find? fun token => token.1.isPrefixOf (run.drop i) && table (i + token.1.length)

def fillBefore (run : List Char) : (count : Nat) → (Nat → Bool) → Nat → Bool
  | 0, table => table
  | count + 1, table =>
      fillBefore run count (Function.update table count (tokenAt run table count).isSome)

/-- Which remainders of a run are made of escapes, by the places where they start. -/
def lookahead (run : List Char) : Nat → Bool :=
  fillBefore run run.length fun i => i = run.length

theorem length_pos_of_tokenAt {run : List Char} {table : Nat → Bool} {i : Nat}
    {token : List Char × Char} (found : tokenAt run table i = some token) :
    0 < token.1.length := by
  have positive : ∀ token ∈ tokens, 0 < token.1.length := by decide
  exact positive token (List.mem_of_find?_eq_some found)

def scan (run : List Char) (table : Nat → Bool) (i : Nat) : Option (List Char) :=
  if early : i < run.length then
    match found : tokenAt run table i with
    | some token => (scan run table (i + token.1.length)).map (token.2 :: ·)
    | none =>
        if run[i] = '$' then none else (scan run table (i + 1)).map (run[i] :: ·)
  else some []
  termination_by run.length - i
  decreasing_by
    · have := length_pos_of_tokenAt found
      omega
    · omega

def TellsFrom (run : List Char) (i : Nat) (table : Nat → Bool) : Prop :=
  ∀ k, i ≤ k → k ≤ run.length → table k = (symbols? (run.drop k)).isSome

variable {run : List Char} {table : Nat → Bool} {i : Nat}

theorem TellsFrom.behind (tells : TellsFrom run (i + 1) table) {front rest : List Char}
    (parts : run.drop i = front ++ rest) (nonempty : front ≠ []) :
    run.drop (i + front.length) = rest ∧ table (i + front.length) = (symbols? rest).isSome := by
  have behind : run.drop (i + front.length) = rest := by
    rw [← List.drop_drop, parts, List.drop_left]
  have length : run.length - i = front.length + rest.length := by
    rw [← List.length_drop, parts, List.length_append]
  have positive := List.length_pos_iff.2 nonempty
  refine ⟨behind, ?_⟩
  rw [tells _ (by omega) (by omega), behind]

def symbolsBehind (run : List Char) (token : List Char × Char) : Option (List Char) :=
  if token.1.isPrefixOf run then (symbols? (run.drop token.1.length)).map (token.2 :: ·) else none

theorem symbols?_eq_findSome? (nonempty : run ≠ []) :
    symbols? run = tokens.findSome? (symbolsBehind run) := by
  obtain ⟨character, rest, rfl⟩ := List.exists_cons_of_ne_nil nonempty
  change RunReading.symbolsOf (character :: rest) (readRun rest) = _
  unfold RunReading.symbolsOf
  split
  case h_1 tail same =>
    obtain ⟨rfl, rfl⟩ := List.cons.inj same
    change symbols? ('_' :: '$' :: '_' :: tail) = _
    rw [symbols?_comma]
    cases comma : symbols? tail <;> cases closing : symbols? ('_' :: tail) <;>
      simp [tokens, symbolsBehind, comma, closing]
  case h_2 tail same =>
    obtain ⟨rfl, rfl⟩ := List.cons.inj same
    change (symbols? tail).map ('(' :: ·) = _
    cases opening : symbols? tail <;> simp [tokens, symbolsBehind, opening]
  case h_3 tail other same =>
    obtain ⟨rfl, rfl⟩ := List.cons.inj same
    change (symbols? tail).map (')' :: ·) = _
    have comma : ['_'].isPrefixOf tail = false := by
      rw [← Bool.not_eq_true, List.isPrefixOf_iff_prefix]
      rintro ⟨later, parts⟩
      exact other later parts.symm
    cases closing : symbols? tail <;> simp [tokens, symbolsBehind, closing, comma]
  case h_4 noComma noOpening noClosing =>
    symm
    rw [List.findSome?_eq_none_iff]
    intro token member
    apply if_neg
    rw [List.isPrefixOf_iff_prefix]
    rintro ⟨later, parts⟩
    simp only [tokens, List.mem_cons, List.not_mem_nil, or_false] at member
    obtain rfl | rfl | rfl := member
    · cases parts
      exact noComma _ rfl
    · cases parts
      exact noOpening _ rfl
    · cases parts
      exact noClosing _ rfl

theorem findSome?_eq_find?_bind {γ δ : Type} (value? : γ → Option δ) (items : List γ) :
    items.findSome? value? = (items.find? fun item => (value? item).isSome).bind value? := by
  induction items with
  | nil => rfl
  | cons item items ih =>
      rw [List.findSome?_cons, List.find?_cons]
      cases found : value? item with
      | some value => exact found.symm
      | none => exact ih

theorem TellsFrom.tokenAt_eq (tells : TellsFrom run (i + 1) table) :
    tokenAt run table i =
      tokens.find? fun token => (symbolsBehind (run.drop i) token).isSome := by
  apply List.find?_congr
  intro token member
  have nonempty : ∀ token ∈ tokens, token.1 ≠ [] := by decide
  rw [symbolsBehind]
  cases starts : token.1.isPrefixOf (run.drop i) with
  | false => rfl
  | true =>
      obtain ⟨rest, parts⟩ := List.isPrefixOf_iff_prefix.1 starts
      obtain ⟨-, there⟩ := tells.behind parts.symm (nonempty token member)
      rw [Bool.true_and, there, if_pos rfl, ← parts, List.drop_left, Option.isSome_map]

/-- The escape that is taken stands for the first symbol of the remainder, and none is taken where
the remainder is not made of escapes. -/
theorem TellsFrom.tokenAt_cases (tells : TellsFrom run (i + 1) table) (early : i < run.length) :
    (tokenAt run table i = none ∧ symbols? (run.drop i) = none) ∨
      ∃ token later, tokenAt run table i = some token ∧
        symbols? (run.drop (i + token.1.length)) = some later ∧
        symbols? (run.drop i) = some (token.2 :: later) := by
  have nonempty : run.drop i ≠ [] := by
    rw [ne_eq, List.drop_eq_nil_iff]
    omega
  have whole := symbols?_eq_findSome? nonempty
  rw [findSome?_eq_find?_bind, ← tells.tokenAt_eq] at whole
  cases found : tokenAt run table i with
  | none =>
      rw [found] at whole
      exact Or.inl ⟨rfl, whole⟩
  | some token =>
      rw [found, Option.bind_some] at whole
      rw [tells.tokenAt_eq] at found
      have known := List.find?_some found
      obtain ⟨symbols, read⟩ := Option.isSome_iff_exists.1 known
      rw [read] at whole
      rw [symbolsBehind, Option.ite_none_right_eq_some, Option.map_eq_some_iff, List.drop_drop]
        at read
      obtain ⟨-, later, behind, rfl⟩ := read
      exact Or.inr ⟨token, later, rfl, behind, whole⟩

theorem TellsFrom.fillBefore {count : Nat} (tells : TellsFrom run count table)
    (short : count ≤ run.length) : TellsFrom run 0 (fillBefore run count table) := by
  induction count generalizing table with
  | zero => exact tells
  | succ count ih =>
      refine ih ?_ (Nat.le_of_succ_le short)
      intro k late known
      obtain rfl | later := Nat.eq_or_lt_of_le late
      · rw [Function.update_self]
        obtain ⟨none, none'⟩ | ⟨_, _, some, -, some'⟩ := tells.tokenAt_cases short
        · rw [none, none']
          rfl
        · rw [some, some']
          rfl
      · rw [Function.update_of_ne (Nat.ne_of_gt later)]
        exact tells k later known

theorem tellsFrom_lookahead (run : List Char) : TellsFrom run 0 (lookahead run) := by
  apply TellsFrom.fillBefore _ (Nat.le_refl _)
  intro k late known
  obtain rfl := Nat.le_antisymm known late
  rw [List.drop_length]
  exact decide_eq_true rfl

theorem scan_eq_of_tells (escapes : ∀ character ∈ run, isEscape character = true)
    (tells : TellsFrom run 0 table) (i : Nat) :
    scan run table i = decodeRun? (run.drop i) := by
  have beyond (i : Nat) : TellsFrom run (i + 1) table := fun k _ => tells k (Nat.zero_le k)
  fun_induction scan run table i with
  | case1 i early token found ih =>
      obtain ⟨none, -⟩ | ⟨_, later, some, behind, whole⟩ := (beyond i).tokenAt_cases early
      · rw [none] at found
        cases found
      · obtain rfl := Option.some.inj (some.symm.trans found)
        rw [ih, decodeRun?_of_symbols? behind, decodeRun?_of_symbols? whole]
        rfl
  | case2 i early found dollar =>
      obtain ⟨-, literal⟩ | ⟨_, _, some, -, -⟩ := (beyond i).tokenAt_cases early
      · rw [List.drop_eq_getElem_cons early, dollar] at literal ⊢
        rw [decodeRun?_dollar, literal]
      · rw [some] at found
        cases found
  | case3 i early found other ih =>
      obtain ⟨-, literal⟩ | ⟨_, _, some, -, -⟩ := (beyond i).tokenAt_cases early
      · have underscore : run[i] = '_' := by
          have known := escapes _ (List.getElem_mem early)
          simpa [isEscape, other] using known
        rw [List.drop_eq_getElem_cons early, underscore] at literal ⊢
        rw [decodeRun?_cons, literal, ih]
        rfl
      · rw [some] at found
        cases found
  | case4 i late =>
      rw [List.drop_eq_nil_of_le (Nat.not_lt.1 late)]
      rfl

/-- Reading a run forwards comes to the same as reading it from its end. -/
theorem scan_eq_decodeRun? (run : List Char)
    (escapes : ∀ character ∈ run, isEscape character = true) :
    scan run (lookahead run) 0 = decodeRun? run :=
  scan_eq_of_tells escapes (tellsFrom_lookahead run) 0

-- The run could be cut into a closing parenthesis and a comma too.
example : scan "_$_$_".toList (lookahead "_$_$_".toList) 0 = some ",(".toList := by cbv

end StorageCompat.TypeKey
