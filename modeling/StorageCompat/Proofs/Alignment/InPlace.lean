import StorageCompat.Proofs.Alignment.Excess
import StorageCompat.Proofs.Alignment.Preference

/-!
Changes in place. Between sequences of one length, pairing each element with the one at its place is
a script, and every other script deletes an element and adds one. So where these pairs cost no more
than a deletion and an addition, they are what is returned: nothing costs less, and of scripts that
cost the same the one that pairs at the end comes first.
-/

namespace StorageCompat.Alignment

variable {α β : Type}

def inPlace (pairing : α → β → Pairing) (older : List α) (newer : List β) : List (Step α β) :=
  (older.zip newer).zipIdx.map fun entry =>
    .pair (pairing entry.1.1 entry.1.2) entry.2 entry.1.1 entry.2 entry.1.2

/-- The sequences are equal, but perhaps for what stands at one place. -/
structure EqualButAt (place : Nat) (pairing : α → β → Pairing) (older : List α)
    (newer : List β) : Prop where
  length_eq : older.length = newer.length
  equal : ∀ i first second, i ≠ place → older[i]? = some first → newer[i]? = some second →
    pairing first second = .equal

section InPlace

variable {pairing : α → β → Pairing} {older : List α} {newer : List β}

theorem inPlace_take_succ {i : Nat} {first : α} {second : β} (here : older[i]? = some first)
    (there : newer[i]? = some second) :
    inPlace pairing (older.take (i + 1)) (newer.take (i + 1)) =
      inPlace pairing (older.take i) (newer.take i) ++
        [.pair (pairing first second) i first i second] := by
  obtain ⟨inOlder, -⟩ := List.getElem?_eq_some_iff.1 here
  obtain ⟨inNewer, -⟩ := List.getElem?_eq_some_iff.1 there
  have olderLength : (older.take i).length = i := List.length_take_of_le (Nat.le_of_lt inOlder)
  have newerLength : (newer.take i).length = i := List.length_take_of_le (Nat.le_of_lt inNewer)
  unfold inPlace
  rw [List.take_add_one, here, List.take_add_one, there,
    List.zip_append (olderLength.trans newerLength.symm), List.zipIdx_append, List.map_append,
    List.length_zip, olderLength, newerLength]
  simp

theorem getElem?_inPlace {i : Nat} {first : α} {second : β} (here : older[i]? = some first)
    (there : newer[i]? = some second) :
    (inPlace pairing older newer)[i]? = some (.pair (pairing first second) i first i second) := by
  have both : (older.zip newer)[i]? = some (first, second) :=
    List.getElem?_zip_eq_some.2 ⟨here, there⟩
  simp [inPlace, both]

theorem length_inPlace (same : older.length = newer.length) :
    (inPlace pairing older newer).length = older.length := by
  simp [inPlace, same]

theorem rank_of_mem_inPlace {step : Step α β} (member : step ∈ inPlace pairing older newer) :
    step.rank = 0 := by
  obtain ⟨entry, -, rfl⟩ := List.mem_map.1 member
  rfl

theorem Step.action_ne_delete_of_rank {step : Step α β} (pairs : step.rank = 0) :
    step.action ≠ .delete := by
  intro deletes
  cases step with
  | delete => cases pairs
  | _ => cases deletes

theorem path_inPlace (pairing : α → β → Pairing) (same : older.length = newer.length) {i : Nat}
    (bound : i ≤ older.length) :
    Path pairing older newer i i (inPlace pairing (older.take i) (newer.take i)) := by
  induction i with
  | zero => exact .start
  | succ i ih =>
      have bound' : i < newer.length := same ▸ bound
      have here : older[i]? = some older[i] := List.getElem?_eq_getElem bound
      have there : newer[i]? = some newer[i] := List.getElem?_eq_getElem bound'
      rw [inPlace_take_succ here there]
      exact (ih (Nat.le_of_succ_le bound)).pair here there

theorem isScript_inPlace (same : older.length = newer.length) :
    IsScript pairing older newer (inPlace pairing older newer) := by
  have path := path_inPlace pairing same (Nat.le_refl _)
  rw [List.take_length, same, List.take_length] at path
  unfold IsScript
  rwa [same]

/-- A path without deletions leaves no element out while the fronts have one length. -/
theorem Path.eq_inPlace {i j : Nat} {steps : List (Step α β)}
    (path : Path pairing older newer i j steps)
    (kept : ∀ step ∈ steps, step.action ≠ .delete) :
    i ≤ j ∧ (i = j → steps = inPlace pairing (older.take i) (newer.take i)) := by
  induction path with
  | start => exact ⟨Nat.le_refl 0, fun _ => rfl⟩
  | @pair i j steps first second before here there ih =>
      obtain ⟨le, eq⟩ := ih fun step member => kept step (List.mem_append_left _ member)
      refine ⟨Nat.succ_le_succ le, ?_⟩
      intro same
      obtain rfl : i = j := Nat.succ.inj same
      rw [inPlace_take_succ here there, ← eq rfl]
  | delete before here ih => exact absurd rfl (kept _ (List.mem_append_right _ List.mem_cons_self))
  | append before there ih =>
      obtain ⟨le, -⟩ := ih fun step member => kept step (List.mem_append_left _ member)
      exact ⟨Nat.le_succ_of_le le, by omega⟩

theorem le_total_excess_of_delete (costs : Costs) {steps : List (Step α β)} {step : Step α β}
    (member : step ∈ steps) (deletes : step.action = .delete) :
    costs.delete + costs.append ≤ total (Step.excess costs) steps := by
  have weighs : step.excess costs = costs.delete + costs.append := by
    cases step with
    | delete => rfl
    | _ => cases deletes
  obtain ⟨before, behind, rfl⟩ := List.append_of_mem member
  rw [total, List.map_append, List.map_cons, List.sum_append, List.sum_cons]
  omega

theorem rank_eq_zero_of_lt {first second : List Nat} (less : first < second)
    (zeros : ∀ rank ∈ second, rank = 0) : ∀ rank ∈ first, rank = 0 := by
  induction first generalizing second with
  | nil => exact List.forall_mem_nil _
  | cons rank rest ih =>
      cases second with
      | nil => exact absurd less (List.not_lt_nil _)
      | cons rank' rest' =>
          obtain ⟨here, zeros⟩ := List.forall_mem_cons.1 zeros
          obtain below | ⟨same, less⟩ := List.cons_lt_cons_iff.1 less
          · omega
          · exact List.forall_mem_cons.2 ⟨same.trans here, ih less zeros⟩

variable {costs : Costs}

theorem cheapest_steps_eq_inPlace (same : older.length = newer.length)
    (cheap : total (Step.cost costs) (inPlace pairing older newer) ≤
      costs.delete + costs.append) :
    (cheapest costs pairing older newer).steps = inPlace pairing older newer := by
  have script := cheapest_isScript costs pairing older newer
  by_cases kept : ∀ step ∈ (cheapest costs pairing older newer).steps, step.action ≠ .delete
  · obtain ⟨-, eq⟩ := Path.eq_inPlace script kept
    rw [eq same, List.take_length, same, List.take_length]
  · push Not at kept
    obtain ⟨step, member, deletes⟩ := kept
    exfalso
    -- Without the pairs in place the rest would have to come before them, and so only pair.
    have dear := le_total_excess_of_delete costs member deletes
    have balance := script.total_cost_add costs
    rw [same] at balance
    have inPlace_cheapest : IsCheapest costs pairing older newer (inPlace pairing older newer) := by
      refine ⟨isScript_inPlace same, ?_⟩
      intro others other
      have least := cheapest_le costs other
      rw [cheapest_cost] at least
      omega
    have other : inPlace pairing older newer ≠ (cheapest costs pairing older newer).steps := by
      intro eq
      exact Step.action_ne_delete_of_rank (rank_of_mem_inPlace (eq ▸ member)) deletes
    have before := cheapest_precedes costs inPlace_cheapest other
    have pairs := rank_eq_zero_of_lt before fun rank inside => by
      obtain ⟨step, member, rfl⟩ := List.mem_map.1 inside
      exact rank_of_mem_inPlace (List.mem_reverse.1 member)
    have zero := pairs _ (List.mem_map_of_mem (List.mem_reverse.2 member))
    exact Step.action_ne_delete_of_rank zero deletes

/-- Where all weights but one are nothing, together they are no more than that one. -/
theorem sum_le_of_zeros {weights : List Nat} {bound : Nat} (place : Nat)
    (zeros : ∀ i weight, i ≠ place → weights[i]? = some weight → weight = 0)
    (bounded : ∀ weight ∈ weights, weight ≤ bound) : weights.sum ≤ bound := by
  induction weights generalizing place with
  | nil => exact Nat.zero_le bound
  | cons weight rest ih =>
      obtain ⟨here, bounded⟩ := List.forall_mem_cons.1 bounded
      rw [List.sum_cons]
      cases place with
      | zero =>
          have nothing : rest.sum = 0 := by
            rw [List.sum_eq_zero_iff_forall_eq_nat]
            intro other member
            obtain ⟨i, found⟩ := List.mem_iff_getElem?.1 member
            exact zeros (i + 1) other (Nat.succ_ne_zero i) found
          omega
      | succ place =>
          have nothing : weight = 0 := zeros 0 weight (Nat.succ_ne_zero place).symm rfl
          have later := ih place (fun i other apart => zeros (i + 1) other (by omega)) bounded
          omega

theorem EqualButAt.total_inPlace_le {place : Nat} (equal : EqualButAt place pairing older newer) :
    total (Step.cost costs) (inPlace pairing older newer) ≤ costs.replace := by
  unfold total
  apply sum_le_of_zeros place
  · intro i weight apart found
    rw [List.getElem?_map, Option.map_eq_some_iff] at found
    obtain ⟨step, found, rfl⟩ := found
    obtain ⟨inside, -⟩ := List.getElem?_eq_some_iff.1 found
    rw [length_inPlace equal.length_eq] at inside
    have inside' : i < newer.length := equal.length_eq ▸ inside
    have here : older[i]? = some older[i] := List.getElem?_eq_getElem inside
    have there : newer[i]? = some newer[i] := List.getElem?_eq_getElem inside'
    rw [getElem?_inPlace here there, Option.some.injEq] at found
    rw [← found, Step.cost_pair, equal.equal i _ _ apart here there]
    rfl
  · intro weight member
    obtain ⟨step, inside, rfl⟩ := List.mem_map.1 member
    obtain ⟨entry, -, rfl⟩ := List.mem_map.1 inside
    exact costs.ofPairing_le_replace _

/-- A change in place is one step, and every other step pairs equal elements. -/
theorem EqualButAt.cheapest_steps_eq {place : Nat} (equal : EqualButAt place pairing older newer)
    (cheap : costs.replace ≤ costs.delete + costs.append) :
    (cheapest costs pairing older newer).steps = inPlace pairing older newer :=
  cheapest_steps_eq_inPlace equal.length_eq (equal.total_inPlace_le.trans cheap)

end InPlace

end StorageCompat.Alignment
