import Mathlib.Data.Fintype.EquivFin
import Mathlib.Data.List.Forall2
import Mathlib.Order.Fin.Basic
import Mathlib.Order.WellFounded
import StorageCompat.Proofs.Alignment.Excess

/-!
Embeddings of one sequence in another. The pairings of a path that only adds put each element
of the first sequence on an equal one of the second, in order, and every embedding comes from
such a path. So the cheapest script only adds exactly when there is an embedding at all.
-/

namespace StorageCompat.Alignment

variable {α β : Type}

/-- The places of the elements of one sequence in another that has all of them, in order. -/
structure Embedding (related : α → β → Prop) (older : List α) (newer : List β)
    (place : Fin older.length → Fin newer.length) : Prop where
  increasing : StrictMono place
  related : ∀ k, related older[k] newer[place k]

namespace Embedding

variable {related : α → β → Prop} {older : List α} {newer : List β}
  {place : Fin older.length → Fin newer.length}

theorem le_place (embedding : Embedding related older newer place) (k : Fin older.length) :
    k.val ≤ (place k).val := by
  obtain ⟨k, known⟩ := k
  induction k with
  | zero => exact Nat.zero_le _
  | succ k ih =>
      have before : k < older.length := Nat.lt_of_succ_lt known
      have earlier := ih before
      have less : place ⟨k, before⟩ < place ⟨k + 1, known⟩ :=
        embedding.increasing (Nat.lt_succ_self k)
      exact Nat.lt_of_le_of_lt earlier less

theorem length_le (embedding : Embedding related older newer place) :
    older.length ≤ newer.length := by
  by_contra longer
  have known : newer.length < older.length := Nat.lt_of_not_le longer
  have late := embedding.le_place ⟨newer.length, known⟩
  exact absurd (place ⟨newer.length, known⟩).isLt (Nat.not_lt.2 late)

/-- In a sequence that is no longer there is room for no element behind where it was. -/
theorem place_eq (embedding : Embedding related older newer place)
    (short : newer.length ≤ older.length) (k : Fin older.length) : (place k).val = k.val := by
  have increasing : StrictMono (Fin.castLE short ∘ place) :=
    (Fin.strictMono_castLE short).comp embedding.increasing
  have early : Fin.castLE short (place k) ≤ k := increasing.apply_le
  exact Nat.le_antisymm early (embedding.le_place k)

theorem identity {related : α → α → Prop} {sequence : List α}
    (reflexive : ∀ element ∈ sequence, related element element) :
    Embedding related sequence sequence id where
  increasing := strictMono_id
  related := fun k => reflexive _ (List.getElem_mem k.isLt)

/-- What is found in a second sequence, and from there in a third, is found in the third. -/
theorem comp {γ : Type} {related' : β → γ → Prop} {related'' : α → γ → Prop} {newest : List γ}
    {place' : Fin newer.length → Fin newest.length}
    (embedding : Embedding related older newer place)
    (next : Embedding related' newer newest place')
    (composes : ∀ first second third, second ∈ newer → related first second →
      related' second third → related'' first third) :
    Embedding related'' older newest (place' ∘ place) where
  increasing := next.increasing.comp embedding.increasing
  related := fun k =>
    composes _ _ _ (List.getElem_mem (place k).isLt) (embedding.related k) (next.related (place k))

/-- Two sequences that are embedded in each other correspond element by element. -/
theorem forall₂ {related' : β → α → Prop} {back : Fin newer.length → Fin older.length}
    (embedding : Embedding related older newer place)
    (converse : Embedding related' newer older back) : List.Forall₂ related older newer := by
  have short := converse.length_le
  refine List.forall₂_iff_get.2 ⟨Nat.le_antisymm embedding.length_le short, ?_⟩
  intro k known present
  have same : place ⟨k, known⟩ = ⟨k, present⟩ := Fin.ext (embedding.place_eq short ⟨k, known⟩)
  have found := embedding.related ⟨k, known⟩
  simp only [same] at found
  exact found

def staying (embedding : Embedding related older newer place) (k i : Fin older.length) :
    Fin newer.length :=
  if i < k then ⟨i.val, Nat.lt_of_le_of_lt (embedding.le_place i) (place i).isLt⟩ else place i

theorem staying_of_lt (embedding : Embedding related older newer place)
    {k i : Fin older.length} (early : i < k) : (embedding.staying k i).val = i.val := by
  rw [staying, if_pos early]

theorem staying_of_not_lt (embedding : Embedding related older newer place)
    {k i : Fin older.length} (late : ¬i < k) : embedding.staying k i = place i :=
  if_neg late

theorem embedding_staying (embedding : Embedding related older newer place)
    (k : Fin older.length)
    (found : ∀ i, i < k → ∃ second, newer[i.val]? = some second ∧ related older[i] second) :
    Embedding related older newer (embedding.staying k) where
  increasing := by
    intro i l less
    rw [Fin.lt_def]
    by_cases late : l < k
    · rw [embedding.staying_of_lt (Fin.lt_trans less late), embedding.staying_of_lt late]
      exact less
    · rw [embedding.staying_of_not_lt late]
      by_cases early : i < k
      · rw [embedding.staying_of_lt early]
        exact Nat.lt_of_lt_of_le less (embedding.le_place l)
      · rw [embedding.staying_of_not_lt early]
        exact embedding.increasing less
  related := by
    intro i
    by_cases early : i < k
    · obtain ⟨second, there, same⟩ := found i early
      obtain ⟨_, rfl⟩ := List.getElem?_eq_some_iff.1 there
      simp only [staying, if_pos early]
      exact same
    · simp only [embedding.staying_of_not_lt early]
      exact embedding.related i

end Embedding

/-- The places of the first `i` elements among the first `j` of the other sequence. -/
structure Placing (pairing : α → β → Pairing) (older : List α) (newer : List β) (i j : Nat)
    (place : Nat → Nat) : Prop where
  below : ∀ k, k < i → place k < j
  increasing : ∀ k l, k < l → l < i → place k < place l
  equal : ∀ k, k < i → ∃ first second, older[k]? = some first ∧
    newer[place k]? = some second ∧ pairing first second = .equal

variable {pairing : α → β → Pairing} {older : List α} {newer : List β} {i j : Nat}
  {steps : List (Step α β)}

namespace Placing

variable {place : Nat → Nat}

theorem empty (place : Nat → Nat) : Placing pairing older newer 0 j place where
  below := by
    intro k short
    omega
  increasing := by
    intro k l _ short
    omega
  equal := by
    intro k short
    omega

theorem pair (placing : Placing pairing older newer i j place) {first : α} {second : β}
    (here : older[i]? = some first) (there : newer[j]? = some second)
    (equal : pairing first second = .equal) :
    Placing pairing older newer (i + 1) (j + 1) fun k => if k = i then j else place k where
  below := by
    intro k short
    by_cases last : k = i
    · simp only [if_pos last]
      omega
    · have before := placing.below k (by omega)
      simp only [if_neg last]
      omega
  increasing := by
    intro k l less short
    have first : k ≠ i := by omega
    by_cases last : l = i
    · simp only [if_neg first, if_pos last]
      exact placing.below k (by omega)
    · simp only [if_neg first, if_neg last]
      exact placing.increasing k l less (by omega)
  equal := by
    intro k short
    by_cases last : k = i
    · subst last
      simp only [if_pos]
      exact ⟨first, second, here, there, equal⟩
    · simp only [if_neg last]
      exact placing.equal k (by omega)

theorem append (placing : Placing pairing older newer i j place) :
    Placing pairing older newer i (j + 1) place where
  below := fun k short => Nat.lt_succ_of_lt (placing.below k short)
  increasing := placing.increasing
  equal := placing.equal

/-- Without its last element a front can do without the places from there on. -/
theorem init (placing : Placing pairing older newer (i + 1) j place) :
    Placing pairing older newer i (place i) place where
  below := fun k short => placing.increasing k i short (Nat.lt_succ_self i)
  increasing := fun k l less short => placing.increasing k l less (Nat.lt_succ_of_lt short)
  equal := fun k short => placing.equal k (Nat.lt_succ_of_lt short)

theorem shrink (placing : Placing pairing older newer (i + 1) (j + 1) place)
    (free : place i ≠ j) : Placing pairing older newer (i + 1) j place where
  below := by
    intro k short
    have last := placing.below i (Nat.lt_succ_self i)
    by_cases same : k = i
    · subst same
      omega
    · have before := placing.increasing k i (by omega) (Nat.lt_succ_self i)
      omega
  increasing := placing.increasing
  equal := placing.equal

end Placing

theorem OnlyAdds.of_concat {step : Step α β} (adds : OnlyAdds (steps ++ [step])) :
    OnlyAdds steps ∧ (step.isEqual = true ∨ step.isAppend = true) := by
  have parts := List.forall_mem_append.1 adds
  exact ⟨parts.1, parts.2 step (List.mem_singleton_self step)⟩

theorem OnlyAdds.concat {step : Step α β} (adds : OnlyAdds steps)
    (last : step.isEqual = true ∨ step.isAppend = true) : OnlyAdds (steps ++ [step]) :=
  List.forall_mem_append.2 ⟨adds, List.forall_mem_singleton.2 last⟩

theorem Path.exists_placing (path : Path pairing older newer i j steps)
    (adds : OnlyAdds steps) : ∃ place, Placing pairing older newer i j place := by
  induction path with
  | start => exact ⟨id, Placing.empty id⟩
  | pair before here there ih =>
      obtain ⟨earlier, last⟩ := adds.of_concat
      obtain ⟨place, placing⟩ := ih earlier
      have equal := last.resolve_right (by simp [Step.isAppend, Step.action])
      simp only [Step.isEqual, Step.action, beq_iff_eq, Action.pair.injEq] at equal
      exact ⟨_, placing.pair here there equal⟩
  | delete before here ih =>
      have last := adds.of_concat.2
      simp [Step.isEqual, Step.isAppend, Step.action] at last
  | append before there ih =>
      obtain ⟨place, placing⟩ := ih adds.of_concat.1
      exact ⟨place, placing.append⟩

/-- A placing is followed from the back: its last place is paired when it is reached, and
places that are not taken are additions. -/
theorem Placing.exists_path {place : Nat → Nat}
    (placing : Placing pairing older newer i j place) (bound : j ≤ newer.length) :
    ∃ steps, Path pairing older newer i j steps ∧ OnlyAdds steps := by
  induction j generalizing i with
  | zero =>
      cases i with
      | zero => exact ⟨[], .start, by simp [OnlyAdds]⟩
      | succ i =>
          have absurd := placing.below i (Nat.lt_succ_self i)
          omega
  | succ j ih =>
      have there : newer[j]? = some newer[j] := List.getElem?_eq_getElem bound
      have added (placing : Placing pairing older newer i j place) :
          ∃ steps, Path pairing older newer i (j + 1) steps ∧ OnlyAdds steps := by
        obtain ⟨steps, path, adds⟩ := ih placing (Nat.le_of_lt bound)
        exact ⟨_, path.append there, adds.concat (Or.inr rfl)⟩
      cases i with
      | zero => exact added (Placing.empty place)
      | succ i =>
          by_cases last : place i = j
          · have before := placing.init
            obtain ⟨first, second, here, taken, equal⟩ :=
              placing.equal i (Nat.lt_succ_self i)
            rw [last] at before taken
            obtain ⟨steps, path, adds⟩ := ih before (Nat.le_of_lt bound)
            refine ⟨_, path.pair here taken, adds.concat (Or.inl ?_)⟩
            simp [Step.isEqual, Step.action, equal]
          · exact added (placing.shrink last)

theorem Placing.embedding {place : Nat → Nat}
    (placing : Placing pairing older newer older.length newer.length place) :
    Embedding (fun first second => pairing first second = .equal) older newer
      fun k => ⟨place k, placing.below k k.isLt⟩ where
  increasing := fun k l less => placing.increasing k l less l.isLt
  related := by
    intro k
    obtain ⟨first, second, here, there, equal⟩ := placing.equal k k.isLt
    obtain ⟨_, rfl⟩ := List.getElem?_eq_some_iff.1 here
    obtain ⟨_, rfl⟩ := List.getElem?_eq_some_iff.1 there
    exact equal

theorem Embedding.placing {place : Fin older.length → Fin newer.length}
    (embedding : Embedding (fun first second => pairing first second = .equal) older newer
      place) :
    Placing pairing older newer older.length newer.length
      fun k => if known : k < older.length then place ⟨k, known⟩ else 0 where
  below := by
    intro k short
    simp only [dif_pos short]
    exact (place ⟨k, short⟩).isLt
  increasing := by
    intro k l less short
    simp only [dif_pos short, dif_pos (Nat.lt_trans less short)]
    exact embedding.increasing less
  equal := by
    intro k short
    simp only [dif_pos short]
    exact ⟨_, _, List.getElem?_eq_getElem short,
      List.getElem?_eq_getElem (place ⟨k, short⟩).isLt, embedding.related ⟨k, short⟩⟩

/-- The cheapest script only adds exactly when the first sequence is embedded in the second. -/
theorem onlyAdds_cheapest_iff_embedding (costs : Costs) (pairing : α → β → Pairing)
    (older : List α) (newer : List β) :
    OnlyAdds (cheapest costs pairing older newer).steps ↔
      ∃ place, Embedding (fun first second => pairing first second = .equal) older newer
        place := by
  rw [onlyAdds_cheapest_iff]
  constructor
  · rintro ⟨steps, script, adds⟩
    obtain ⟨place, placing⟩ := Path.exists_placing script adds
    exact ⟨_, placing.embedding⟩
  · rintro ⟨place, embedding⟩
    exact embedding.placing.exists_path (Nat.le_refl _)

end StorageCompat.Alignment
