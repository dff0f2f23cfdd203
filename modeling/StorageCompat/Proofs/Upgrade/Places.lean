import Mathlib.Order.WellFounded
import StorageCompat.Proofs.Upgrade.Verdict

/-!
Places of variables. Additions are never listed, wherever they stand, so an upgrade that puts a
new variable in front of old ones is judged safe although it moves them. The verdict keeps every
variable in its place exactly where no variable is displaced in this way.
-/

open StorageCompat.Alignment

namespace StorageCompat.Upgrade

def InPlace (older newer : Layout) (k : Fin older.slots.length) : Prop :=
  ∃ second, newer.slots[k.val]? = some second ∧
    SameVariable older newer older.slots[k] second

/-- The older layout is a front of the newer one. -/
def KeepsPlaces (older newer : Layout) : Prop :=
  ∀ k, InPlace older newer k

/-- The variables before `k` stay and the others move back: where `k` was there is another
variable, and all of them are still found in order. -/
structure Displacement (older newer : Layout)
    (place : Fin older.slots.length → Fin newer.slots.length)
    (k : Fin older.slots.length) : Prop where
  embedding : Embedding (SameVariable older newer) older.slots newer.slots place
  kept : ∀ i, i < k → (place i).val = i.val
  moved : k.val < (place k).val
  replaced : ¬InPlace older newer k

theorem Displacement.not_keepsPlaces {older newer : Layout}
    {place : Fin older.slots.length → Fin newer.slots.length}
    {k : Fin older.slots.length} (displacement : Displacement older newer place k) :
    ¬KeepsPlaces older newer :=
  fun keeps => displacement.replaced (keeps k)

/-- The first variable that is not in its place is displaced if all are still found. -/
theorem Embeds.exists_displacement {older newer : Layout} (embeds : Embeds older newer)
    (moved : ¬KeepsPlaces older newer) : ∃ place k, Displacement older newer place k := by
  obtain ⟨place, embedding⟩ := embeds
  obtain ⟨k, replaced, first⟩ :=
    wellFounded_lt.has_min { i | ¬InPlace older newer i } (not_forall.1 moved)
  have found (i : Fin older.slots.length) (early : i < k) : InPlace older newer i := by
    by_contra missing
    exact first i missing early
  refine ⟨embedding.staying k, k, embedding.embedding_staying k found, ?_, ?_, replaced⟩
  · intro i early
    exact embedding.staying_of_lt early
  · rw [embedding.staying_of_not_lt (Nat.lt_irrefl k.val)]
    apply Nat.lt_of_le_of_ne (embedding.le_place k)
    intro same
    have here : newer.slots[k.val]? = some newer.slots[place k] := by
      simp only [same]
      exact List.getElem?_eq_getElem (place k).isLt
    exact replaced ⟨_, here, embedding.related k⟩

/-- A safe verdict says that every variable keeps its place, except exactly where variables are
displaced and the cost of adding the new ones can be written. -/
theorem isSafe_imp_keepsPlaces_iff (policy : Policy) (older newer : Layout) :
    ((isSafe policy older newer).result = .ok true → KeepsPlaces older newer) ↔
      ∀ place k, Displacement older newer place k →
        10 ^ Numeral.longest ≤
          (newer.slots.length - older.slots.length) * (policy.costs.getD .standard).append := by
  rw [isSafe_eq_true_iff]
  constructor
  · intro sound place k displacement
    by_contra short
    apply displacement.not_keepsPlaces
    exact sound ⟨⟨place, displacement.embedding⟩, Nat.not_le.1 short⟩
  · rintro allowed ⟨embeds, short⟩
    by_contra moved
    obtain ⟨place, k, displacement⟩ := embeds.exists_displacement moved
    exact absurd short (Nat.not_lt.2 (allowed place k displacement))

def oneCounter : Layout :=
  .ofLabelled [(⟨.text "V", .text "a", "t_uint256"⟩, .text "uint256")]

def counterBehind : Layout :=
  .ofLabelled
    [(⟨.text "V", .text "x", "t_uint256"⟩, .text "uint256"),
      (⟨.text "V", .text "a", "t_uint256"⟩, .text "uint256")]

/-- An upgrade is judged safe that puts a new variable in front of the old one. -/
theorem isSafe_counterBehind :
    ¬((isSafe {} oneCounter counterBehind).result = .ok true →
      KeepsPlaces oneCounter counterBehind) := by
  intro sound
  have safe : (isSafe {} oneCounter counterBehind).result = .ok true := rfl
  obtain ⟨second, there, sameLabel, _⟩ := sound safe ⟨0, by decide⟩
  cases there
  have otherLabel : (Value.text "a").same (.text "x") = false := rfl
  exact Bool.false_ne_true (otherLabel.symm.trans sameLabel)

end StorageCompat.Upgrade
