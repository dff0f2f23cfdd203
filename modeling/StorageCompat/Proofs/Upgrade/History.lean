import StorageCompat.Proofs.Success
import StorageCompat.Proofs.Upgrade.Places

/-!
Histories of upgrades. Where labels are texts, safety is an order on layouts: each is safe after
itself, a history of safe upgrades is safe as a whole whatever policy judged its steps, and two
layouts that are safe after each other have the same variables. Only a cost too long to be written
can keep the whole from being judged.
-/

open StorageCompat.Alignment

namespace StorageCompat.Upgrade

structure Textual (layout : Layout) : Prop where
  label : ∀ slot ∈ layout.slots, ∃ text, slot.label = .text text
  typeLabel : ∀ slot ∈ layout.slots, ∃ text, layout.typeLabel slot = .ok (.text text)

theorem SameVariable.refl {layout : Layout} (textual : Textual layout) {slot : Slot}
    (member : slot ∈ layout.slots) : SameVariable layout layout slot slot := by
  obtain ⟨label, labelled⟩ := textual.label slot member
  obtain ⟨type, typed⟩ := textual.typeLabel slot member
  refine ⟨?_, _, _, typed, typed, (Value.same_text_iff _ type).2 rfl⟩
  rw [labelled]
  exact (Value.same_text_iff _ label).2 rfl

theorem same_text_trans {first third : Value} {middle : String}
    (before : first.same (.text middle) = true) (after : (Value.text middle).same third = true) :
    first.same third = true := by
  obtain rfl := (first.same_text_iff middle).1 before
  exact after

theorem SameVariable.trans {older middle newer : Layout} (textual : Textual middle)
    {first second third : Slot} (member : second ∈ middle.slots)
    (before : SameVariable older middle first second)
    (after : SameVariable middle newer second third) : SameVariable older newer first third := by
  obtain ⟨label, labelled⟩ := textual.label second member
  obtain ⟨type, typed⟩ := textual.typeLabel second member
  obtain ⟨sameLabel, firstType, secondType, given, given', sameType⟩ := before
  obtain ⟨sameLabel', secondType', thirdType, given'', given''', sameType'⟩ := after
  rw [typed] at given' given''
  cases given'
  cases given''
  rw [labelled] at sameLabel sameLabel'
  exact ⟨same_text_trans sameLabel sameLabel', _, _, given, given''',
    same_text_trans sameType sameType'⟩

theorem Embeds.refl {layout : Layout} (textual : Textual layout) : Embeds layout layout :=
  ⟨id, .identity fun _ member => .refl textual member⟩

theorem Embeds.trans {older middle newer : Layout} (textual : Textual middle)
    (before : Embeds older middle) (after : Embeds middle newer) : Embeds older newer := by
  obtain ⟨place, embedding⟩ := before
  obtain ⟨place', embedding'⟩ := after
  refine ⟨place' ∘ place, embedding.comp embedding' ?_⟩
  intro first second third member same same'
  exact same.trans textual member same'

def JudgedSafe (older newer : Layout) : Prop :=
  ∃ policy, (isSafe policy older newer).result = .ok true

theorem JudgedSafe.embeds {older newer : Layout} (judged : JudgedSafe older newer) :
    Embeds older newer := by
  obtain ⟨policy, safe⟩ := judged
  exact ((isSafe_eq_true_iff policy older newer).1 safe).1

/-- Versions of a layout, each judged safe after the one before by a policy of its own. -/
structure SafeHistory {count : Nat} (versions : Fin (count + 1) → Layout) : Prop where
  textual : ∀ i, Textual (versions i)
  judged : ∀ i : Fin count, JudgedSafe (versions i.castSucc) (versions i.succ)

theorem SafeHistory.embeds {count : Nat} {versions : Fin (count + 1) → Layout}
    (history : SafeHistory versions) (i : Fin (count + 1)) : Embeds (versions 0) (versions i) := by
  induction i using Fin.induction with
  | zero => exact .refl (history.textual 0)
  | succ i before => exact before.trans (history.textual i.castSucc) (history.judged i).embeds

def additionsCost (policy : Policy) (older newer : Layout) : Nat :=
  (newer.slots.length - older.slots.length) * (policy.costs.getD .standard).append

/-- Where the old variables are all found, the verdict is that, or the additions cost too much. -/
theorem Embeds.isSafe_result {older newer : Layout} (embeds : Embeds older newer)
    (policy : Policy) :
    (isSafe policy older newer).result =
      if additionsCost policy older newer < 10 ^ Numeral.longest then .ok true
      else .error (.numberTooLong none) := by
  split
  case isTrue short => exact (isSafe_eq_true_iff policy older newer).2 ⟨embeds, short⟩
  case isFalse long =>
    apply isSafe_of_not_writable
    rw [Numeral.isWritable_iff, cheapestScript_cost_of_embeds _ _ _ embeds]
    exact long

structure SafeAfterItself (policy : Policy) (layout : Layout) : Prop where
  safe : (isSafe policy layout layout).result = .ok true
  unbroken : ∃ listed, (changes policy layout layout).result = .ok listed ∧ breaking listed = []

theorem safeAfterItself (policy : Policy) {layout : Layout} (textual : Textual layout) :
    SafeAfterItself policy layout := by
  have safe : (isSafe policy layout layout).result = .ok true := by
    refine (isSafe_eq_true_iff policy layout layout).2 ⟨.refl textual, ?_⟩
    rw [Nat.sub_self, Nat.zero_mul]
    exact Nat.pow_pos (by decide)
  refine ⟨safe, ?_⟩
  rw [isSafe, Logged.result_bind] at safe
  obtain ⟨listed, given, unbroken⟩ := (bind_eq_ok_iff _ _ _).1 safe
  exact ⟨listed, given, List.isEmpty_iff.1 (Except.ok.inj unbroken)⟩

/-- Whatever policies judged the steps of a history, every policy judges the whole safe, unless its
additions cost too much to be written. A layout is safe after itself, and layouts that are safe
after each other have the same variables in the same places. -/
theorem isSafe_history :
    (∀ (count : Nat) (versions : Fin (count + 1) → Layout), SafeHistory versions → ∀ policy,
      (isSafe policy (versions 0) (versions (Fin.last count))).result =
        if additionsCost policy (versions 0) (versions (Fin.last count)) < 10 ^ Numeral.longest then
          .ok true
        else .error (.numberTooLong none)) ∧
      (∀ layout, Textual layout → ∀ policy, SafeAfterItself policy layout) ∧
      ∀ older newer, JudgedSafe older newer → JudgedSafe newer older →
        List.Forall₂ (SameVariable older newer) older.slots newer.slots := by
  refine ⟨?_, ?_, ?_⟩
  · intro count versions history policy
    exact (history.embeds (Fin.last count)).isSafe_result policy
  · intro layout textual policy
    exact safeAfterItself policy textual
  · intro older newer forth back
    obtain ⟨place, embedding⟩ := forth.embeds
    obtain ⟨place', converse⟩ := back.embeds
    exact embedding.forall₂ converse

theorem textual_ofLabelled {entries : List (Slot × Value)}
    (labels : ∀ entry ∈ entries, ∃ text, entry.1.label = .text text)
    (types : ∀ entry ∈ entries, ∃ text, entry.2 = .text text) :
    Textual (.ofLabelled entries) where
  label := List.forall_mem_map.2 labels
  typeLabel := by
    intro slot member
    obtain ⟨label, given⟩ := (Layout.ofLabelled entries).typeLabel_eq_ok slot member
    have listed := (Layout.typeLabel_eq_ok_iff _ _ _).1 given
    obtain ⟨entry, present, same⟩ := List.mem_map.1 (Table.mem_of_get?_ofList listed)
    obtain ⟨text, labelled⟩ := types entry present
    have own : label = .text text := (Prod.mk.inj same).2.symm.trans labelled
    exact ⟨text, given.trans (congrArg Except.ok own)⟩

def counterVersions : Fin 3 → Layout
  | 0 => .empty
  | 1 => oneCounter
  | 2 => twoCounters

def movedCounters : Layout :=
  .ofLabelled
    [(⟨.text "W", .text "a", "t_uint256"⟩, .text "uint256"),
      (⟨.text "W", .text "b", "t_uint256"⟩, .text "uint256")]

theorem textual_twoCounters : Textual twoCounters := by
  apply textual_ofLabelled <;> simp

theorem safeHistory_counterVersions : SafeHistory counterVersions where
  textual := by
    intro i
    match i with
    | 0 => exact ⟨by simp [counterVersions, Layout.empty], by simp [counterVersions, Layout.empty]⟩
    | 1 => exact textual_ofLabelled (by simp) (by simp)
    | 2 => exact textual_twoCounters
  judged := by
    intro i
    match i with
    | 0 => exact ⟨{}, rfl⟩
    | 1 => exact ⟨{}, rfl⟩

theorem isSafe_history_counters :
    SafeHistory counterVersions ∧
      (∀ policy, (isSafe policy .empty twoCounters).result =
        if additionsCost policy .empty twoCounters < 10 ^ Numeral.longest then .ok true
        else .error (.numberTooLong none)) ∧
      Textual twoCounters ∧ (∀ policy, SafeAfterItself policy twoCounters) ∧
      JudgedSafe twoCounters movedCounters ∧ JudgedSafe movedCounters twoCounters ∧
      List.Forall₂ (SameVariable twoCounters movedCounters) twoCounters.slots
        movedCounters.slots := by
  have forth : JudgedSafe twoCounters movedCounters := ⟨{}, rfl⟩
  have back : JudgedSafe movedCounters twoCounters := ⟨{}, rfl⟩
  obtain ⟨whole, itself, same⟩ := isSafe_history
  exact ⟨safeHistory_counterVersions, whole 2 counterVersions safeHistory_counterVersions,
    textual_twoCounters, itself twoCounters textual_twoCounters, forth, back,
    same twoCounters movedCounters forth back⟩

def dearestPolicy : Policy := ⟨some dearestAddition, false⟩

theorem additionsCost_dearestPolicy (older newer : Layout) :
    additionsCost dearestPolicy older newer =
      (newer.slots.length - older.slots.length) * dearestAddition.append := rfl

/-- A policy can judge each step of a history safe and give no verdict on the whole. -/
theorem isSafe_history_dearest :
    SafeHistory counterVersions ∧
      (∀ i : Fin 2, (isSafe dearestPolicy (counterVersions i.castSucc)
        (counterVersions i.succ)).result = .ok true) ∧
      (isSafe dearestPolicy (counterVersions 0) (counterVersions (Fin.last 2))).result ≠
        .ok true := by
  have cost := dearestAddition_append
  have positive := dearestAddition.append_pos
  have history := safeHistory_counterVersions
  refine ⟨history, ?_, ?_⟩
  · intro i
    have single : (counterVersions i.succ).slots.length -
        (counterVersions i.castSucc).slots.length = 1 := by
      match i with
      | 0 => rfl
      | 1 => rfl
    rw [(history.judged i).embeds.isSafe_result, additionsCost_dearestPolicy, single]
    exact if_pos (by omega)
  · have both : (counterVersions (Fin.last 2)).slots.length -
        (counterVersions 0).slots.length = 2 := rfl
    rw [(history.embeds (Fin.last 2)).isSafe_result, additionsCost_dearestPolicy, both,
      if_neg (by omega)]
    nofun

end StorageCompat.Upgrade
