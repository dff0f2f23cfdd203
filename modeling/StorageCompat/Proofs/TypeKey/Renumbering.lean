import Mathlib.Logic.Relation
import StorageCompat.Proofs.TypeKey.Erasure

/-!
Numbers of declaring nodes have no part in keys. Identifiers that differ in nothing but the
numbers behind the names of declared types have the same key: each such number stands behind the
parenthesis that closes the name, and there it is erased whatever it is.
-/

namespace StorageCompat.TypeKey

inductive Balanced : List Char → Prop where
  | nil : Balanced []
  | other {character : Char} {rest : List Char} (notOpening : character ≠ '(')
      (notClosing : character ≠ ')') (balanced : Balanced rest) : Balanced (character :: rest)
  | nested {inner rest : List Char} (within : Balanced inner) (behind : Balanced rest) :
      Balanced ('(' :: (inner ++ ')' :: rest))

def ClosesDeclared (text : List Char) : Prop :=
  ∃ before, ∃ word ∈ declaredKinds, ∃ inner, Balanced inner ∧
    text = before ++ (word ++ (inner ++ [')']))

theorem Balanced.of_not_mem {text : List Char} (noOpening : '(' ∉ text) (noClosing : ')' ∉ text) :
    Balanced text := by
  induction text with
  | nil => exact .nil
  | cons character rest ih =>
      obtain ⟨notOpening, noOpening⟩ := not_or.1 (mt List.mem_cons.2 noOpening)
      obtain ⟨notClosing, noClosing⟩ := not_or.1 (mt List.mem_cons.2 noClosing)
      exact .other (Ne.symm notOpening) (Ne.symm notClosing) (ih noOpening noClosing)

/-- Some numbers behind names of declared types are replaced by others. The identifiers stand
behind `front`, which is needed to know where names of declared types are closed. -/
inductive Renumbered : (front : List Char) → List Char → List Char → Prop where
  | nil {front : List Char} : Renumbered front [] []
  | keep {front rest rest' : List Char} {character : Char}
      (renumbered : Renumbered (front ++ [character]) rest rest') :
      Renumbered front (character :: rest) (character :: rest')
  | replace {front decoded number number' rest rest' : List Char}
      (before : decode front = .ok decoded) (closes : ClosesDeclared decoded)
      (old : IsNumber number) (ends : EndsNumber rest) (new : IsNumber number')
      (renumbered : Renumbered (front ++ number) rest rest') :
      Renumbered front (number ++ rest) (number' ++ rest')

theorem Renumbered.keep_append {front : List Char} (kept : List Char) {rest rest' : List Char}
    (renumbered : Renumbered (front ++ kept) rest rest') :
    Renumbered front (kept ++ rest) (kept ++ rest') := by
  induction kept generalizing front with
  | nil => exact List.append_nil front ▸ renumbered
  | cons character later ih =>
      rw [List.append_cons] at renumbered
      exact .keep (ih renumbered)

/-- The texts differ in the number behind the parenthesis that closes the first one opened, where
`depth` are open already. -/
inductive DifferBehind : (depth : Nat) → List Char → List Char → Prop where
  | number {number number' rest : List Char} (old : IsNumber number) (new : IsNumber number')
      (ends : EndsNumber rest) :
      DifferBehind 1 (')' :: (number ++ rest)) (')' :: (number' ++ rest))
  | opening {depth : Nat} {first second : List Char}
      (differ : DifferBehind (depth + 1) first second) :
      DifferBehind depth ('(' :: first) ('(' :: second)
  | closing {depth : Nat} {first second : List Char}
      (differ : DifferBehind (depth + 1) first second) :
      DifferBehind (depth + 2) (')' :: first) (')' :: second)
  | other {depth : Nat} {character : Char} {first second : List Char} (notOpening : character ≠ '(')
      (notClosing : character ≠ ')') (differ : DifferBehind depth first second) :
      DifferBehind depth (character :: first) (character :: second)

theorem DifferBehind.head?_eq {depth : Nat} {first second : List Char}
    (differ : DifferBehind depth first second) : first.head? = second.head? := by
  cases differ <;> rfl

theorem DifferBehind.dropIdBehind_eq {depth : Nat} {first second : List Char}
    (differ : DifferBehind depth first second) :
    dropIdBehind depth first = dropIdBehind depth second := by
  induction differ with
  | number old new ends =>
      exact congrArg (')' :: ·) ((old.dropId_append ends).trans (new.dropId_append ends).symm)
  | opening _ ih => rw [dropIdBehind_opening, dropIdBehind_opening, ih]
  | closing _ ih => exact congrArg (')' :: ·) ih
  | other notOpening notClosing _ ih =>
      rw [dropIdBehind_other _ _ notOpening notClosing,
        dropIdBehind_other _ _ notOpening notClosing, ih]

section Kept

variable {depth : Nat} {first second : List Char}

theorem differBehind_dropDigits (differ : DifferBehind depth first second) :
    DifferBehind depth (first.dropWhile Text.isDecimalDigit)
      (second.dropWhile Text.isDecimalDigit) := by
  induction differ with
  | number old new ends => exact .number old new ends
  | opening differ _ => exact .opening differ
  | closing differ _ => exact .closing differ
  | other notOpening notClosing differ ih =>
      rw [List.dropWhile_cons, List.dropWhile_cons]
      split
      · exact ih
      · exact .other notOpening notClosing differ

theorem differBehind_dropUnderscore (differ : DifferBehind depth first second) :
    DifferBehind depth (dropUnderscore first) (dropUnderscore second) := by
  cases differ with
  | number old new ends => exact .number old new ends
  | opening later => exact .opening later
  | closing later => exact .closing later
  | @other _ character _ _ notOpening notClosing later =>
      by_cases underscore : character = '_'
      · subst underscore
        exact later
      · rw [dropUnderscore_cons_ne _ underscore, dropUnderscore_cons_ne _ underscore]
        exact .other notOpening notClosing later

theorem differBehind_dropId (differ : DifferBehind depth first second) :
    DifferBehind depth (dropId first) (dropId second) := by
  by_cases ends : EndsNumber first
  · have ends' := endsNumber_of_head? differ.head?_eq.symm ends
    rw [dropId_of_endsNumber ends, dropId_of_endsNumber ends']
    exact differ
  · obtain ⟨digit, member, decimal⟩ := not_forall₂.1 ends
    rw [Bool.not_eq_false] at decimal
    rw [dropId_of_digit member decimal, dropId_of_digit (differ.head?_eq ▸ member) decimal]
    exact differBehind_dropUnderscore (differBehind_dropDigits differ)

theorem differBehind_dropIdBehind (differ : DifferBehind depth first second) {inner : Nat}
    (deeper : inner < depth) :
    DifferBehind depth (dropIdBehind inner first) (dropIdBehind inner second) := by
  induction differ generalizing inner with
  | @number number number' rest old new ends =>
      obtain rfl := Nat.lt_one_iff.1 deeper
      change DifferBehind 1 (')' :: dropIdBehind 0 (number ++ rest))
        (')' :: dropIdBehind 0 (number' ++ rest))
      rw [old.dropIdBehind_append, new.dropIdBehind_append]
      exact .number old new (endsNumber_of_head? (head?_dropIdBehind 0 rest) ends)
  | opening _ ih =>
      rw [dropIdBehind_opening, dropIdBehind_opening]
      exact .opening (ih (Nat.succ_lt_succ deeper))
  | closing differ ih =>
      match inner with
      | 0 => exact .closing (ih (Nat.succ_pos _))
      | 1 => exact .closing (differBehind_dropId differ)
      | inner + 2 => exact .closing (ih (Nat.lt_of_succ_lt_succ deeper))
  | other notOpening notClosing _ ih =>
      rw [dropIdBehind_other _ _ notOpening notClosing,
        dropIdBehind_other _ _ notOpening notClosing]
      exact .other notOpening notClosing (ih deeper)

end Kept

structure Alike (first second : List Char) : Prop where
  front : first.takeWhile (· != ')') = second.takeWhile (· != ')')
  closes : ∀ depth, closes depth first = closes depth second
  closed : firstUnclosed? first = none ↔ firstUnclosed? second = none

namespace Alike

variable {first second : List Char}

theorem opensDeclared_eq (alike : Alike first second) :
    opensDeclared first = opensDeclared second := by
  rw [← opensDeclared_takeWhile first, alike.front, opensDeclared_takeWhile]

theorem closes_cons (same : ∀ depth, TypeKey.closes depth first = TypeKey.closes depth second)
    (character : Char) (depth : Nat) :
    TypeKey.closes depth (character :: first) = TypeKey.closes depth (character :: second) := by
  by_cases opening : character = '('
  · subst opening
    rw [closes_opening, closes_opening, same]
  by_cases closing : character = ')'
  · subst closing
    match depth with
    | 0 => exact same 0
    | 1 => rfl
    | depth + 2 => exact same (depth + 1)
  · rw [closes_other _ _ opening closing, closes_other _ _ opening closing, same]

theorem front_cons (same : first.takeWhile (· != ')') = second.takeWhile (· != ')'))
    (character : Char) :
    (character :: first).takeWhile (· != ')') = (character :: second).takeWhile (· != ')') := by
  rw [List.takeWhile_cons, List.takeWhile_cons, same]

theorem cons (alike : Alike first second) (character : Char) :
    Alike (character :: first) (character :: second) := by
  have front := front_cons alike.front character
  have closes := closes_cons alike.closes character
  refine ⟨front, closes, ?_⟩
  rw [firstUnclosed?_cons_eq_none_iff, firstUnclosed?_cons_eq_none_iff, closes, alike.closed,
    ← opensDeclared_takeWhile (character :: first), front, opensDeclared_takeWhile]

theorem append (alike : Alike first second) (before : List Char) :
    Alike (before ++ first) (before ++ second) := by
  induction before with
  | nil => exact alike
  | cons character _ ih => exact ih.cons character

end Alike

theorem DifferBehind.alike {depth : Nat} {first second : List Char}
    (differ : DifferBehind depth first second) : Alike first second := by
  induction differ with
  | @number number number' rest old new ends =>
      have same (depth : Nat) : closes depth (number ++ rest) = closes depth (number' ++ rest) := by
        rw [old.closes_append, new.closes_append]
      have plain (behind : List Char) : opensDeclared (')' :: behind) = false :=
        opensDeclared_cons_ne behind (by decide)
      refine ⟨rfl, Alike.closes_cons same ')', ?_⟩
      rw [firstUnclosed?_cons_eq_none_iff, firstUnclosed?_cons_eq_none_iff, plain, plain,
        old.firstUnclosed?_append, new.firstUnclosed?_append]
      simp
  | opening _ ih => exact ih.cons '('
  | closing _ ih => exact ih.cons ')'
  | other _ _ _ ih => exact ih.cons _

theorem differBehind_eraseIds {depth : Nat} {first second : List Char}
    (differ : DifferBehind depth first second) (opened : 0 < depth) :
    DifferBehind depth (eraseIds first) (eraseIds second) := by
  induction differ with
  | @number number number' rest old new ends =>
      rw [eraseIds_cons _ (opensDeclared_cons_ne _ (by decide)), old.eraseIds_append,
        eraseIds_cons _ (opensDeclared_cons_ne _ (by decide)), new.eraseIds_append]
      exact .number old new (endsNumber_of_head? (head?_eraseIds rest) ends)
  | opening _ ih =>
      rw [eraseIds_cons _ (opensDeclared_cons_ne _ (by decide)),
        eraseIds_cons _ (opensDeclared_cons_ne _ (by decide))]
      exact .opening (ih (Nat.succ_pos _))
  | closing _ ih =>
      rw [eraseIds_cons _ (opensDeclared_cons_ne _ (by decide)),
        eraseIds_cons _ (opensDeclared_cons_ne _ (by decide))]
      exact .closing (ih (Nat.succ_pos _))
  | other notOpening notClosing differ ih =>
      have later := DifferBehind.other notOpening notClosing (ih opened)
      rw [eraseIds, eraseIds, (differ.alike.cons _).opensDeclared_eq]
      split
      · exact differBehind_dropIdBehind later opened
      · exact later

inductive DifferOnce : List Char → List Char → Prop where
  | here {word first second : List Char} (member : word ∈ declaredKinds)
      (differ : DifferBehind 1 first second) : DifferOnce (word ++ first) (word ++ second)
  | later {first second : List Char} (character : Char) (differ : DifferOnce first second) :
      DifferOnce (character :: first) (character :: second)

namespace DifferOnce

variable {first second : List Char}

theorem alike (differ : DifferOnce first second) : Alike first second := by
  induction differ with
  | here _ differ => exact differ.alike.append _
  | later character _ ih => exact ih.cons character

theorem eraseIds_eq (differ : DifferOnce first second) : eraseIds first = eraseIds second := by
  induction differ with
  | here member differ =>
      have erased := (differBehind_eraseIds differ Nat.one_pos).dropIdBehind_eq
      rw [eraseIds_word member, eraseIds_word member, erased]
  | later character differ ih =>
      rw [eraseIds, eraseIds, ih, (differ.alike.cons character).opensDeclared_eq]

end DifferOnce

theorem DifferOnce.withoutIds {first second key : List Char} (differ : DifferOnce first second)
    (accepted : withoutIds first = .ok key) : withoutIds second = .ok key := by
  rw [withoutIds_eq_ok_iff] at accepted ⊢
  rwa [← differ.alike.closed, ← differ.eraseIds_eq]

theorem withoutIds_of_differ {first second key : List Char}
    (differ : Relation.ReflTransGen DifferOnce first second)
    (accepted : withoutIds first = .ok key) : withoutIds second = .ok key := by
  induction differ with
  | refl => exact accepted
  | tail _ once ih => exact once.withoutIds ih

theorem DifferOnce.append {first second : List Char} (differ : DifferOnce first second)
    (before : List Char) : DifferOnce (before ++ first) (before ++ second) := by
  induction before with
  | nil => exact differ
  | cons character _ ih => exact ih.later character

theorem Balanced.differBehind {inner first second : List Char} (balanced : Balanced inner)
    {depth : Nat} (differ : DifferBehind (depth + 1) first second) :
    DifferBehind (depth + 1) (inner ++ first) (inner ++ second) := by
  induction balanced generalizing depth first second with
  | nil => exact differ
  | other notOpening notClosing _ ih => exact .other notOpening notClosing (ih differ)
  | nested _ _ ihWithin ihBehind =>
      rw [List.cons_append, List.cons_append, List.append_assoc, List.append_assoc]
      exact .opening (ihWithin (.closing (ihBehind differ)))

theorem ClosesDeclared.differOnce {front number number' rest : List Char}
    (closes : ClosesDeclared front) (old : IsNumber number) (new : IsNumber number')
    (ends : EndsNumber rest) :
    DifferOnce (front ++ (number ++ rest)) (front ++ (number' ++ rest)) := by
  obtain ⟨before, word, member, inner, balanced, rfl⟩ := closes
  simp only [List.append_assoc]
  exact (DifferOnce.here member (balanced.differBehind (.number old new ends))).append before

theorem Renumbered.endsNumber {front rest rest' : List Char}
    (renumbered : Renumbered front rest rest')
    (ends : EndsNumber rest) : EndsNumber rest' := by
  cases renumbered with
  | nil => exact ends
  | keep _ => exact ends
  | replace _ _ old _ _ _ =>
     obtain ⟨digit, digits, rfl⟩ := List.exists_cons_of_ne_nil old.nonempty
     have decimal := old.decimal digit List.mem_cons_self
     rw [ends digit rfl] at decimal
     cases decimal

theorem Renumbered.decode {front rest rest' text : List Char}
    (renumbered : Renumbered front rest rest') (decoded : decode (front ++ rest) = .ok text) :
    ∃ text', decode (front ++ rest') = .ok text' ∧ Relation.ReflTransGen DifferOnce text text' := by
  induction renumbered with
  | nil => exact ⟨text, decoded, .refl⟩
  | @keep front rest rest' character _ ih =>
      rw [List.append_cons] at decoded ⊢
      exact ih decoded
  | @replace front before number number' rest rest' decodes closes old ends new renumbered ih =>
      rw [← List.append_assoc] at decoded
      obtain ⟨middle, decoded', differ⟩ := ih decoded
      rw [List.append_assoc, decode_number_eq_ok_iff old] at decoded'
      obtain ⟨first, later, decodes', decodesLater, rfl⟩ := decoded'
      rw [decodes, Except.ok.injEq] at decodes'
      subst decodes'
      refine ⟨before ++ (number' ++ later), (decode_number_eq_ok_iff new _ _ _).2
        ⟨before, later, decodes, decodesLater, rfl⟩, differ.tail ?_⟩
      exact closes.differOnce old new (endsNumber_decode decodesLater (renumbered.endsNumber ends))

theorem Renumbered.keyOf_eq {identifier other key : List Char}
    (renumbered : Renumbered [] identifier other) (accepted : keyOf identifier = .ok key) :
    keyOf other = .ok key := by
  obtain ⟨text, decoded, erased⟩ := (keyOf_eq_ok_iff _ _).1 accepted
  obtain ⟨text', decoded', differ⟩ := renumbered.decode decoded
  exact (keyOf_eq_ok_iff _ _).2 ⟨text', decoded', withoutIds_of_differ differ erased⟩

end StorageCompat.TypeKey
