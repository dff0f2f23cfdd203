import Mathlib.Data.List.SplitBy
import Mathlib.Data.List.TakeWhile
import StorageCompat.Proofs.Success
import StorageCompat.TypeKey.Escape

/-!
Identifiers segment by segment. An identifier is a row of maximal segments, each of escape
characters only or of others only; the first one is decoded by itself and the rest is decoded as
if it stood alone, except that a refusal names the whole identifier.
-/

namespace StorageCompat.TypeKey

def Uniform (kind : Bool) (text : List Char) : Prop :=
  ∀ character ∈ text, isEscape character = kind

def Behind (kind : Bool) (rest : List Char) : Prop :=
  ∀ character ∈ rest.head?, isEscape character = !kind

theorem segments_append {kind : Bool} {segment rest : List Char} (nonempty : segment ≠ [])
    (uniform : Uniform kind segment) (behind : Behind kind rest) :
    segments (segment ++ rest) = segment :: segments rest := by
  have same : ∀ first ∈ segment, ∀ second ∈ segment,
      (isEscape first == isEscape second) = true := by
    intro first member second member'
    rw [uniform first member, uniform second member', beq_self_eq_true]
  have border : ∀ last ∈ segment.getLast?, ∀ first ∈ rest.head?,
      (isEscape last == isEscape first) = false := by
    intro last member first member'
    rw [uniform last (List.mem_of_mem_getLast? member), behind first member']
    cases kind <;> rfl
  have whole : segments segment = [segment] :=
    List.splitBy_of_isChain nonempty (List.pairwise_of_forall_mem_list same).isChain
  calc
    _ = segments segment ++ segments rest := List.splitBy_append border
    _ = segment :: segments rest := by rw [whole, List.singleton_append]

theorem exists_segment (character : Char) (text : List Char) :
    ∃ kind segment rest, character :: text = segment ++ rest ∧ segment ≠ [] ∧
      Uniform kind segment ∧ Behind kind rest := by
  let kind := isEscape character
  let alike (other : Char) : Bool := isEscape other == kind
  have own : alike character = true := beq_self_eq_true kind
  refine ⟨kind, (character :: text).takeWhile alike, (character :: text).dropWhile alike,
    List.takeWhile_append_dropWhile.symm, ?_, ?_, ?_⟩
  · rw [List.takeWhile_cons_of_pos own]
    exact List.cons_ne_nil _ _
  · intro other member
    exact eq_of_beq (List.mem_takeWhile_imp (p := alike) member)
  · intro other first
    have unlike := List.head?_dropWhile_not alike (character :: text)
    rw [Option.mem_def.1 first] at unlike
    exact Bool.eq_not.2 (bne_iff_ne.1 (congrArg not unlike))

/-- What holds of no text, and of a segment with a text behind it if it holds of that text, holds
of every text. -/
theorem segments_induction {motive : List Char → Prop} (nil : motive [])
    (append : ∀ kind segment rest, segment ≠ [] → Uniform kind segment → Behind kind rest →
      motive rest → motive (segment ++ rest)) (text : List Char) : motive text := by
  induction size : text.length using Nat.strong_induction_on generalizing text with
  | _ size ih =>
    subst size
    cases text with
    | nil => exact nil
    | cons character later =>
        obtain ⟨kind, segment, rest, whole, nonempty, uniform, behind⟩ :=
          exists_segment character later
        rw [whole] at ih ⊢
        have positive := List.length_pos_iff.2 nonempty
        have shorter : rest.length < (segment ++ rest).length := by
          rw [List.length_append]
          omega
        exact append kind segment rest nonempty uniform behind (ih _ shorter rest rfl)

def decodePart (identifier part : List Char) : Except Fault (List Char) := do
  let pieces ← (segments part).mapM (decodeSegment identifier)
  return pieces.flatten

theorem decode_eq_decodePart (identifier : List Char) :
    decode identifier = decodePart identifier identifier := rfl

theorem decodePart_nil (identifier : List Char) : decodePart identifier [] = .ok [] := rfl

theorem decodePart_append (identifier : List Char) {kind : Bool} {segment rest : List Char}
    (nonempty : segment ≠ []) (uniform : Uniform kind segment) (behind : Behind kind rest) :
    decodePart identifier (segment ++ rest) = do
      let first ← decodeSegment identifier segment
      let later ← decodePart identifier rest
      return first ++ later := by
  rw [decodePart, segments_append nonempty uniform behind, List.mapM_cons]
  simp only [decodePart, bind_assoc, pure_bind, List.flatten_cons]

theorem decodePart_append_eq_ok_iff (identifier : List Char) {kind : Bool}
    {segment rest : List Char} (nonempty : segment ≠ []) (uniform : Uniform kind segment)
    (behind : Behind kind rest) (text : List Char) :
    decodePart identifier (segment ++ rest) = .ok text ↔
      ∃ first later, decodeSegment identifier segment = .ok first ∧
        decodePart identifier rest = .ok later ∧ first ++ later = text := by
  simp only [decodePart_append identifier nonempty uniform behind, bind_eq_ok_iff,
    pure_eq_ok_iff, exists_and_left]

/-- What holds of no text and is kept by a further character in front that is no escape character,
and by a further run, holds of every text. -/
theorem runs_induction {motive : List Char → Prop} (nil : motive [])
    (other : ∀ character rest, isEscape character = false → motive rest →
      motive (character :: rest))
    (run : ∀ run rest, run ≠ [] → Uniform true run → Behind true rest → motive rest →
      motive (run ++ rest)) (text : List Char) : motive text := by
  induction text using segments_induction with
  | nil => exact nil
  | append kind segment rest nonempty uniform behind ih =>
      cases kind with
      | true => exact run segment rest nonempty uniform behind ih
      | false =>
          clear nonempty
          induction segment with
          | nil => exact ih
          | cons character later inner =>
              obtain ⟨outside, uniform⟩ := List.forall_mem_cons.1 uniform
              exact other character (later ++ rest) outside (inner uniform)

theorem decodeSegment_run (identifier : List Char) {run : List Char} (nonempty : run ≠ [])
    (escapes : Uniform true run) :
    decodeSegment identifier run =
      match decodeRun? run with
      | some text => .ok text
      | none => .error (.undecodable (String.ofList run) (String.ofList identifier)) := by
  obtain ⟨character, member⟩ := List.exists_mem_of_ne_nil run nonempty
  exact if_pos (List.any_eq_true.2 ⟨character, member, escapes character member⟩)

theorem decodeSegment_others (identifier : List Char) {segment : List Char}
    (others : Uniform false segment) : decodeSegment identifier segment = .ok segment := by
  refine if_neg ?_
  rw [Bool.not_eq_true, List.any_eq_false]
  intro character member
  rw [others character member]
  exact Bool.false_ne_true

theorem decodePart_other (identifier : List Char) {character : Char} (rest : List Char)
    (outside : isEscape character = false) :
    decodePart identifier (character :: rest) =
      (decodePart identifier rest).map (character :: ·) := by
  have alone (apart : Behind false rest) :
      decodePart identifier (character :: rest) =
        (decodePart identifier rest).map (character :: ·) := by
    have single : Uniform false [character] := by simpa [Uniform] using outside
    have cut := decodePart_append identifier (List.cons_ne_nil character []) single apart
    rw [decodeSegment_others identifier single] at cut
    refine cut.trans ?_
    cases decodePart identifier rest <;> rfl
  induction rest using segments_induction with
  | nil => exact alone (by simp [Behind])
  | append kind segment rest nonempty uniform behind _ =>
      cases kind with
      | true =>
          obtain ⟨first, later, rfl⟩ := List.exists_cons_of_ne_nil nonempty
          apply alone
          rintro _ ⟨⟩
          exact uniform first List.mem_cons_self
      | false =>
          -- The character joins the segment behind it.
          have longer : Uniform false (character :: segment) :=
            List.forall_mem_cons.2 ⟨outside, uniform⟩
          have extended := List.cons_ne_nil character segment
          have cut := decodePart_append identifier extended longer behind
          rw [decodeSegment_others identifier longer] at cut
          rw [decodePart_append identifier nonempty uniform behind,
            decodeSegment_others identifier uniform]
          refine cut.trans ?_
          cases decodePart identifier rest <;> rfl

theorem decodePart_run (identifier : List Char) {run rest : List Char} (nonempty : run ≠ [])
    (escapes : Uniform true run) (behind : Behind true rest) :
    decodePart identifier (run ++ rest) =
      match decodeRun? run with
      | some text => (decodePart identifier rest).map (text ++ ·)
      | none => .error (.undecodable (String.ofList run) (String.ofList identifier)) := by
  rw [decodePart_append identifier nonempty escapes behind,
    decodeSegment_run identifier nonempty escapes]
  cases decodeRun? run with
  | none => rfl
  | some text => cases decodePart identifier rest <;> rfl

end StorageCompat.TypeKey
