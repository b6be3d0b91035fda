import Mathlib.Data.List.Basic
import Mathlib.Tactic.Ring
import Phrasebook.Text.Separation

namespace Phrasebook.Text

/-!
# Texts with delimiters

The pieces of a text joined by the delimiter give the text back, and pieces that hold no start of a
delimiter come back from the text that they make. Cutting brings no characters into a text, and
replacing none but those of the replacement, which the text tells once the delimiter occurs.
-/

variable
  {delimiter : Delimiter}
  {character : Char}

/-! ## Pieces and the text that they make -/

theorem cutAt_cons_of_ne
    (apart : character ≠ delimiter.first)
    (text : List Char) :
    cutAt delimiter (character :: text) = (cutAt delimiter text).modifyHead (character :: ·) := by
  rw [cutAt, if_neg apart]

theorem cutAt_cons_of_dropLead?
    {text rest : List Char}
    (found : dropLead? delimiter.others text = some rest) :
    cutAt delimiter (delimiter.first :: text) = [] :: cutAt delimiter rest := by
  rw [cutAt, if_pos rfl]
  split
  · rename_i other same
    rw [found, Option.some.injEq] at same
    rw [same]
  · rename_i absent
    rw [found] at absent
    cases absent

theorem cutAt_cons_of_dropLead?_eq_none
    {text : List Char}
    (notFound : dropLead? delimiter.others text = none) :
    cutAt delimiter (delimiter.first :: text) =
      (cutAt delimiter text).modifyHead (delimiter.first :: ·) := by
  rw [cutAt, if_pos rfl]
  split
  · rename_i rest found
    rw [notFound] at found
    cases found
  · rfl

theorem cutAt_ne_nil
    (delimiter : Delimiter)
    (text : List Char) :
    cutAt delimiter text ≠ [] := by
  induction text using cutAt.induct delimiter with
  | case1 =>
      rw [cutAt]
      exact List.cons_ne_nil _ _
  | case2 text rest found _ =>
      rw [cutAt_cons_of_dropLead? found]
      exact List.cons_ne_nil _ _
  | case3 text notFound inductionHypothesis =>
      rw [cutAt_cons_of_dropLead?_eq_none notFound]
      simpa using inductionHypothesis
  | case4 character text apart inductionHypothesis =>
      rw [cutAt_cons_of_ne apart]
      simpa using inductionHypothesis

theorem dropLead?_append
    (lead rest : List Char) :
    dropLead? lead (lead ++ rest) = some rest := by
  induction lead with
  | nil =>
      rfl
  | cons expected lead inductionHypothesis =>
      rw [List.cons_append, dropLead?, if_pos rfl, inductionHypothesis]

theorem intercalate_modifyHead
    {separator : List Char}
    {pieces : List (List Char)}
    (notEmpty : pieces ≠ [])
    (character : Char) :
    separator.intercalate (pieces.modifyHead (character :: ·)) =
      character :: separator.intercalate pieces := by
  obtain ⟨first, others, rfl⟩ := List.exists_cons_of_ne_nil notEmpty
  rw [List.modifyHead_cons]
  cases others with
  | nil =>
      rw [List.intercalate_singleton, List.intercalate_singleton]
  | cons second others =>
      rw [List.intercalate_cons_cons, List.intercalate_cons_cons]
      rfl

/-- The pieces of a text joined by the delimiter give the text back. -/
theorem intercalate_cutAt
    (delimiter : Delimiter)
    (text : List Char) :
    delimiter.toList.intercalate (cutAt delimiter text) = text := by
  induction text using cutAt.induct delimiter with
  | case1 =>
      rw [cutAt, List.intercalate_singleton]
  | case2 text rest found inductionHypothesis =>
      rw [cutAt_cons_of_dropLead? found,
        List.intercalate_cons_of_ne_nil (cutAt_ne_nil delimiter rest), inductionHypothesis,
        dropLead?_eq_some found]
      rfl
  | case3 text notFound inductionHypothesis =>
      rw [cutAt_cons_of_dropLead?_eq_none notFound,
        intercalate_modifyHead (cutAt_ne_nil delimiter text), inductionHypothesis]
  | case4 character text apart inductionHypothesis =>
      rw [cutAt_cons_of_ne apart, intercalate_modifyHead (cutAt_ne_nil delimiter text),
        inductionHypothesis]

/-- A piece in which no delimiter starts is not cut. -/
theorem cutAt_append
    {piece : List Char}
    (apart : delimiter.first ∉ piece)
    (rest : List Char) :
    cutAt delimiter (piece ++ rest) = (cutAt delimiter rest).modifyHead (piece ++ ·) := by
  induction piece with
  | nil =>
      exact (congrFun List.modifyHead_id (cutAt delimiter rest)).symm
  | cons character piece inductionHypothesis =>
      rw [List.mem_cons, not_or] at apart
      rw [List.cons_append, cutAt_cons_of_ne (Ne.symm apart.1), inductionHypothesis apart.2,
        List.modifyHead_modifyHead]
      rfl

/-- Pieces in which no delimiter starts are those of the text that they make. -/
theorem cutAt_intercalate
    {pieces : List (List Char)}
    (notEmpty : pieces ≠ [])
    (apart : ∀ piece ∈ pieces, delimiter.first ∉ piece) :
    cutAt delimiter (delimiter.toList.intercalate pieces) = pieces := by
  induction pieces with
  | nil =>
      exact absurd rfl notEmpty
  | cons piece pieces inductionHypothesis =>
      rw [List.forall_mem_cons] at apart
      cases pieces with
      | nil =>
          have alone := cutAt_append apart.1 []
          rw [List.append_nil, cutAt, List.modifyHead_cons, List.append_nil] at alone
          rw [List.intercalate_singleton, alone]
      | cons next pieces =>
          have further := inductionHypothesis (List.cons_ne_nil next pieces) apart.2
          have cut := cutAt_cons_of_dropLead?
            (dropLead?_append delimiter.others (delimiter.toList.intercalate (next :: pieces)))
          rw [List.intercalate_cons_cons, List.append_assoc, cutAt_append apart.1,
            Delimiter.toList, List.cons_append]
          rw [Delimiter.toList] at cut further
          rw [cut, further, List.modifyHead_cons, List.append_nil]

/-! ## Characters -/

theorem mem_intercalate
    {separator piece : List Char}
    {pieces : List (List Char)}
    (isPiece : piece ∈ pieces)
    (isMember : character ∈ piece) :
    character ∈ separator.intercalate pieces := by
  induction pieces with
  | nil =>
      cases isPiece
  | cons first pieces inductionHypothesis =>
      by_cases isLast : pieces = []
      · subst isLast
        rw [List.mem_singleton] at isPiece
        subst isPiece
        simpa using isMember
      · rw [List.intercalate_cons_of_ne_nil isLast, List.mem_append, List.mem_append]
        rcases List.mem_cons.mp isPiece with rfl | later
        · exact .inl (.inl isMember)
        · exact .inr (inductionHypothesis later)

theorem mem_of_mem_cutAt
    {text piece : List Char}
    (isPiece : piece ∈ cutAt delimiter text)
    (isMember : character ∈ piece) :
    character ∈ text := by
  rw [← intercalate_cutAt delimiter text]
  exact mem_intercalate isPiece isMember

theorem mem_of_mem_intercalate
    {separator : List Char}
    {pieces : List (List Char)}
    (isMember : character ∈ separator.intercalate pieces) :
    character ∈ separator ∨ ∃ piece ∈ pieces, character ∈ piece := by
  induction pieces with
  | nil =>
      simp at isMember
  | cons first pieces inductionHypothesis =>
      cases pieces with
      | nil =>
          exact .inr ⟨first, List.mem_cons_self, by simpa using isMember⟩
      | cons second pieces =>
          rw [List.intercalate_cons_cons, List.mem_append, List.mem_append] at isMember
          rcases isMember with (inFirst | inSeparator) | further
          · exact .inr ⟨first, List.mem_cons_self, inFirst⟩
          · exact .inl inSeparator
          · refine (inductionHypothesis further).imp_right ?_
            rintro ⟨piece, isPiece, inPiece⟩
            exact ⟨piece, List.mem_cons_of_mem _ isPiece, inPiece⟩

/-- Replaced text has characters of the text and of the replacement alone. -/
theorem mem_of_mem_replaceAll
    {replacement text : List Char}
    (isMember : character ∈ replaceAll delimiter replacement text) :
    character ∈ replacement ∨ character ∈ text := by
  refine (mem_of_mem_intercalate isMember).imp_right ?_
  rintro ⟨piece, isPiece, inPiece⟩
  exact mem_of_mem_cutAt isPiece inPiece

/-! ## Replacements -/

theorem length_intercalate
    (separator : List Char)
    (pieces : List (List Char)) :
    (separator.intercalate pieces).length =
      pieces.flatten.length + (pieces.length - 1) * separator.length := by
  induction pieces with
  | nil =>
      simp
  | cons piece pieces inductionHypothesis =>
      cases pieces with
      | nil =>
          simp
      | cons next pieces =>
          rw [List.intercalate_cons_cons, List.length_append, List.length_append,
            inductionHypothesis]
          simp only [List.flatten_cons, List.length_append, List.length_cons,
            Nat.add_sub_cancel]
          ring

/-- Several pieces tell by what they were joined. -/
theorem intercalate_injective
    {pieces : List (List Char)}
    (several : 1 < pieces.length) :
    Function.Injective fun separator : List Char => separator.intercalate pieces := by
  intro first second same
  simp only at same
  have sameLength : first.length = second.length := by
    have lengths := congrArg List.length same
    rw [length_intercalate, length_intercalate] at lengths
    exact Nat.eq_of_mul_eq_mul_left (Nat.sub_pos_of_lt several) (Nat.add_left_cancel lengths)
  obtain ⟨piece, next, further, rfl⟩ : ∃ piece next further, pieces = piece :: next :: further := by
    match pieces, several with
    | piece :: next :: further, _ => exact ⟨piece, next, further, rfl⟩
  rw [List.intercalate_cons_cons, List.intercalate_cons_cons, List.append_assoc,
    List.append_assoc] at same
  exact (List.append_inj (List.append_cancel_left same) sameLength).1

/-- A text in which a delimiter occurs tells by what the delimiter was replaced. -/
theorem replaceAll_injective
    {text : List Char}
    (occurs : occursIn delimiter text) :
    Function.Injective fun replacement => replaceAll delimiter replacement text :=
  intercalate_injective (of_decide_eq_true occurs)

end Phrasebook.Text
