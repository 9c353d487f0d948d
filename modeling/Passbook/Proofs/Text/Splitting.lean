import Mathlib.Data.String.Basic

/-!
Splitting a text at a character. The library walks over the bytes of the text; here that is shown to give the
parts that splitting the list of its characters gives (`splitOn_eq`).
-/

set_option autoImplicit false
set_option relaxedAutoImplicit false

namespace Passbook.Text

open String

theorem not_atEnd (before : List Char) (c : Char) (rest : List Char) :
    ¬Pos.Raw.atEnd (ofList (before ++ c :: rest)) ⟨utf8Len before⟩ = true := fun ended ↦ by
  cases (atEnd_of_valid before (c :: rest)).1 ended

section Steps

variable (mark : Char) (finished begun left : List Char) (parts : List String)

/-- At the end the part that has begun is the last one. -/
theorem splitOnAux_end :
    splitOnAux (ofList (finished ++ begun)) (ofList [mark]) ⟨utf8Len finished⟩
        ⟨utf8Len finished + utf8Len begun⟩ 0 parts =
      parts.reverse ++ [ofList begun] := by
  have ended : Pos.Raw.atEnd (ofList (finished ++ begun)) ⟨utf8Len (finished ++ begun)⟩ = true := by
    simpa using (atEnd_of_valid (finished ++ begun) []).2 rfl
  have part := extract_of_valid finished begun []
  rw [List.append_nil] at part
  rw [← utf8Len_append] at part ⊢
  rw [splitOnAux, if_pos ended, part]
  simp

/-- At a character that is not the mark the part goes on. -/
theorem splitOnAux_other {c : Char} (apart : c ≠ mark) :
    splitOnAux (ofList (finished ++ begun ++ c :: left)) (ofList [mark]) ⟨utf8Len finished⟩
        ⟨utf8Len finished + utf8Len begun⟩ 0 parts =
      splitOnAux (ofList (finished ++ (begun ++ [c]) ++ left)) (ofList [mark]) ⟨utf8Len finished⟩
        ⟨utf8Len finished + utf8Len (begun ++ [c])⟩ 0 parts := by
  have goesOn := not_atEnd (finished ++ begun) c left
  have here := get_of_valid (finished ++ begun) (c :: left)
  have sought : Pos.Raw.get (ofList [mark]) 0 = mark := get_of_valid [] [mark]
  have back : Pos.Raw.unoffsetBy ⟨utf8Len (finished ++ begun)⟩ 0 =
      ⟨utf8Len (finished ++ begun)⟩ := rfl
  have walked : finished ++ begun ++ c :: left = finished ++ (begun ++ [c]) ++ left := by simp
  have length : utf8Len (finished ++ begun) + c.utf8Size =
      utf8Len finished + utf8Len (begun ++ [c]) := by simp [Nat.add_assoc]
  rw [← utf8Len_append, splitOnAux, if_neg goesOn, here, List.headD_cons, sought,
    if_neg (by simpa using apart), back, next_of_valid, walked, length]

/-- At the mark the part that has begun is finished, and the next one begins behind it. -/
theorem splitOnAux_mark :
    splitOnAux (ofList (finished ++ begun ++ mark :: left)) (ofList [mark]) ⟨utf8Len finished⟩
        ⟨utf8Len finished + utf8Len begun⟩ 0 parts =
      splitOnAux (ofList (finished ++ begun ++ [mark] ++ [] ++ left)) (ofList [mark])
        ⟨utf8Len (finished ++ begun ++ [mark])⟩
        ⟨utf8Len (finished ++ begun ++ [mark]) + utf8Len []⟩ 0 (ofList begun :: parts) := by
  have goesOn := not_atEnd (finished ++ begun) mark left
  have here := get_of_valid (finished ++ begun) (mark :: left)
  have sought : Pos.Raw.get (ofList [mark]) 0 = mark := get_of_valid [] [mark]
  have next : Pos.Raw.next (ofList [mark]) 0 = ⟨mark.utf8Size⟩ := by
    simpa using next_of_valid [] mark []
  have last : Pos.Raw.atEnd (ofList [mark]) ⟨mark.utf8Size⟩ = true := by
    simpa using (atEnd_of_valid [mark] []).2 rfl
  have back : Pos.Raw.unoffsetBy ⟨utf8Len (finished ++ begun) + mark.utf8Size⟩ ⟨mark.utf8Size⟩ =
      ⟨utf8Len (finished ++ begun)⟩ := congrArg Pos.Raw.mk (Nat.add_sub_cancel _ _)
  have part := extract_of_valid finished begun (mark :: left)
  have walked : finished ++ begun ++ mark :: left = finished ++ begun ++ [mark] ++ [] ++ left := by
    simp
  have length : utf8Len (finished ++ begun) + mark.utf8Size =
      utf8Len (finished ++ begun ++ [mark]) := by simp [Nat.add_assoc]
  rw [← utf8Len_append] at part ⊢
  rw [splitOnAux, if_neg goesOn, here, List.headD_cons, sought, if_pos (beq_self_eq_true mark)]
  dsimp only
  rw [next_of_valid, next, if_pos last, back, part, walked, length]
  rfl

end Steps

/-- Splitting from somewhere on, behind characters of finished parts and those of the part that has begun. The
induction is over the characters that are left. -/
theorem splitOnAux_of_valid (mark : Char) (finished begun left : List Char) (parts : List String) :
    splitOnAux (ofList (finished ++ begun ++ left)) (ofList [mark]) ⟨utf8Len finished⟩
        ⟨utf8Len finished + utf8Len begun⟩ 0 parts =
      parts.reverse ++ (List.splitOnPPrepend (· == mark) left begun.reverse).map ofList := by
  induction left generalizing finished begun parts with
  | nil =>
    rw [List.append_nil, splitOnAux_end]
    simp
  | cons c left ih =>
    by_cases same : c = mark
    · subst same
      rw [splitOnAux_mark, ih, List.splitOnPPrepend_cons_pos (by simp)]
      simp
    · rw [splitOnAux_other _ _ _ _ _ same, ih, List.splitOnPPrepend_cons_neg (by simpa using same),
        List.reverse_append]
      rfl

/-- A text is split at a character as the list of its characters is. -/
theorem splitOn_eq (text : String) (mark : Char) :
    text.splitOn (ofList [mark]) = (text.toList.splitOnP (· == mark)).map ofList := by
  have some : (ofList [mark] == "") = false := by
    rw [beq_eq_false_iff_ne]
    intro same
    have chars := congrArg String.toList same
    simp at chars
  have walked := splitOnAux_of_valid mark [] [] text.toList []
  rw [splitOn, some]
  simpa using walked

end Passbook.Text
