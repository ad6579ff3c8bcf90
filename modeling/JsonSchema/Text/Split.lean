/-!
# `JsonSchema.Text.Split` — cutting text at separators

## Contents
- **Cutting.** `pieces`: the parts between separators, always one more than there are separators.
- **Laws.** `pieces_ne_nil`, `join_pieces`; `pieces_cons_self` and `pieces_append`, by which text is cut
  from the front, and `pieces_append_cons_self`, by which it is cut anywhere; what the parts hold.
-/

namespace JsonSchema.Text

/-- The parts of a text between separators. -/
def pieces (separator : Char) : List Char → List (List Char)
  | [] => [[]]
  | c :: rest =>
    match pieces separator rest with
    | [] => [[c]]
    | part :: parts => if c = separator then [] :: part :: parts else (c :: part) :: parts

theorem pieces_ne_nil (separator : Char) (cs : List Char) : pieces separator cs ≠ [] := by
  induction cs with
  | nil => simp [pieces]
  | cons c rest ih =>
    unfold pieces
    split
    · simp
    · split <;> simp

/-- Putting the separators back gives the text. -/
theorem join_pieces (separator : Char) (cs : List Char) :
    List.intercalate [separator] (pieces separator cs) = cs := by
  induction cs with
  | nil => rfl
  | cons c rest ih =>
    unfold pieces
    split
    · next h => exact absurd h (pieces_ne_nil separator rest)
    · next part parts h =>
      rw [h] at ih
      split
      · next hc =>
        subst hc
        simpa [List.intercalate, List.intersperse] using ih
      · cases parts with
        | nil => simpa [List.intercalate, List.intersperse] using ih
        | cons p ps => simpa [List.intercalate, List.intersperse] using ih

/-- A separator opens a new part. -/
theorem pieces_cons_self (separator : Char) (cs : List Char) :
    pieces separator (separator :: cs) = [] :: pieces separator cs := by
  rw [pieces]
  split
  · next h => exact absurd h (pieces_ne_nil separator cs)
  · next part parts h => rw [if_pos rfl, h]

/-- Text without a separator goes to the first part. -/
theorem pieces_append {separator : Char} {cs : List Char} (h : separator ∉ cs) (rest : List Char) :
    pieces separator (cs ++ rest) = (pieces separator rest).modifyHead (cs ++ ·) := by
  induction cs with
  | nil =>
    rw [List.nil_append]
    cases pieces separator rest <;> rfl
  | cons c cs ih =>
    have hc : ¬c = separator := fun heq => h (heq ▸ List.mem_cons_self)
    have hcs : separator ∉ cs := fun hmem => h (List.mem_cons_of_mem c hmem)
    rw [List.cons_append, pieces, ih hcs]
    cases hrest : pieces separator rest with
    | nil => exact absurd hrest (pieces_ne_nil separator rest)
    | cons part parts => exact if_neg hc

/-- Text without a separator is one part. -/
theorem pieces_of_not_mem {separator : Char} {cs : List Char} (h : separator ∉ cs) :
    pieces separator cs = [cs] := by
  have happend := pieces_append h []
  rw [List.append_nil] at happend
  rw [happend]
  show [cs ++ []] = [cs]
  rw [List.append_nil]

/-- A separator cuts a text in two. -/
theorem pieces_append_cons_self (separator : Char) (cs rest : List Char) :
    pieces separator (cs ++ separator :: rest) = pieces separator cs ++ pieces separator rest := by
  induction cs with
  | nil => exact pieces_cons_self separator rest
  | cons c cs ih =>
    rw [List.cons_append, pieces, pieces, ih]
    cases hcs : pieces separator cs with
    | nil => exact absurd hcs (pieces_ne_nil separator cs)
    | cons part parts =>
      by_cases hc : c = separator
      · simp only [List.cons_append, if_pos hc]
      · simp only [List.cons_append, if_neg hc]

/-- The parts hold the characters of the text, and no separator. -/
theorem mem_of_mem_pieces {separator c : Char} {cs part : List Char} (hpart : part ∈ pieces separator cs)
    (hc : c ∈ part) : c ∈ cs ∧ c ≠ separator := by
  induction cs generalizing part with
  | nil =>
    rw [pieces, List.mem_singleton] at hpart
    subst hpart
    cases hc
  | cons d rest ih =>
    -- a character of a part of the rest is one of the whole text
    have hlater : ∀ {part}, part ∈ pieces separator rest → c ∈ part → c ∈ d :: rest ∧ c ≠ separator := by
      intro part hpart hc
      obtain ⟨hmem, hne⟩ := ih hpart hc
      exact ⟨List.mem_cons_of_mem d hmem, hne⟩
    rw [pieces] at hpart
    cases hrest : pieces separator rest with
    | nil => exact absurd hrest (pieces_ne_nil separator rest)
    | cons first others =>
      rw [hrest] at hpart hlater
      by_cases hd : d = separator
      · simp only [if_pos hd] at hpart
        rcases List.mem_cons.mp hpart with rfl | hpart
        · cases hc
        · exact hlater hpart hc
      · simp only [if_neg hd] at hpart
        rcases List.mem_cons.mp hpart with rfl | hpart
        · rcases List.mem_cons.mp hc with rfl | hc
          · exact ⟨List.mem_cons_self, hd⟩
          · exact hlater List.mem_cons_self hc
        · exact hlater (List.mem_cons_of_mem first hpart) hc

end JsonSchema.Text
