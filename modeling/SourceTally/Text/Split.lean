/- Texts cut into parts at a separator. The parts hold no separator, and joining them gives the text
   back. -/
namespace SourceTally.Text

def split (separator : Char) : List Char → List (List Char)
  | [] => [[]]
  | c :: rest =>
    if c = separator then [] :: split separator rest
    else
      match split separator rest with
      | [] => [[c]]
      | part :: parts => (c :: part) :: parts

variable {separator : Char}

theorem split_ne_nil (cs : List Char) : split separator cs ≠ [] := by
  cases cs with
  | nil => simp [split]
  | cons c rest =>
    rw [split]
    split
    · simp
    · split <;> simp

theorem not_mem_of_mem_split (cs : List Char) :
    ∀ part ∈ split separator cs, separator ∉ part := by
  induction cs with
  | nil => simp [split]
  | cons c rest ih =>
    by_cases cut : c = separator
    · intro part member
      rw [split, if_pos cut] at member
      rcases List.mem_cons.mp member with same | later
      · simp [same]
      · exact ih part later
    · rw [split, if_neg cut]
      cases shape : split separator rest with
      | nil => simpa using Ne.symm cut
      | cons first parts =>
        rw [shape] at ih
        intro part member
        rcases List.mem_cons.mp member with same | later
        · have clean := ih first (by simp)
          simpa [same, clean] using Ne.symm cut
        · exact ih part (by simp [later])

theorem split_append {first : List Char} (clean : separator ∉ first) (rest : List Char) :
    split separator (first ++ separator :: rest) = first :: split separator rest := by
  induction first with
  | nil => simp [split]
  | cons c first ih =>
    simp only [List.mem_cons, not_or] at clean
    rw [List.cons_append, split, if_neg (Ne.symm clean.1), ih clean.2]

theorem split_of_not_mem {cs : List Char} (clean : separator ∉ cs) : split separator cs = [cs] := by
  induction cs with
  | nil => rfl
  | cons c rest ih =>
    simp only [List.mem_cons, not_or] at clean
    rw [split, if_neg (Ne.symm clean.1), ih clean.2]

theorem split_intercalate {part : List Char} {parts : List (List Char)}
    (clean : ∀ p ∈ part :: parts, separator ∉ p) :
    split separator ([separator].intercalate (part :: parts)) = part :: parts := by
  induction parts generalizing part with
  | nil => simpa using split_of_not_mem (clean part (by simp))
  | cons next parts ih =>
    have rest := ih fun p member => clean p (List.mem_cons_of_mem part member)
    rw [List.intercalate_cons_cons, List.append_assoc, List.singleton_append,
      split_append (clean part (by simp)), rest]

theorem intercalate_split (cs : List Char) :
    [separator].intercalate (split separator cs) = cs := by
  induction cs with
  | nil => simp [split]
  | cons c rest ih =>
    obtain ⟨part, parts, shape⟩ := List.exists_cons_of_ne_nil (@split_ne_nil separator rest)
    rw [shape] at ih
    by_cases cut : c = separator
    · rw [split, if_pos cut, shape, List.intercalate_cons_cons, ih, cut]
      rfl
    · rw [split, if_neg cut, shape]
      cases parts with
      | nil => simpa using ih
      | cons next parts =>
        rw [List.intercalate_cons_cons] at ih ⊢
        rw [List.cons_append, List.cons_append, ih]

end SourceTally.Text
