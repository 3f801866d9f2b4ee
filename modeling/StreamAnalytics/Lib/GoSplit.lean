import StreamAnalytics.Lib.GoStrings

/-!
# Splitting at a separator

`strings.Split` cuts at every separator.  The parts of two texts that a separator joins
are the parts of the one followed by those of the other (`partsOf_append`), so the last
parts of a text do not depend on what precedes them, and white space around a text
belongs to its first and last part (`trimRunes_append`).
-/

namespace StreamAnalytics
namespace GoStrings

variable {sep : Char}

/-- The parts of a rune sequence. -/
def partsOf (sep : Char) : List Char → List (List Char)
  | [] => [[]]
  | c :: cs =>
    if c = sep then [] :: partsOf sep cs
    else
      match partsOf sep cs with
      | [] => [[c]]
      | part :: parts => (c :: part) :: parts

/-- With enough cuts a text is cut at every separator. -/
theorem splitRunes_eq_partsOf {runes : List Char} {cuts : Nat} (h : runes.length ≤ cuts) :
    splitRunes sep cuts runes = partsOf sep runes := by
  induction runes generalizing cuts with
  | nil => rfl
  | cons c cs ih =>
    rw [List.length_cons] at h
    rw [splitRunes, partsOf]
    by_cases hsep : c = sep
    · rw [if_pos ⟨hsep, by omega⟩, if_pos hsep, ih (by omega)]
    · rw [if_neg fun h => hsep h.1, if_neg hsep, ih (by omega)]
      try rfl

theorem split_eq_partsOf
    (s : String) (sep : Char) : split s sep = (partsOf sep s.toList).map String.ofList := by
  unfold split
  rw [splitRunes_eq_partsOf (String.length_toList ▸ le_rfl)]

theorem partsOf_eq_splitOn (runes : List Char) : partsOf sep runes = runes.splitOn sep := by
  induction runes with
  | nil => rfl
  | cons c cs ih =>
    rw [partsOf, List.splitOn_cons_eq_if_modifyHead, ih]
    obtain ⟨part, parts, hparts⟩ := List.exists_cons_of_ne_nil (List.splitOn_ne_nil sep cs)
    simp [hparts]

/-- The parts of two texts with a separator between them. -/
theorem partsOf_append (front back : List Char) :
    partsOf sep (front ++ sep :: back) = partsOf sep front ++ partsOf sep back := by
  simp only [partsOf_eq_splitOn, List.splitOn_append_cons_self]

theorem partsOf_of_not_mem {runes : List Char} (h : sep ∉ runes) : partsOf sep runes = [runes] := by
  rw [partsOf_eq_splitOn, List.splitOn_eq_singleton h]

/-- A text with a separator ends with a part behind the last one. -/
theorem exists_last_part {runes : List Char} (h : sep ∈ runes) :
    ∃ front last, runes = front ++ sep :: last ∧ sep ∉ last := by
  induction runes with
  | nil => cases h
  | cons c cs ih =>
    by_cases hcs : sep ∈ cs
    · obtain ⟨front, last, rfl, hlast⟩ := ih hcs
      exact ⟨c :: front, last, rfl, hlast⟩
    · obtain rfl := (List.mem_cons.mp h).resolve_right hcs
      exact ⟨[], cs, rfl, hcs⟩

theorem rdropWhile_append (hsep : Unicode.isSpace sep = false) (front back : List Char) :
    (front ++ sep :: back).rdropWhile Unicode.isSpace =
      front ++ sep :: back.rdropWhile Unicode.isSpace := by
  induction back using List.reverseRecOn with
  | nil =>
    rw [List.rdropWhile_concat_neg _ _ _ (by simp [hsep])]
    rfl
  | append_singleton back c ih =>
    by_cases hc : Unicode.isSpace c = true
    · rw [List.rdropWhile_concat_pos _ _ _ hc, ← ih, ← List.cons_append, ← List.append_assoc,
        List.rdropWhile_concat_pos _ _ _ hc]
    · rw [List.rdropWhile_concat_neg _ _ _ hc, ← List.cons_append, ← List.append_assoc,
        List.rdropWhile_concat_neg _ _ _ hc]

/-- Trimming works on the text before a separator and on the text behind it. -/
theorem trimRunes_append (hsep : Unicode.isSpace sep = false) (front back : List Char) :
    trimRunes (front ++ sep :: back) =
      front.dropWhile Unicode.isSpace ++ sep :: back.rdropWhile Unicode.isSpace := by
  have hdrop : (front ++ sep :: back).dropWhile Unicode.isSpace =
      front.dropWhile Unicode.isSpace ++ sep :: back := by
    induction front with
    | nil => simp [hsep]
    | cons c cs ih =>
      rw [List.cons_append, List.dropWhile_cons, List.dropWhile_cons]
      split_ifs
      · exact ih
      · rfl
  rw [trimRunes, hdrop, rdropWhile_append hsep]

/-- A part does not get a separator by trimming. -/
theorem not_mem_rdropWhile
    {runes : List Char} (h : sep ∉ runes) : sep ∉ runes.rdropWhile Unicode.isSpace :=
  fun hmem => h ((List.rdropWhile_prefix _ _).subset hmem)

end GoStrings
end StreamAnalytics
