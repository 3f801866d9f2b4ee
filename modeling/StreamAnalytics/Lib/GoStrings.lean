import StreamAnalytics.Lib.UnicodeCase
import Mathlib.Data.List.DropRight

/-!
# The string functions of the standard library

Strings are modelled as sequences of Unicode scalar values, so that
`strings.ToUpper`, `strings.ToLower` and `strings.TrimSpace` act rune by rune.
Comparison of strings by code points agrees with the byte-wise comparison of
their UTF-8 encodings.
-/

namespace StreamAnalytics
namespace GoStrings

/-- `strings.ToUpper`. -/
def toUpper (s : String) : String := String.ofList (s.toList.map Unicode.toUpper)

/-- `strings.ToLower`. -/
def toLower (s : String) : String := String.ofList (s.toList.map Unicode.toLower)

/-- Remove leading and trailing white space from a rune sequence. -/
def trimRunes (runes : List Char) : List Char :=
  (runes.dropWhile Unicode.isSpace).rdropWhile Unicode.isSpace

/-- `strings.TrimSpace`. -/
def trimSpace (s : String) : String := String.ofList (trimRunes s.toList)

/-- A `strings.Replacer` that deletes single runes. -/
def deleteRunes (deleted : List Char) (s : String) : String :=
  String.ofList (s.toList.filter (fun c => !deleted.contains c))

/-- `strings.Contains` on rune sequences. -/
def containsRunes (sub : List Char) : List Char → Bool
  | [] => sub.isEmpty
  | c :: cs => sub.isPrefixOf (c :: cs) || containsRunes sub cs

/-- `strings.Contains`. -/
def contains (s sub : String) : Bool := containsRunes sub.toList s.toList

/-- `strings.HasPrefix`. -/
def startsWith (s start : String) : Bool := start.toList.isPrefixOf s.toList

/-- Cut a rune sequence at the first `cuts` occurrences of `sep`. -/
def splitRunes (sep : Char) : Nat → List Char → List (List Char)
  | _, [] => [[]]
  | cuts, c :: cs =>
    if c = sep ∧ 0 < cuts then
      [] :: splitRunes sep (cuts - 1) cs
    else
      match splitRunes sep cuts cs with
      | [] => [[c]]
      | part :: parts => (c :: part) :: parts

/-- `strings.SplitN` for a positive number of parts and a separator of one rune. -/
def splitN (s : String) (sep : Char) (parts : Nat) : List String :=
  (splitRunes sep (parts - 1) s.toList).map String.ofList

/-- `strings.Split` for a separator of one rune. -/
def split (s : String) (sep : Char) : List String :=
  (splitRunes sep s.length s.toList).map String.ofList

/-- The lower-case ASCII letter that a rune folds to; other runes are kept. -/
def foldASCII (c : Char) : Char :=
  if 'A' ≤ c ∧ c ≤ 'Z' then Char.ofNat (c.toNat + 32)
  else if c = '\u017f' then 's'
  else if c = '\u212a' then 'k'
  else c

/-- `strings.EqualFold` against a lower-case ASCII string. -/
def equalFoldASCII (s t : String) : Bool := s.toList.map foldASCII = t.toList

/-- The value of a non-empty sequence of decimal digits. -/
def parseDigits (runes : List Char) : Option Nat :=
  if runes.isEmpty || !runes.all Char.isDigit then none
  else some (runes.foldl (fun n c => 10 * n + (c.toNat - '0'.toNat)) 0)

/-- `strconv.ParseInt(s, 10, 64)`; `none` is an error. -/
def parseInt64 (s : String) : Option Int :=
  match s.toList with
  | '-' :: digits => (parseDigits digits).bind fun n =>
    if n ≤ 9223372036854775808 then some (-n) else none
  | '+' :: digits => (parseDigits digits).bind fun n =>
    if n < 9223372036854775808 then some (n : Int) else none
  | digits => (parseDigits digits).bind fun n =>
    if n < 9223372036854775808 then some (n : Int) else none

/-- Dropping at the right end does not expose a dropped prefix again. -/
theorem dropWhile_rdropWhile_dropWhile {α : Type*} (p : α → Bool) (l : List α) :
    ((l.dropWhile p).rdropWhile p).dropWhile p = (l.dropWhile p).rdropWhile p := by
  cases hr : (l.dropWhile p).rdropWhile p with
  | nil => rfl
  | cons x xs =>
    have hinitial : (x :: xs) <+: l.dropWhile p := by
      rw [← hr]
      exact List.rdropWhile_prefix p _
    obtain ⟨t, ht⟩ := hinitial
    have hhead : (l.dropWhile p).head? = some x := by
      rw [← ht]
      rfl
    have hx : p x = false := by
      have := List.head?_dropWhile_not p l
      rw [hhead] at this
      simpa using this
    simp [hx]

theorem trimRunes_trimRunes
    (runes : List Char) : trimRunes (trimRunes runes) = trimRunes runes := by
  unfold trimRunes
  rw [dropWhile_rdropWhile_dropWhile, List.rdropWhile_idempotent]

/-- Trimming commutes with a rune mapping that preserves white space. -/
theorem trimRunes_map
    (f : Char → Char) (hf : ∀ c, Unicode.isSpace (f c) = Unicode.isSpace c) (runes : List Char) :
    trimRunes (runes.map f) = (trimRunes runes).map f := by
  have hcomp : Unicode.isSpace ∘ f = Unicode.isSpace := funext hf
  unfold trimRunes List.rdropWhile
  rw [List.dropWhile_map, hcomp, ← List.map_reverse, List.dropWhile_map, hcomp, List.map_reverse]

/-- A rune that is not white space survives. -/
theorem trimRunes_ne_nil
    {runes : List Char} {c : Char} (hmem : c ∈ runes) (hc : Unicode.isSpace c = false) :
    trimRunes runes ≠ [] := by
  intro hnil
  have hall := List.rdropWhile_eq_nil_iff.mp hnil
  have hsplit : c ∈ runes.takeWhile Unicode.isSpace ++ runes.dropWhile Unicode.isSpace := by
    rw [List.takeWhile_append_dropWhile]
    exact hmem
  rcases List.mem_append.mp hsplit with htake | hdrop
  · exact absurd (List.mem_takeWhile_imp htake) (by simp [hc])
  · exact absurd (hall c hdrop) (by simp [hc])

theorem trimSpace_ne_empty
    {s : String} {c : Char} (hmem : c ∈ s.toList) (hc : Unicode.isSpace c = false) :
    trimSpace s ≠ "" := by
  intro hempty
  refine trimRunes_ne_nil hmem hc ?_
  have htoList := congrArg String.toList hempty
  rw [trimSpace, String.toList_ofList] at htoList
  exact htoList

@[simp] theorem trimSpace_trimSpace (s : String) : trimSpace (trimSpace s) = trimSpace s := by
  simp [trimSpace, trimRunes_trimRunes]

theorem trimSpace_toUpper (s : String) : trimSpace (toUpper s) = toUpper (trimSpace s) := by
  simp [trimSpace, toUpper, trimRunes_map _ Unicode.isSpace_toUpper]

theorem trimSpace_toLower (s : String) : trimSpace (toLower s) = toLower (trimSpace s) := by
  simp [trimSpace, toLower, trimRunes_map _ Unicode.isSpace_toLower]

theorem toUpper_toUpper (s : String) : toUpper (toUpper s) = toUpper s := by
  simp [toUpper, Function.comp_def, Unicode.toUpper_toUpper]

theorem toLower_toLower (s : String) : toLower (toLower s) = toLower s := by
  simp [toLower, Function.comp_def, Unicode.toLower_toLower]

/-- Upper case without surrounding white space is a normal form. -/
@[simp] theorem toUpper_trimSpace_idem
    (s : String) : toUpper (trimSpace (toUpper (trimSpace s))) = toUpper (trimSpace s) := by
  rw [trimSpace_toUpper, toUpper_toUpper, trimSpace_trimSpace]

/-- Lower case without surrounding white space is a normal form. -/
@[simp] theorem toLower_trimSpace_idem
    (s : String) : toLower (trimSpace (toLower (trimSpace s))) = toLower (trimSpace s) := by
  rw [trimSpace_toLower, toLower_toLower, trimSpace_trimSpace]

end GoStrings
end StreamAnalytics
