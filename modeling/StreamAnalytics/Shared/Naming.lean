import StreamAnalytics.Lib.GoStrings

/-!
# Canonical names

Model of `internal/shared/naming`: the canonical form of venue and instrument
identifiers.
-/

namespace StreamAnalytics
namespace Naming

open GoStrings Function

/-- `CanonicalVenue`: upper case, no surrounding white space. -/
def canonicalVenue (venue : String) : String := toUpper (trimSpace venue)

/-- The separators that `CanonicalInstrument` deletes. -/
def instrumentSeparators : List Char := ['/', '-', '_', '.']

/--
`CanonicalInstrument`: upper case and trimmed first, separators deleted last.
White space that stood next to a separator is therefore not trimmed again.
-/
def canonicalInstrument (instrument : String) : String :=
  deleteRunes instrumentSeparators (toUpper (trimSpace instrument))

/-- `NormalizeEventType`. -/
def normalizeEventType (eventType : String) : String := toLower (trimSpace eventType)

/-- A canonical venue carries no surrounding white space. -/
@[simp] theorem trimSpace_canonicalVenue
    (venue : String) : trimSpace (canonicalVenue venue) = canonicalVenue venue := by
  unfold canonicalVenue
  rw [trimSpace_toUpper, trimSpace_trimSpace]

/-- Upper-casing neither creates nor removes a separator. -/
theorem toUpper_mem_instrumentSeparators
    (c : Char) : Unicode.toUpper c ∈ instrumentSeparators ↔ c ∈ instrumentSeparators := by
  have hinj : Function.Injective Char.toNat := LeftInverse.injective Char.ofNat_toNat
  have hcodes := Unicode.contains_mapCase (instrumentSeparators.map Char.toNat)
    Unicode.upperRanges (by decide +kernel) c
  rw [← Unicode.toUpper_eq_mapCase, List.contains_eq_mem, List.contains_eq_mem,
    decide_eq_decide] at hcodes
  simpa only [List.mem_map_of_injective hinj] using hcodes

theorem canonicalInstrument_eq_toUpper (x : String) :
    canonicalInstrument x = toUpper (deleteRunes instrumentSeparators (trimSpace x)) := by
  simp [canonicalInstrument, deleteRunes, toUpper, List.filter_map, comp_def,
    toUpper_mem_instrumentSeparators]

/-- A text is trimmed exactly if its upper case is. -/
theorem trimSpace_toUpper_eq_iff
    (s : String) : trimSpace (toUpper s) = toUpper s ↔ trimSpace s = s := by
  rw [trimSpace_toUpper]
  refine ⟨fun h => ?_, congrArg toUpper⟩
  have hsub : (trimRunes s.toList).Sublist s.toList :=
    (List.rdropWhile_prefix _ _).sublist.trans (List.dropWhile_suffix _).sublist
  have hlength := congrArg (fun t => t.toList.length) h
  simp only [toUpper, trimSpace, String.toList_ofList, List.length_map] at hlength
  rw [trimSpace, hsub.eq_of_length hlength, String.ofList_toList]

example : canonicalVenue "  binance  " = "BINANCE" := by decide
example : canonicalInstrument "btc/usdt" = "BTCUSDT" := by decide
example : canonicalInstrument "BTC -" = "BTC " := by decide

end Naming
end StreamAnalytics
