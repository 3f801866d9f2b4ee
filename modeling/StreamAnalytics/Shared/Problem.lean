import StreamAnalytics.Lib.GoStrings

/-!
# Problems and validation helpers

Model of `internal/shared/problem` and `internal/shared/validation`.  A problem
keeps its message as the format text together with the arguments; details are
the key/value pairs added by `WithDetail`, oldest first.
-/

namespace StreamAnalytics

variable {fieldName : String}

/-- `problem.ProblemCode`. -/
inductive ProblemCode where
  | validationFailed
  | invalidArgument
  | notFound
  | conflict
  | internal
  | unavailable
  | outOfOrder
  | duplicate
  | integrityViolation
deriving Repr, DecidableEq

/-- Values that occur as message arguments and as details. -/
inductive ProblemValue where
  | str (s : String)
  | strs (ss : List String)
  | int (n : Int)
  | float (x : Float)
deriving DecidableEq

/-- `problem.Problem`, as far as the modelled code sets it. -/
structure Problem where
  code : ProblemCode
  format : String
  args : List ProblemValue
  details : List (String × ProblemValue)
deriving DecidableEq

namespace Problem

/-- `problem.Newf`. -/
def newf (code : ProblemCode) (format : String) (args : List ProblemValue) : Problem :=
  ⟨code, format, args, []⟩

/-- `problem.New`. -/
def new (code : ProblemCode) (msg : String) : Problem := newf code msg []

/-- The problem of a check that fails when `bad` holds. -/
def when (bad : Prop) [Decidable bad] (p : Problem) : Option Problem := if bad then some p else none

@[simp] theorem when_eq_none
    {bad : Prop} [Decidable bad] {p : Problem} : when bad p = none ↔ ¬ bad := by
  unfold when
  split_ifs with h <;> simp [h]

theorem eq_of_when
    {bad : Prop} [Decidable bad] {p q : Problem} (h : when bad p = some q) : p = q := by
  unfold when at h
  split_ifs at h
  exact Option.some.inj h

/-- `problem.WithDetail`. -/
def withDetail (p : Problem) (key : String) (value : ProblemValue) : Problem :=
  { p with details := p.details ++ [(key, value)] }

end Problem

namespace Validation

/-- `validation.NonEmptyString`. -/
def nonEmptyString (fieldName value : String) : Option Problem :=
  if GoStrings.trimSpace value = "" then
    some ((Problem.newf .validationFailed "%s must not be empty" [.str fieldName]).withDetail
      "field" (.str fieldName))
  else
    none

/-- `validation.OneOf`. -/
def oneOf (fieldName value : String) (allowed : List String) : Option Problem :=
  if value ∈ allowed then
    none
  else
    some (((Problem.newf .validationFailed "%s must be one of %v, got %q"
      [.str fieldName, .strs allowed, .str value]).withDetail
        "field" (.str fieldName)).withDetail "value" (.str value))

/-- The integer checks differ only in the accepted range and the wording. -/
def intCheck (accepted : Bool) (format fieldName : String) (value : Int) : Option Problem :=
  if accepted then
    none
  else
    some (((Problem.newf .validationFailed format [.str fieldName, .int value]).withDetail
      "field" (.str fieldName)).withDetail "value" (.int value))

/-- `validation.PositiveInt`. -/
def positiveInt (fieldName : String) (value : Int) : Option Problem :=
  intCheck (0 < value) "%s must be positive, got %d" fieldName value

/-- `validation.NonNegativeInt`. -/
def nonNegativeInt (fieldName : String) (value : Int) : Option Problem :=
  intCheck (0 ≤ value) "%s must be non-negative, got %d" fieldName value

/-- `validation.NonEmptySliceLen`. -/
def nonEmptySliceLen (fieldName : String) (length : Nat) : Option Problem :=
  if length = 0 then
    some ((Problem.newf .validationFailed "%s must not be empty" [.str fieldName]).withDetail
      "field" (.str fieldName))
  else
    none

/-- `validation.Collect`: the first problem of an eagerly evaluated list. -/
def collect (validators : List (Option Problem)) : Option Problem := validators.findSome? id

/-- What holds of the problem of every check holds of the problem reported. -/
theorem of_collect {Q : Problem → Prop} {validators : List (Option Problem)} {p : Problem}
    (hall : ∀ v ∈ validators, ∀ q, v = some q → Q q) (h : collect validators = some p) : Q p := by
  obtain ⟨v, hv, hp⟩ := List.exists_of_findSome?_eq_some h
  exact hall v hv p hp

@[simp] theorem nonEmptyString_eq_none
    {value : String} : nonEmptyString fieldName value = none ↔ GoStrings.trimSpace value ≠ "" := by
  unfold nonEmptyString
  split_ifs with h <;> simp [h]

@[simp] theorem oneOf_eq_none {value : String} {allowed : List String} :
    oneOf fieldName value allowed = none ↔ value ∈ allowed := by
  unfold oneOf
  split_ifs with h <;> simp [h]

@[simp] theorem intCheck_eq_none {accepted : Bool} {format : String} {value : Int} :
    intCheck accepted format fieldName value = none ↔ accepted = true := by
  unfold intCheck
  split_ifs with h <;> simp [h]

@[simp] theorem positiveInt_eq_none
    {value : Int} : positiveInt fieldName value = none ↔ 0 < value := by
  simp [positiveInt]

@[simp] theorem nonNegativeInt_eq_none
    {value : Int} : nonNegativeInt fieldName value = none ↔ 0 ≤ value := by
  simp [nonNegativeInt]

@[simp] theorem nonEmptySliceLen_eq_none
    {length : Nat} : nonEmptySliceLen fieldName length = none ↔ length ≠ 0 := by
  unfold nonEmptySliceLen
  split_ifs with h <;> simp [h]

/-- `Collect` reports nothing exactly when every validator passes. -/
theorem collect_eq_none {validators : List (Option Problem)} :
    collect validators = none ↔ ∀ p ∈ validators, p = none := by
  simp [collect, List.findSome?_eq_none_iff]

end Validation
end StreamAnalytics
