import StreamAnalytics.Lib.GoMap
import StreamAnalytics.Shared.Problem

/-!
# Event envelopes

Model of the record of `internal/shared/envelope` and of its validation.  The
routing key that the source caches in the record is not part of its value and is
left out.  The field `Meta` is called `metadata` here.
-/

namespace StreamAnalytics

/-- `Envelope`. -/
structure Envelope where
  type : String
  version : Int
  venue : String
  instrument : String
  tsExchange : Int
  tsIngest : Int
  seq : Int
  idempotencyKey : String
  contentType : String
  metadata : GoMap String String
  payload : List UInt8

namespace Envelope

/-- `ContentTypeJSON`. -/
def contentTypeJSON : String := "application/json"

/-- `ContentTypeProto`. -/
def contentTypeProto : String := "application/protobuf"

/-- `NormalizeContentType`. -/
def normalizeContentType (contentType : String) : Except Problem String :=
  let normalized := GoStrings.toLower (GoStrings.trimSpace contentType)
  if normalized = "" ∨ normalized = contentTypeJSON then .ok contentTypeJSON
  else if normalized = contentTypeProto then .ok contentTypeProto
  else
    .error (((Problem.newf .validationFailed "unsupported envelope content_type %q"
      [.str contentType]).withDetail "field" (.str "content_type")).withDetail
        "value" (.str contentType))

/-- The checks of `Validate` on a string field. -/
def checkField (field value : String) : Option Problem :=
  Problem.when (GoStrings.trimSpace value = "")
    ((Problem.new .validationFailed ("envelope " ++ field ++ " must not be empty")).withDetail
      "field" (.str field))

/-- The checks of `Validate` on an integer field. -/
def checkInt (bad : Prop) [Decidable bad] (field wording : String) (value : Int) : Option Problem :=
  Problem.when bad
    (((Problem.newf .validationFailed ("envelope " ++ field ++ " must be " ++ wording ++ ", got %d")
      [.int value]).withDetail "field" (.str field)).withDetail "value" (.int value))

/-- `Validate`, with the content type it normalizes. -/
def validate (e : Envelope) : Except Problem Envelope :=
  match Validation.collect
      [checkField "type" e.type,
        checkInt (e.version < 1) "version" ">= 1" e.version,
        checkField "venue" e.venue,
        checkField "instrument" e.instrument,
        checkInt (e.tsIngest ≤ 0) "ts_ingest" "positive" e.tsIngest,
        checkInt (e.seq < 0) "seq" "non-negative" e.seq,
        checkField "idempotency_key" e.idempotencyKey] with
  | some p => .error p
  | none =>
    match normalizeContentType e.contentType with
    | .error p => .error p
    | .ok contentType =>
      if e.payload = [] then
        .error ((Problem.new .validationFailed "envelope payload must not be empty").withDetail
          "field" (.str "payload"))
      else
        .ok { e with contentType := contentType }

/-- Validation changes nothing but the content type. -/
theorem eq_of_validate {e e' : Envelope} (h : e.validate = .ok e') :
    ∃ contentType, e' = { e with contentType := contentType } := by
  unfold validate at h
  split at h
  · cases h
  · split at h
    · cases h
    · split_ifs at h
      cases h
      exact ⟨_, rfl⟩

/-- Every problem that validation reports is a failed validation. -/
theorem code_of_validate
    {e : Envelope} {p : Problem} (h : e.validate = .error p) : p.code = .validationFailed := by
  unfold validate at h
  split at h
  · rename_i q hcollect
    cases h
    refine Validation.of_collect (Q := fun q => q.code = .validationFailed) (fun v hv q hq => ?_)
      hcollect
    subst hq
    simp only [List.mem_cons, List.not_mem_nil, or_false] at hv
    rcases hv with hv | hv | hv | hv | hv | hv | hv <;>
      · obtain rfl := Problem.eq_of_when hv.symm
        rfl
  · split at h
    · rename_i q hnormalize
      cases h
      unfold normalizeContentType at hnormalize
      dsimp only at hnormalize
      split_ifs at hnormalize
      cases hnormalize
      rfl
    · split_ifs at h
      cases h
      rfl

end Envelope

end StreamAnalytics
