import StreamAnalytics.Adapters.ShardGroups

/-!
# Quarantined messages

Model of `buildQuarantineEnvelope` in `internal/adapters/jetstream/ingest_policy.go`.  A poison
message is copied to a subject made of the venue and the instrument of its envelope or, where the
envelope has none, of its own subject.  The envelope of the copy is always valid, but its subject
need not be, and then there is no copy (`quarantined_iff`).
-/

namespace StreamAnalytics
namespace Adapters
namespace Quarantine

open GoStrings ShardGroups

/-! ## The envelope of the copy -/

/-- `nats.Msg` with the message id of its header. -/
structure RawMessage where
  subject : String
  msgID : String
  data : List UInt8

/-- `quarantineSource`. -/
structure QuarantineSource where
  subject : String
  msgID : String
  eventType : String
  version : Int
  venue : String
  instrument : String
  contentType : String
  idempotencyKey : String
  payloadSHA256 : String

/-- `quarantinePayload`. -/
structure QuarantinePayload where
  reasonCode : String
  error : String
  source : QuarantineSource

/-- The functions of other packages, and what is used of them. -/
structure Library where
  hashBytes : List UInt8 → String
  hashFieldsFast : List String → String
  hashFieldsFast_ne : ∀ fields, trimSpace (hashFieldsFast fields) ≠ ""
  marshal : QuarantinePayload → List UInt8
  marshal_ne : ∀ payload, marshal payload ≠ []
  atoi : String → Option Int
  /-- `normalizeBoundedProblemText`. -/
  problemText : Option Problem → String
  isLetterOrDigit : Char → Bool

/-- `fallbackOrDefault`. -/
def fallbackOrDefault (value fallback : String) : String :=
  if trimSpace value ≠ "" then trimSpace value else trimSpace fallback

/-- `fallbackVersion`. -/
def fallbackVersion (version fallback : Int) : Int :=
  if 0 < version then version else if 0 < fallback then fallback else 1

/-- `normalizeOrDefaultContentType`. -/
def normalizeOrDefaultContentType (contentType : String) : String :=
  if trimSpace contentType = "" then Envelope.contentTypeJSON
  else
    match Envelope.normalizeContentType (trimSpace contentType) with
    | .ok normalized => normalized
    | .error _ => Envelope.contentTypeJSON

/-- `normalizeIngestReason`. -/
def normalizeIngestReason (reasonCode : String) : String :=
  if toUpper (trimSpace reasonCode) ∈ ["OK", "DECODE_FAILED", "VALIDATION_FAILED",
      "UNKNOWN_EVENT_TYPE", "UNKNOWN_EVENT_VERSION", "TRANSIENT_FAILURE", "TRANSIENT_EXHAUSTED",
      "QUARANTINE_PUBLISH_FAILED"] then toUpper (trimSpace reasonCode)
  else ""

/-- The results of `parseSubjectMeta`. -/
structure SubjectMeta where
  eventType : String
  version : Int
  venue : String
  instrument : String

variable (lib : Library)

/-- `parseSubjectMeta`. -/
def parseSubjectMeta (subject : String) : SubjectMeta :=
  match (split (trimSpace subject) '.').reverse with
  | instrument :: venue :: version :: event :: events =>
    match (toLower (trimSpace version)).toList with
    | 'v' :: digits =>
      { eventType := ".".intercalate (event :: events).reverse
        version := max 0 ((lib.atoi (String.ofList digits)).getD 0)
        venue := trimSpace venue
        instrument := trimSpace instrument }
    | _ => ⟨"", 0, trimSpace venue, trimSpace instrument⟩
  | _ => ⟨"", 0, "", ""⟩

/-- `resolveQuarantineSource`. -/
def resolveQuarantineSource (msg : RawMessage) (env : Envelope) : QuarantineSource :=
  let parsed := parseSubjectMeta lib msg.subject
  let msgID := trimSpace msg.msgID
  let payloadSHA := lib.hashBytes msg.data
  let originalID := fallbackOrDefault (trimSpace env.idempotencyKey) msgID
  { subject := trimSpace msg.subject
    msgID := msgID
    eventType := fallbackOrDefault (trimSpace env.type) parsed.eventType
    version := fallbackVersion env.version parsed.version
    venue := fallbackOrDefault (trimSpace env.venue) (fallbackOrDefault parsed.venue "UNKNOWN")
    instrument :=
      fallbackOrDefault (trimSpace env.instrument) (fallbackOrDefault parsed.instrument "UNKNOWN")
    contentType := normalizeOrDefaultContentType env.contentType
    idempotencyKey :=
      if originalID = "" then lib.hashFieldsFast [msg.subject, payloadSHA] else originalID
    payloadSHA256 := payloadSHA }

/-- The envelope that `buildQuarantineEnvelope` validates. -/
def quarantineEnvelope (msg : RawMessage) (env : Envelope) (reasonCode : String)
    (p : Option Problem) : Envelope :=
  let source := resolveQuarantineSource lib msg env
  let reason := normalizeIngestReason reasonCode
  let reason := if reason = "" then "VALIDATION_FAILED" else reason
  { type := "quarantine"
    version := 1
    venue := source.venue
    instrument := source.instrument
    tsExchange := env.tsExchange
    tsIngest := if 0 < env.tsIngest then env.tsIngest else 1
    seq := if 0 ≤ env.seq then env.seq else 0
    idempotencyKey := lib.hashFieldsFast ["quarantine", reason, source.subject, source.msgID,
      source.idempotencyKey, source.payloadSHA256]
    contentType := Envelope.contentTypeJSON
    metadata := ∅
    payload := lib.marshal ⟨reason, lib.problemText p, source⟩ }

/-- `buildQuarantineEnvelope`. -/
def buildQuarantineEnvelope (msg : RawMessage) (env : Envelope) (reasonCode : String)
    (p : Option Problem) : Except Problem Envelope :=
  match (quarantineEnvelope lib msg env reasonCode p).validate with
  | .error problem => .error problem
  | .ok out =>
    match validateSubjectTaxonomy (subjectFromEnvelope lib.isLetterOrDigit out) with
    -- the text of the problem follows that of the prefix
    | some err =>
      .error { err with
        format := "jetstream quarantine subject taxonomy invalid: VAL_VALIDATION_FAILED: " ++
          err.format }
    | none => .ok out

/-! ## The subject of the copy -/

/-- The subject for a venue and an instrument. -/
def quarantineSubject (venue instrument : String) : String :=
  "quarantine.v1." ++ venue ++ "." ++ instrument

section Copy

variable (msg : RawMessage) (env : Envelope)

/-- A missing name is replaced, at last by `UNKNOWN`. -/
theorem trimSpace_fallbackOrDefault_ne (value parsed : String) :
    trimSpace (fallbackOrDefault value (fallbackOrDefault parsed "UNKNOWN")) ≠ "" := by
  have hunknown : trimSpace "UNKNOWN" ≠ "" := by decide
  unfold fallbackOrDefault
  split_ifs <;> simp_all

theorem resolveQuarantineSource_named :
    trimSpace (resolveQuarantineSource lib msg env).venue ≠ "" ∧
      trimSpace (resolveQuarantineSource lib msg env).instrument ≠ "" := by
  unfold resolveQuarantineSource
  dsimp only
  exact ⟨trimSpace_fallbackOrDefault_ne _ _, trimSpace_fallbackOrDefault_ne _ _⟩

/-- An envelope whose fields pass the checks is valid. -/
theorem validate_eq_ok {e : Envelope}
    (hnames : ∀ name ∈ [e.type, e.venue, e.instrument, e.idempotencyKey], trimSpace name ≠ "")
    (hversion : 1 ≤ e.version) (hts : 0 < e.tsIngest) (hseq : 0 ≤ e.seq)
    (hcontent : e.contentType = Envelope.contentTypeJSON) (hpayload : e.payload ≠ []) :
    e.validate = .ok e := by
  have hjson : Envelope.normalizeContentType e.contentType = .ok e.contentType := by
    rw [hcontent]
    decide
  simp only [List.forall_mem_cons] at hnames
  obtain ⟨htype, hvenue, hinstrument, hkey, -⟩ := hnames
  unfold Envelope.validate
  rw [Validation.collect_eq_none.mpr, hjson]
  · exact if_neg hpayload
  · simp [Envelope.checkField, Envelope.checkInt, *]

/-- The envelope of the copy is valid. -/
theorem validate_quarantineEnvelope (reasonCode : String) (p : Option Problem) :
    (quarantineEnvelope lib msg env reasonCode p).validate =
      .ok (quarantineEnvelope lib msg env reasonCode p) := by
  obtain ⟨hvenue, hinstrument⟩ := resolveQuarantineSource_named lib msg env
  have htype : trimSpace "quarantine" ≠ "" := by decide
  unfold quarantineEnvelope
  -- what the source is does not matter any more
  generalize resolveQuarantineSource lib msg env = source at hvenue hinstrument ⊢
  refine validate_eq_ok ?_ le_rfl ?_ ?_ rfl (lib.marshal_ne _)
  · simp only [List.forall_mem_cons]
    exact ⟨htype, hvenue, hinstrument, lib.hashFieldsFast_ne _, fun _ h => nomatch h⟩
  · change 0 < if 0 < env.tsIngest then env.tsIngest else 1
    split_ifs <;> omega
  · change 0 ≤ if 0 ≤ env.seq then env.seq else 0
    split_ifs <;> omega

theorem subjectFromEnvelope_quarantineEnvelope (reasonCode : String) (p : Option Problem) :
    subjectFromEnvelope lib.isLetterOrDigit (quarantineEnvelope lib msg env reasonCode p) =
      quarantineSubject (subjectVenue (resolveQuarantineSource lib msg env).venue)
        (normalizeSubjectInstrument lib.isLetterOrDigit
          (resolveQuarantineSource lib msg env).instrument) := by
  have hstart : subjectEventType "quarantine" ++ ".v" ++ toString (1 : Int) ++ "." =
      "quarantine.v1." := by decide
  unfold quarantineEnvelope
  generalize resolveQuarantineSource lib msg env = source
  unfold subjectFromEnvelope quarantineSubject
  dsimp only
  rw [if_neg (by decide), ← hstart]

/-- The message is copied exactly if the subject of the copy is valid. -/
theorem quarantined_iff
    (lib : Library) (msg : RawMessage) (env : Envelope) (reasonCode : String) (p : Option Problem) :
    (∃ out, buildQuarantineEnvelope lib msg env reasonCode p = .ok out) ↔
      validateSubjectTaxonomy (quarantineSubject
        (subjectVenue (resolveQuarantineSource lib msg env).venue)
        (normalizeSubjectInstrument lib.isLetterOrDigit
          (resolveQuarantineSource lib msg env).instrument)) = none := by
  unfold buildQuarantineEnvelope
  rw [validate_quarantineEnvelope]
  dsimp only
  rw [subjectFromEnvelope_quarantineEnvelope]
  cases validateSubjectTaxonomy _ with
  | none => simp
  | some err => simp

end Copy

/-- Constant hashes and payloads, and the ASCII letters and digits. -/
def sampleLibrary : Library where
  hashBytes := fun _ => "00"
  hashFieldsFast := fun _ => "00"
  hashFieldsFast_ne := fun _ => by decide
  marshal := fun _ => [123, 125]
  marshal_ne := fun _ => by simp
  atoi := String.toInt?
  problemText := fun _ => ""
  isLetterOrDigit := Char.isAlphanum

/-- A message without an envelope whose subject names a venue with an at sign is not copied. -/
theorem not_quarantined_atSign :
    ¬ ∃ out, buildQuarantineEnvelope sampleLibrary
      ⟨"marketdata.trade.v1.binance@us.BTCUSDT", "", [120]⟩
      ⟨"", 0, "", "", 0, 0, 0, "", "", ∅, []⟩ "DECODE_FAILED" none = .ok out := by
  have hrefused : (buildQuarantineEnvelope sampleLibrary
      ⟨"marketdata.trade.v1.binance@us.BTCUSDT", "", [120]⟩
      ⟨"", 0, "", "", 0, 0, 0, "", "", ∅, []⟩ "DECODE_FAILED" none).isOk = false := by
    decide +kernel
  rintro ⟨out, hout⟩
  rw [hout] at hrefused
  cases hrefused

end Quarantine
end Adapters
end StreamAnalytics
