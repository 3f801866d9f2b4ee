import StreamAnalytics.Lib.Fnv
import StreamAnalytics.Lib.GoSplit
import StreamAnalytics.Shared.Envelope

/-!
# Subjects and shard groups

Model of `shard.go`, `subject_validation.go` and the subject of `publisher.go` in
`internal/adapters/jetstream`, and of `subject.go` in `internal/shared/envelope`.
Which runes are letters or digits is given by a parameter.

The group of a message is computed from its flat subject by splitting it from the right.
Whatever the event type, the version and the prefix are, the last two parts of the
subject come from the venue and the instrument (`endsWith_subjectFromEnvelopeWithPrefix`), so the groups agree.
The number of groups is cut to 32 bits before the division: if nothing is left of it,
the division by zero panics (`sharded_iff`).
-/

namespace StreamAnalytics
namespace Adapters
namespace ShardGroups

open GoStrings Unicode

/-! ## Subjects of envelopes -/

variable {venue instrument : List Char}

section Subjects

variable (isLetterOrDigit : Char → Bool)

/-- `isUpperAlphaNumeric`. -/
def isUpperAlphaNumeric (s : String) : Bool :=
  s.toList.all fun c => ('A' ≤ c && c ≤ 'Z') || ('0' ≤ c && c ≤ '9')

/-- `normalizeSubjectInstrument`. -/
def normalizeSubjectInstrument (instrument : String) : String :=
  let raw := toUpper (trimSpace instrument)
  if raw = "" then "UNKNOWN"
  else if isUpperAlphaNumeric raw then raw
  else
    let kept := String.ofList (raw.toList.filter isLetterOrDigit)
    if kept = "" then "UNKNOWN" else kept

/-- The event type in a subject. -/
def subjectEventType (type : String) : String :=
  if toLower (trimSpace type) = "" then "unknown" else toLower (trimSpace type)

/-- The venue in a subject. -/
def subjectVenue (venue : String) : String :=
  if toLower (trimSpace venue) = "" then "unknown" else toLower (trimSpace venue)

/-- `SubjectFromEnvelope`. -/
def subjectFromEnvelope (env : Envelope) : String :=
  let version := if env.version ≤ 0 then 1 else env.version
  subjectEventType env.type ++ ".v" ++ toString version ++ "." ++ subjectVenue env.venue ++ "." ++
    normalizeSubjectInstrument isLetterOrDigit env.instrument

/-- `strings.Trim` with a dot. -/
def trimDots (s : String) : String :=
  String.ofList ((s.toList.dropWhile (· = '.')).rdropWhile (· = '.'))

/-- The last two of some parts, joined by a dot. -/
def joinLastTwo (parts : List String) : String := ".".intercalate (parts.drop (parts.length - 2))

/-- `subjectFromEnvelopeWithPrefix`. -/
def subjectFromEnvelopeWithPrefix (env : Envelope) : String :=
  let base := subjectFromEnvelope isLetterOrDigit env
  let start := trimSpace (env.metadata.getD "subject_prefix" "")
  let parts := split base '.'
  if start = "" then base
  else if parts.length < 4 then base
  else if trimDots (trimSpace start) = "" then base
  else trimDots (trimSpace start) ++ "." ++ joinLastTwo parts

end Subjects

/-! ## The taxonomy -/

/-- The parts of a subject. -/
structure SubjectTaxonomy where
  event : String
  version : String
  venue : String
  instrument : String
deriving Repr, DecidableEq

/-- `splitSubjectTaxonomy`. -/
def splitSubjectTaxonomy (subject : String) : Except Problem SubjectTaxonomy :=
  let subject := trimSpace subject
  if subject = "" then
    .error (Problem.new .validationFailed "subject must not be empty")
  else if subject.toList.any (fun c => [' ', '\t', '\r', '\n', '*', '>'].contains c) then
    .error (Problem.newf .validationFailed "subject %q must be concrete and without spaces"
      [.str subject])
  else
    let tokens := split subject '.'
    let short := Problem.newf .validationFailed "subject %q must have at least 4 tokens"
      [.str subject]
    if tokens.length < 4 then .error short
    else if tokens.any (fun token => trimSpace token = "") then
      .error (Problem.newf .validationFailed "subject %q has empty token" [.str subject])
    else
      match tokens.reverse with
      | instrument :: venue :: version :: events =>
        .ok ⟨".".intercalate events.reverse, version, venue, instrument⟩
      | _ => .error short

/-- `allowedSubjectRoots`. -/
def allowedSubjectRoots : List String :=
  ["aggregation", "dataplane", "evidence", "execution", "insights", "liquidity", "marketdata",
    "portfolio", "quarantine", "signal", "strategy"]

/-- A rune of an event. -/
def isEventRune (c : Char) : Bool := ('a' ≤ c && c ≤ 'z') || ('0' ≤ c && c ≤ '9') || c = '_'

/-- A rune of a venue or of an instrument. -/
def isTokenRune (c : Char) : Bool :=
  ('A' ≤ c && c ≤ 'Z') || ('a' ≤ c && c ≤ 'z') || ('0' ≤ c && c ≤ '9') || c = '_' || c = '-'

/-- `subjectEventPattern`. -/
def matchesEvent (event : String) : Bool :=
  (split event '.').all fun token => token ≠ "" && token.toList.all isEventRune

/-- `subjectVersionPattern`. -/
def matchesVersion (version : String) : Bool :=
  match version.toList with
  | 'v' :: d :: ds => ('1' ≤ d && d ≤ '9') && ds.all fun d => '0' ≤ d && d ≤ '9'
  | _ => false

/-- `subjectTokenPattern`. -/
def matchesToken (token : String) : Bool := token ≠ "" && token.toList.all isTokenRune

/-- `ValidateSubjectTaxonomy`. -/
def validateSubjectTaxonomy (subject : String) : Option Problem :=
  match splitSubjectTaxonomy subject with
  | .error p => some p
  | .ok t =>
    let root := (split t.event '.').headD ""
    if !matchesEvent t.event then
      some (Problem.newf .validationFailed "subject event %q is invalid" [.str t.event])
    else if !matchesVersion t.version then
      some (Problem.newf .validationFailed "subject version %q must be v\x7bint\x7d"
        [.str t.version])
    else if !matchesToken t.venue then
      some (Problem.newf .validationFailed "subject venue %q is invalid" [.str t.venue])
    else if !matchesToken t.instrument then
      some (Problem.newf .validationFailed "subject instrument %q is invalid"
        [.str t.instrument])
    else if root ∉ allowedSubjectRoots then
      some (Problem.newf .validationFailed "subject root %q is not allowed" [.str root])
    else none

/-! ## Shards -/

/-- The key of a venue and an instrument. -/
def tokenKey (venue instrument : String) : UInt32 :=
  Fnv.sum32a (Fnv.bytes venue ++ [0] ++ Fnv.bytes instrument)

/-- `ShardKey`. -/
def shardKey (subject : String) : UInt32 :=
  match splitSubjectTaxonomy subject with
  | .error _ => Fnv.sum32a (Fnv.bytes subject)
  | .ok t => tokenKey t.venue t.instrument

/-- What stops the consumer. -/
inductive ShardPanic where
  | integerDivideByZero
deriving Repr, DecidableEq

/-- `ShardGroup`; the number of groups is converted to 32 bits. -/
def shardGroup (key : UInt32) (groupCount : Int) : Except ShardPanic Int :=
  if groupCount ≤ 1 then .ok 0
  else if groupCount % 4294967296 = 0 then .error .integerDivideByZero
  else .ok (key.toNat % (groupCount % 4294967296))

/-- `subjectBelongsToOtherShard`. -/
def subjectBelongsToOtherShard (subject : String) (groupCount myGroupID : Int) :
    Except ShardPanic Bool :=
  if groupCount ≤ 1 then .ok false
  else
    match shardGroup (shardKey subject) groupCount with
    | .error e => .error e
    | .ok group => .ok (group ≠ myGroupID)

/-- The consumer of a group processes the messages of a subject. -/
def Processes (subject : String) (groupCount myGroupID : Int) : Prop :=
  subjectBelongsToOtherShard subject groupCount myGroupID = .ok false

instance (subject : String) (groupCount myGroupID : Int) :
    Decidable (Processes subject groupCount myGroupID) :=
  inferInstanceAs (Decidable (_ = _))

/-! ## The last two parts of a subject -/

/-- Two texts without a dot end a subject. -/
structure EndsWith (runes venue instrument : List Char) : Prop where
  venue_dotless : '.' ∉ venue
  instrument_dotless : '.' ∉ instrument
  front : ∃ front, runes = front ++ '.' :: (venue ++ '.' :: instrument)

theorem EndsWith.partsOf {runes : List Char} (h : EndsWith runes venue instrument) :
    ∃ parts, GoStrings.partsOf '.' runes = parts ++ [venue, instrument] := by
  obtain ⟨front, rfl⟩ := h.front
  refine ⟨GoStrings.partsOf '.' front, ?_⟩
  rw [partsOf_append, partsOf_append, partsOf_of_not_mem h.venue_dotless, partsOf_of_not_mem h.instrument_dotless]
  rfl

/-- Trimming a subject trims its last part. -/
theorem EndsWith.trimRunes {runes : List Char} (h : EndsWith runes venue instrument) :
    EndsWith (GoStrings.trimRunes runes) venue (instrument.rdropWhile isSpace) := by
  obtain ⟨front, rfl⟩ := h.front
  have hdot : isSpace '.' = false := by decide
  refine ⟨h.venue_dotless, not_mem_rdropWhile h.instrument_dotless, front.dropWhile isSpace, ?_⟩
  rw [trimRunes_append hdot, rdropWhile_append hdot]

/-- Splitting a subject from the right finds the last two parts. -/
theorem EndsWith.shardKey {subject : String} (h : EndsWith subject.toList venue instrument)
    (hvalid : validateSubjectTaxonomy subject = none) :
    shardKey subject = tokenKey (String.ofList venue)
      (String.ofList (instrument.rdropWhile isSpace)) := by
  obtain ⟨parts, hparts⟩ := h.trimRunes.partsOf
  have htokens : (split (trimSpace subject) '.').reverse =
      String.ofList (instrument.rdropWhile isSpace) :: String.ofList venue ::
        (parts.map String.ofList).reverse := by
    rw [split_eq_partsOf, trimSpace, String.toList_ofList, hparts]
    simp
  unfold validateSubjectTaxonomy at hvalid
  unfold ShardGroups.shardKey
  cases hsplit : splitSubjectTaxonomy subject with
  | error p =>
    rw [hsplit] at hvalid
    cases hvalid
  | ok t =>
    unfold splitSubjectTaxonomy at hsplit
    dsimp only at hsplit
    rw [htokens] at hsplit
    split_ifs at hsplit
    cases hmap : (parts.map String.ofList).reverse with
    | nil =>
      rw [hmap] at hsplit
      cases hsplit
    | cons version events =>
      rw [hmap] at hsplit
      cases hsplit
      rfl

/-- The venue and the instrument determine the last two parts of what they end. -/
theorem exists_lastTwo (venue instrument : List Char) :
    ∃ venue' instrument', ∀ head,
      EndsWith (head ++ '.' :: (venue ++ '.' :: instrument)) venue' instrument' := by
  obtain ⟨front, instrument', hfront, hinstrument⟩ :=
    exists_last_part (show '.' ∈ venue ++ '.' :: instrument by simp)
  obtain ⟨front', venue', hfront', hvenue⟩ :=
    exists_last_part (show '.' ∈ '.' :: front from List.mem_cons_self)
  refine ⟨venue', instrument', fun head => ⟨hvenue, hinstrument, head ++ front', ?_⟩⟩
  rw [hfront, ← List.cons_append, hfront']
  simp

section Envelopes

variable {isLetterOrDigit : Char → Bool}

theorem endsWith_subjectFromEnvelope {venue' instrument' : List Char} {env : Envelope}
    (hvenue : (subjectVenue env.venue).toList = venue)
    (hinstrument : (normalizeSubjectInstrument isLetterOrDigit env.instrument).toList = instrument)
    (hends : ∀ head, EndsWith (head ++ '.' :: (venue ++ '.' :: instrument)) venue' instrument') :
    EndsWith (subjectFromEnvelope isLetterOrDigit env).toList venue' instrument' := by
  have h := hends ((subjectEventType env.type ++ ".v" ++
    toString (if env.version ≤ 0 then 1 else env.version)).toList)
  rw [← hvenue, ← hinstrument] at h
  unfold subjectFromEnvelope
  simpa using h

theorem endsWith_subjectFromEnvelopeWithPrefix {venue' instrument' : List Char} {env : Envelope}
    (hvenue : (subjectVenue env.venue).toList = venue)
    (hinstrument : (normalizeSubjectInstrument isLetterOrDigit env.instrument).toList = instrument)
    (hends : ∀ head, EndsWith (head ++ '.' :: (venue ++ '.' :: instrument)) venue' instrument') :
    EndsWith (subjectFromEnvelopeWithPrefix isLetterOrDigit env).toList venue' instrument' := by
  have hbase := endsWith_subjectFromEnvelope hvenue hinstrument hends
  unfold subjectFromEnvelopeWithPrefix
  dsimp only
  split_ifs
  · exact hbase
  · exact hbase
  · exact hbase
  · obtain ⟨parts, hparts⟩ := hbase.partsOf
    have hjoin : (joinLastTwo (split (subjectFromEnvelope isLetterOrDigit env) '.')).toList =
        venue' ++ '.' :: instrument' := by
      rw [split_eq_partsOf, hparts]
      simp [joinLastTwo]
    refine ⟨hbase.venue_dotless, hbase.instrument_dotless,
      (trimDots (trimSpace (trimSpace (env.metadata.getD "subject_prefix" "")))).toList, ?_⟩
    simp [hjoin]

end Envelopes

/-! ## Groups -/

section Groups

/-- A group is found unless the number of groups is cut to 0. -/
theorem existsUnique_processes_iff (subject : String) {groupCount : Int} (hcount : 1 ≤ groupCount) :
    (∃! g, (0 ≤ g ∧ g < groupCount) ∧ Processes subject groupCount g) ↔
      groupCount % 4294967296 ≠ 0 := by
  unfold Processes subjectBelongsToOtherShard shardGroup
  by_cases hone : groupCount ≤ 1
  · obtain rfl : groupCount = 1 := by omega
    simp only [le_refl, if_true, and_true]
    refine ⟨fun _ => by decide, fun _ => ⟨0, by decide, fun g hg => ?_⟩⟩
    omega
  · simp only [if_neg hone]
    by_cases hzero : groupCount % 4294967296 = 0
    · simp [hzero]
    · simp only [ne_eq, hzero, not_false_eq_true, iff_true]
      refine ⟨(shardKey subject).toNat % (groupCount % 4294967296), ⟨⟨?_, ?_⟩, by simp⟩,
        fun g hg => ?_⟩
      · exact Int.emod_nonneg _ hzero
      · have hlt := Int.emod_lt_of_pos (shardKey subject).toNat
          (show 0 < groupCount % 4294967296 by omega)
        have hle : groupCount % 4294967296 ≤ groupCount := by omega
        omega
      · have hgroup : (shardKey subject).toNat % (groupCount % 4294967296) = g := by
          simpa using hg.2
        exact hgroup.symm

variable (isLetterOrDigit : Char → Bool)

/-- Envelopes with one venue and one instrument have one shard key. -/
theorem shardKey_congr {env env' : Envelope}
    (hvalid : validateSubjectTaxonomy (subjectFromEnvelopeWithPrefix isLetterOrDigit env) = none)
    (hvalid' : validateSubjectTaxonomy (subjectFromEnvelopeWithPrefix isLetterOrDigit env') = none)
    (hvenue : subjectVenue env'.venue = subjectVenue env.venue)
    (hinstrument : normalizeSubjectInstrument isLetterOrDigit env'.instrument =
      normalizeSubjectInstrument isLetterOrDigit env.instrument) :
    shardKey (subjectFromEnvelopeWithPrefix isLetterOrDigit env') =
      shardKey (subjectFromEnvelopeWithPrefix isLetterOrDigit env) := by
  obtain ⟨venue, instrument, hends⟩ := exists_lastTwo (subjectVenue env.venue).toList
    (normalizeSubjectInstrument isLetterOrDigit env.instrument).toList
  have h := endsWith_subjectFromEnvelopeWithPrefix rfl rfl hends
  have h' := endsWith_subjectFromEnvelopeWithPrefix (congrArg String.toList hvenue)
    (congrArg String.toList hinstrument) hends
  rw [h.shardKey hvalid, h'.shardKey hvalid']

/-- One group processes an envelope with a valid subject, and it is the group of all
envelopes with its venue and its instrument, unless the number of groups is a multiple
of `2 ^ 32`. -/
theorem sharded_iff (env : Envelope) (groupCount : Int) (hcount : 1 ≤ groupCount)
    (hvalid : validateSubjectTaxonomy (subjectFromEnvelopeWithPrefix isLetterOrDigit env) = none) :
    ((∃! g : Int, (0 ≤ g ∧ g < groupCount) ∧
        Processes (subjectFromEnvelopeWithPrefix isLetterOrDigit env) groupCount g) ∧
      ∀ env' : Envelope,
        validateSubjectTaxonomy (subjectFromEnvelopeWithPrefix isLetterOrDigit env') = none →
        subjectVenue env'.venue = subjectVenue env.venue →
        normalizeSubjectInstrument isLetterOrDigit env'.instrument =
          normalizeSubjectInstrument isLetterOrDigit env.instrument →
        ∀ g : Int,
          Processes (subjectFromEnvelopeWithPrefix isLetterOrDigit env') groupCount g ↔
            Processes (subjectFromEnvelopeWithPrefix isLetterOrDigit env) groupCount g) ↔
      groupCount % 4294967296 ≠ 0 := by
  rw [existsUnique_processes_iff _ hcount]
  refine and_iff_left fun env' hvalid' hvenue hinstrument g => ?_
  unfold Processes subjectBelongsToOtherShard
  rw [shardKey_congr isLetterOrDigit hvalid hvalid' hvenue hinstrument]

/-- A trade on Binance. -/
def btcTrade : Envelope :=
  ⟨"marketdata.trade", 1, "BINANCE", "BTC-USDT", 1, 1, 1, "k", "application/json",
    (∅ : GoMap String String).insert "subject_prefix" "insights.trade.v2", []⟩

/-- Group 1 of three processes it. -/
theorem sharded_btcTrade :
    (1 : Int) ≤ 3 ∧
      validateSubjectTaxonomy (subjectFromEnvelopeWithPrefix Char.isAlphanum btcTrade) = none ∧
      (∃! g : Int, (0 ≤ g ∧ g < 3) ∧
        Processes (subjectFromEnvelopeWithPrefix Char.isAlphanum btcTrade) 3 g) := by
  have hvalid :
      validateSubjectTaxonomy (subjectFromEnvelopeWithPrefix Char.isAlphanum btcTrade) = none := by
    decide +kernel
  exact ⟨by decide, hvalid,
    ((sharded_iff Char.isAlphanum btcTrade 3 (by decide) hvalid).mpr (by decide)).1⟩

/-- None of `2 ^ 32` groups does: the number of groups is cut to 0. -/
theorem not_processes_btcTrade :
    validateSubjectTaxonomy (subjectFromEnvelopeWithPrefix Char.isAlphanum btcTrade) = none ∧
      ∀ g : Int,
        ¬ Processes (subjectFromEnvelopeWithPrefix Char.isAlphanum btcTrade) 4294967296 g := by
  refine ⟨by decide +kernel, fun g hg => ?_⟩
  unfold Processes subjectBelongsToOtherShard shardGroup at hg
  simp at hg

end Groups

end ShardGroups
end Adapters
end StreamAnalytics
