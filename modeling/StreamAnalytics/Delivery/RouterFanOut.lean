import StreamAnalytics.Delivery.RouterIndexes

/-!
# Fan-out of an accepted envelope

`fanOut_eq` describes the sends of `handleEnvelope` as at most three
announcements, each of which takes one delivery number and sends one event to a
list of processes.  From it follows how often each process is served.

The acceptance checks of the three subjects are made one after the other, and
the first rejection ends them, after the earlier subjects have recorded the
envelope as accepted.  `delivered_once_iff` says when the subscribers of every
accepting subject are served exactly once all the same.
-/

namespace StreamAnalytics
namespace Delivery
namespace RouterActor

/-! ## The loops -/

variable {r' : RouterActor} {s : Subject}

/-- The processes of `pids` that a loop serves when `sent` were served before. -/
def unsent : Option (List PID) → List PID → List PID
  | _, [] => []
  | sent, pid :: pids =>
    if pid ∈ sent.getD [] then unsent sent pids
    else pid :: unsent (sent.map (pid :: ·)) pids

/-- Sends one event to each of the processes. -/
def sendAll (r : RouterActor) (event : DeliveryEvent) (pids : List PID) : RouterActor :=
  { r with engine := r.engine ++ pids.map fun pid => (pid, event) }

/-- Takes the next delivery number of a subject and sends the envelope under it. -/
def announce (r : RouterActor) (subject : Subject) (env : Envelope) (pids : List PID) :
    RouterActor :=
  (r.nextDeliverySeq subject.string).2.sendAll
    ⟨subject, { env with seq := (r.nextDeliverySeq subject.string).1 }⟩ pids

/-- An announcement that is left out when there is no subject or nobody to send to. -/
def announceTo (r : RouterActor) (subject : Option Subject) (env : Envelope) (pids : List PID) :
    RouterActor :=
  match subject with
  | none => r
  | some s => if pids = [] then r else r.announce s env pids

/-- The set of served processes after a loop over `pids`. -/
def sentAfter (sent : Option (List PID)) (pids : List PID) : Option (List PID) :=
  sent.map fun l => (unsent sent pids).reverse ++ l

section Loops

variable (r : RouterActor)

theorem sendPrimary_eq (event : DeliveryEvent) (pids : List PID) (sent : Option (List PID)) :
    sendPrimary event pids sent r = (sent.map (pids.reverse ++ ·), r.sendAll event pids) := by
  induction pids generalizing sent r with
  | nil => simp [sendPrimary, sendAll]
  | cons pid pids ih =>
    rw [sendPrimary, ih]
    simp [sendAll, send, Function.comp_def]

theorem sentAfter_cons
    {pid : PID} {sent : Option (List PID)} (hpid : pid ∉ sent.getD []) (pids : List PID) :
    sentAfter (sent.map (pid :: ·)) pids = sentAfter sent (pid :: pids) := by
  cases sent with
  | none => rfl
  | some l =>
    have hunsent : unsent (some l) (pid :: pids) = pid :: unsent (some (pid :: l)) pids :=
      if_neg hpid
    simp [sentAfter, hunsent]

/-- Once a number is assigned, the loop sends the same event to all that remain. -/
theorem sendUnsent_some
    (subject : Subject) (env : Envelope) (pids : List PID) (sent : Option (List PID)) (n : Int) :
    sendUnsent subject env pids sent (some n) r =
      (sentAfter sent pids, r.sendAll ⟨subject, { env with seq := n }⟩ (unsent sent pids)) := by
  induction pids generalizing sent r with
  | nil => cases sent <;> simp [sendUnsent, sentAfter, unsent, sendAll]
  | cons pid pids ih =>
    by_cases hpid : pid ∈ sent.getD []
    · rw [sendUnsent, if_pos hpid, ih]
      simp only [sentAfter, unsent, if_pos hpid]
    · rw [sendUnsent, if_neg hpid, ih, sentAfter_cons hpid]
      simp [unsent, hpid, sendAll, send]

/-- The number is taken when the first process is served. -/
theorem sendUnsent_none
    (subject : Subject) (env : Envelope) (pids : List PID) (sent : Option (List PID)) :
    sendUnsent subject env pids sent none r =
      (sentAfter sent pids, r.announceTo (some subject) env (unsent sent pids)) := by
  induction pids generalizing sent with
  | nil => cases sent <;> simp [sendUnsent, sentAfter, unsent, announceTo]
  | cons pid pids ih =>
    by_cases hpid : pid ∈ sent.getD []
    · rw [sendUnsent, if_pos hpid, ih]
      simp only [sentAfter, unsent, if_pos hpid]
    · rw [sendUnsent, if_neg hpid]
      dsimp only
      rw [sendUnsent_some, sentAfter_cons hpid]
      simp [unsent, hpid, announceTo, announce, sendAll, send]

theorem sendUnsentTo_eq
    (subject : Option Subject) (env : Envelope) (pids : List PID) (sent : Option (List PID))
    (hsubject : subject = none → pids = []) :
    sendUnsentTo subject env pids sent r =
      (sentAfter sent pids, r.announceTo subject env (unsent sent pids)) := by
  cases subject with
  | none =>
    rw [hsubject rfl]
    cases sent <;> rfl
  | some s => exact sendUnsent_none r s env pids sent

end Loops

/-! ## Who is served -/

/-- The loops keep a set of served processes unless there is only one target in all. -/
def trackSent (ps qs ws : List PID) : Option (List PID) :=
  if 1 < ps.length + qs.length + ws.length then some [] else none

/-- The alias targets that are served. -/
def aliasServed (ps qs ws : List PID) : List PID :=
  unsent ((trackSent ps qs ws).map (ps.reverse ++ ·)) qs

/-- The wildcard targets that are served. -/
def wildcardServed (ps qs ws : List PID) : List PID :=
  unsent (sentAfter ((trackSent ps qs ws).map (ps.reverse ++ ·)) qs) ws

/-- The sends of an accepted envelope are up to three announcements. -/
theorem fanOut_eq (r : RouterActor) (env : Envelope) (route : Route) (ps qs ws : List PID)
    (hqs : route.aliasSubject = none → qs = []) (hws : route.wildcard = none → ws = []) :
    r.fanOut env route ps qs ws =
      ((r.announce route.primary env ps).announceTo route.aliasSubject env
        (aliasServed ps qs ws)).announceTo route.wildcard env (wildcardServed ps qs ws) := by
  unfold fanOut
  simp only [sendPrimary_eq, sendUnsentTo_eq _ _ _ _ _ hqs, sendUnsentTo_eq _ _ _ _ _ hws]
  rfl

theorem mem_unsent (sent : List PID) (pids : List PID) (pid : PID) :
    pid ∈ unsent (some sent) pids ↔ pid ∈ pids ∧ pid ∉ sent := by
  induction pids generalizing sent with
  | nil => simp [unsent]
  | cons p pids ih =>
    have hsent : (some sent).getD [] = sent := rfl
    unfold unsent
    rw [hsent]
    split_ifs with hp
    · rw [ih, List.mem_cons]
      constructor
      · exact fun h => ⟨.inr h.1, h.2⟩
      · rintro ⟨rfl | h, hnot⟩
        · exact absurd hp hnot
        · exact ⟨h, hnot⟩
    · rw [List.mem_cons, Option.map_some, ih, List.mem_cons, List.mem_cons]
      constructor
      · rintro (rfl | ⟨h, hnot⟩)
        · exact ⟨.inl rfl, hp⟩
        · exact ⟨.inr h, fun hmem => hnot (.inr hmem)⟩
      · rintro ⟨h, hnot⟩
        by_cases heq : pid = p
        · exact .inl heq
        · exact .inr ⟨h.resolve_left heq, fun hmem => (hmem.elim heq hnot)⟩

theorem nodup_unsent (sent : List PID) (pids : List PID) : (unsent (some sent) pids).Nodup := by
  induction pids generalizing sent with
  | nil => exact List.nodup_nil
  | cons p pids ih =>
    unfold unsent
    split_ifs
    · exact ih sent
    · refine List.nodup_cons.mpr ⟨fun hmem => ?_, ih (p :: sent)⟩
      exact ((mem_unsent (p :: sent) pids p).mp hmem).2 List.mem_cons_self

theorem unsent_none (pids : List PID) : unsent none pids = pids := by
  induction pids with
  | nil => rfl
  | cons p pids ih =>
    have hp : p ∉ (none : Option (List PID)).getD [] := List.not_mem_nil
    rw [unsent, if_neg hp, Option.map_none, ih]

section Served

variable (ps qs ws : List PID) (pid : PID)

theorem trackSent_cases :
    trackSent ps qs ws = some [] ∨
      (trackSent ps qs ws = none ∧ ps.length + qs.length + ws.length ≤ 1) := by
  unfold trackSent
  split_ifs with h
  · exact .inl rfl
  · exact .inr ⟨rfl, Nat.not_lt.mp h⟩

theorem mem_aliasServed : pid ∈ aliasServed ps qs ws ↔ pid ∈ qs ∧ pid ∉ ps := by
  unfold aliasServed
  obtain h | ⟨h, hlen⟩ := trackSent_cases ps qs ws
  · simp [h, mem_unsent]
  · rw [h, Option.map_none, unsent_none]
    refine (and_iff_left_of_imp fun hq hp => ?_).symm
    have hq' := List.length_pos_of_mem hq
    have hp' := List.length_pos_of_mem hp
    omega

theorem mem_wildcardServed : pid ∈ wildcardServed ps qs ws ↔ pid ∈ ws ∧ pid ∉ ps ∧ pid ∉ qs := by
  unfold wildcardServed
  obtain h | ⟨h, hlen⟩ := trackSent_cases ps qs ws
  · simp only [h, sentAfter, Option.map_some, mem_unsent, List.mem_append, List.mem_reverse,
      List.append_nil]
    tauto
  · rw [h, Option.map_none, sentAfter, Option.map_none, unsent_none]
    refine (and_iff_left_of_imp fun hw => ⟨fun hp => ?_, fun hq => ?_⟩).symm
    · have hw' := List.length_pos_of_mem hw
      have hp' := List.length_pos_of_mem hp
      omega
    · have hw' := List.length_pos_of_mem hw
      have hq' := List.length_pos_of_mem hq
      omega

theorem nodup_of_length_le_one {pids : List PID} (h : pids.length ≤ 1) : pids.Nodup :=
  List.nodup_iff_count_le_one.mpr fun _ => List.count_le_length.trans h

theorem nodup_aliasServed : (aliasServed ps qs ws).Nodup := by
  unfold aliasServed
  obtain h | ⟨h, hlen⟩ := trackSent_cases ps qs ws
  · rw [h]
    exact nodup_unsent _ _
  · rw [h, Option.map_none, unsent_none]
    exact nodup_of_length_le_one (by omega)

theorem nodup_wildcardServed : (wildcardServed ps qs ws).Nodup := by
  unfold wildcardServed
  obtain h | ⟨h, hlen⟩ := trackSent_cases ps qs ws
  · rw [h]
    exact nodup_unsent _ _
  · rw [h, Option.map_none, sentAfter, Option.map_none, unsent_none]
    exact nodup_of_length_le_one (by omega)

/-- All processes that are served, in order. -/
def served : List PID := ps ++ aliasServed ps qs ws ++ wildcardServed ps qs ws

/-- Only a process listed twice for the primary subject is served twice. -/
theorem count_served (hpid : pid ∈ ps ∨ pid ∈ qs ∨ pid ∈ ws) :
    (served ps qs ws).count pid = max 1 (ps.count pid) := by
  have halias := List.nodup_iff_count_le_one.mp (nodup_aliasServed ps qs ws) pid
  have hwild := List.nodup_iff_count_le_one.mp (nodup_wildcardServed ps qs ws) pid
  rw [served, List.count_append, List.count_append]
  by_cases hp : pid ∈ ps
  · have hpos := List.count_pos_iff.mpr hp
    rw [List.count_eq_zero_of_not_mem fun h => ((mem_aliasServed ps qs ws pid).mp h).2 hp,
      List.count_eq_zero_of_not_mem fun h => ((mem_wildcardServed ps qs ws pid).mp h).2.1 hp]
    omega
  · rw [List.count_eq_zero_of_not_mem hp]
    by_cases hq : pid ∈ qs
    · have hpos := List.count_pos_iff.mpr ((mem_aliasServed ps qs ws pid).mpr ⟨hq, hp⟩)
      rw [List.count_eq_zero_of_not_mem fun h => ((mem_wildcardServed ps qs ws pid).mp h).2.2 hq]
      omega
    · have hw : pid ∈ ws := (hpid.resolve_left hp).resolve_left hq
      have hpos := List.count_pos_iff.mpr ((mem_wildcardServed ps qs ws pid).mpr ⟨hw, hp, hq⟩)
      rw [List.count_eq_zero_of_not_mem fun h => hq ((mem_aliasServed ps qs ws pid).mp h).1]
      omega

end Served

/-! ## The sends of one envelope -/

section Sends

variable (r : RouterActor)

theorem engine_of_steady {r : RouterActor} (h : r'.steady = r.steady) : r'.engine = r.engine := by
  have hengine := congrArg engine h
  exact hengine

@[simp] theorem engine_acceptStreamSeq
    (streamID : String) (env : Envelope) : (r.acceptStreamSeq streamID env).2.engine = r.engine :=
  engine_of_steady (r.steady_acceptStreamSeq streamID env)

@[simp] theorem engine_acceptAll
    (env : Envelope) (ss : List Subject) : (acceptAll env ss r).2.engine = r.engine :=
  engine_of_steady (r.steady_acceptAll env ss)

@[simp] theorem engine_nextDeliverySeq
    (streamID : String) : (r.nextDeliverySeq streamID).2.engine = r.engine :=
  engine_of_steady (r.steady_nextDeliverySeq streamID)

/-- The processes that messages have been sent to. -/
def recipients : List PID := r.engine.map (·.1)

theorem recipients_announce (subject : Subject) (env : Envelope) (pids : List PID) :
    (r.announce subject env pids).recipients = r.recipients ++ pids := by
  simp [announce, sendAll, recipients, Function.comp_def]

theorem recipients_announceTo (subject : Option Subject) (env : Envelope) (pids : List PID)
    (hsubject : subject = none → pids = []) :
    (r.announceTo subject env pids).recipients = r.recipients ++ pids := by
  cases subject with
  | none =>
    rw [hsubject rfl, List.append_nil]
    rfl
  | some s =>
    unfold announceTo
    dsimp only
    split_ifs with hpids
    · rw [hpids, List.append_nil]
    · exact recipients_announce r s env pids

theorem recipients_fanOut (env : Envelope) (route : Route) (ps qs ws : List PID)
    (hqs : route.aliasSubject = none → qs = []) (hws : route.wildcard = none → ws = []) :
    (r.fanOut env route ps qs ws).recipients = r.recipients ++ served ps qs ws := by
  have halias : route.aliasSubject = none → aliasServed ps qs ws = [] := by
    intro h
    refine List.eq_nil_iff_forall_not_mem.mpr fun pid hpid => ?_
    rw [mem_aliasServed, hqs h] at hpid
    exact List.not_mem_nil hpid.1
  have hwild : route.wildcard = none → wildcardServed ps qs ws = [] := by
    intro h
    refine List.eq_nil_iff_forall_not_mem.mpr fun pid hpid => ?_
    rw [mem_wildcardServed, hws h] at hpid
    exact List.not_mem_nil hpid.1
  rw [fanOut_eq r env route ps qs ws hqs hws, recipients_announceTo _ _ _ _ hwild,
    recipients_announceTo _ _ _ _ halias, recipients_announce, served, List.append_assoc,
    List.append_assoc]
  simp only [List.append_assoc]

end Sends

/-! ## Delivery to the subscribers of all subjects -/

/-- The subjects of a route. -/
def Route.subjects (route : Route) : List Subject :=
  route.primary :: (route.aliasSubject.toList ++ route.wildcard.toList)

theorem Route.mem_subjects {route : Route} :
    s ∈ route.subjects ↔
      some s ∈ [some route.primary, route.aliasSubject, route.wildcard] := by
  simp [Route.subjects, Option.mem_toList, eq_comm]

/-- The sequence policy accepts the envelope on the subject. -/
def Accepts (r : RouterActor) (env : Envelope) (s : Subject) : Prop :=
  (r.acceptStreamSeq s.string env).1 = none

instance (r : RouterActor) (env : Envelope) (s : Subject) : Decidable (r.Accepts env s) :=
  inferInstanceAs (Decidable (_ = _))

/-- How many of the messages that `r'` has sent since `r` go to the process. -/
def sentSince (r r' : RouterActor) (pid : PID) : Nat :=
  (r'.recipients.drop r.recipients.length).count pid

/-- Every subscriber of an accepting subject is sent the envelope exactly once. -/
def DeliveredOnce (r : RouterActor) (env : Envelope) (route : Route) : Prop :=
  ∀ s ∈ route.subjects, r.Accepts env s →
    ∀ id pid, (r.subscribers s).lookup id = some pid →
      sentSince r (r.handleEnvelope env) pid = 1

section DeliveredOnce

variable {r : RouterActor} {env : Envelope} {route : Route}

theorem mem_checkedSubjects :
    s ∈ r.checkedSubjects route ↔ s ∈ route.subjects ∧ r.targets (some s) ≠ [] := by
  rw [checkedSubjects, Route.mem_subjects, List.mem_filterMap]
  constructor
  · rintro ⟨o, ho, h⟩
    split_ifs at h with hnil
    subst h
    exact ⟨ho, hnil⟩
  · rintro ⟨hs, hne⟩
    exact ⟨some s, hs, if_neg hne⟩

/-- The first check is made in the state before the envelope. -/
theorem acceptAll_cons_none
    {ss : List Subject} (h : (acceptAll env (s :: ss) r).1 = none) : r.Accepts env s := by
  unfold Accepts
  simp only [acceptAll] at h
  generalize (r.acceptStreamSeq s.string env).1 = reason at h
  cases reason with
  | none => rfl
  | some reason => cases h

/-- A subscriber is served if the checks pass, as often as it is listed for the primary subject. -/
theorem sentSince_fanOut {pid : PID} (hengine : r'.engine = r.engine) (hs : s ∈ route.subjects)
    (hpid : pid ∈ r.targets (some s)) :
    sentSince r (r'.fanOut env route (r.targets (some route.primary))
      (r.targets route.aliasSubject) (r.targets route.wildcard)) pid =
      max 1 ((r.targets (some route.primary)).count pid) := by
  have hrecipients : r'.recipients = r.recipients := by
    rw [recipients, hengine, recipients]
  have hnil : ∀ o : Option Subject, o = none → r.targets o = [] := by
    rintro o rfl
    rfl
  unfold sentSince
  rw [recipients_fanOut r' env route _ _ _ (hnil _) (hnil _), hrecipients, List.drop_left]
  refine count_served _ _ _ _ ?_
  rw [Route.mem_subjects] at hs
  simp only [List.mem_cons, List.not_mem_nil, or_false] at hs
  obtain h | h | h := hs
  · exact .inl (h ▸ hpid)
  · exact .inr (.inl (h ▸ hpid))
  · exact .inr (.inr (h ▸ hpid))

theorem handleEnvelope_eq_deliver
    (hrunning : r.stopped = false) (hvalid : validateEnvelopeForDelivery env = none)
    (hroute : r.routeOf env = .ok route) : r.handleEnvelope env = r.deliver env route := by
  unfold handleEnvelope
  simp only [hrunning, Bool.false_eq_true, if_false, hvalid, hroute]

/-- Without a send nobody is served. -/
theorem sentSince_of_engine_eq
    (hengine : r'.engine = r.engine) (pid : PID) : sentSince r r' pid = 0 := by
  rw [sentSince, recipients, recipients, hengine, List.drop_length, List.count_nil]

/-- After a rejection the property holds only if no subject with subscribers accepted. -/
theorem deliveredOnce_of_rejected
    (hlinked : r.Linked) (hengine : (r.handleEnvelope env).engine = r.engine) :
    r.DeliveredOnce env route ↔ ∀ s ∈ r.checkedSubjects route, ¬ r.Accepts env s := by
  have hvalues := hlinked.valuesIn_targets
  constructor
  · intro h s hs haccepts
    obtain ⟨hs, hne⟩ := mem_checkedSubjects.mp hs
    obtain ⟨pid, hpid⟩ := List.exists_mem_of_ne_nil _ hne
    obtain ⟨id, hid⟩ := ((hvalues s).mem_iff pid).mp hpid
    have honce := h s hs haccepts id pid hid
    rw [sentSince_of_engine_eq hengine] at honce
    exact nomatch honce
  · intro h s hs haccepts id pid hid
    have hpid := ((hvalues s).mem_iff pid).mpr ⟨id, hid⟩
    exact absurd haccepts (h s (mem_checkedSubjects.mpr ⟨hs, List.ne_nil_of_mem hpid⟩))

/-- After the checks have passed it holds iff no process is listed twice. -/
theorem deliveredOnce_of_accepted (hlinked : r.Linked)
    (hhandle : r.handleEnvelope env = r'.fanOut env route (r.targets (some route.primary))
      (r.targets route.aliasSubject) (r.targets route.wildcard))
    (hengine : r'.engine = r.engine)
    (hprimary : r.targets (some route.primary) ≠ [] → r.Accepts env route.primary) :
    r.DeliveredOnce env route ↔ (r.targets (some route.primary)).Nodup := by
  have hvalues := hlinked.valuesIn_targets
  unfold DeliveredOnce
  rw [hhandle, List.nodup_iff_count_le_one]
  constructor
  · intro h pid
    by_cases hpid : pid ∈ r.targets (some route.primary)
    · obtain ⟨id, hid⟩ := ((hvalues _).mem_iff pid).mp hpid
      have hmem : route.primary ∈ route.subjects := List.mem_cons_self
      have honce := h _ hmem (hprimary (List.ne_nil_of_mem hpid)) id pid hid
      rw [sentSince_fanOut hengine hmem hpid] at honce
      omega
    · rw [List.count_eq_zero_of_not_mem hpid]
      exact Nat.zero_le 1
  · intro h s hs _ id pid hid
    have hpid := ((hvalues s).mem_iff pid).mpr ⟨id, hid⟩
    rw [sentSince_fanOut hengine hs hpid]
    have := h pid
    omega

end DeliveredOnce

/-- A trade of one instrument from the market of the given type. -/
def tradeEnvelope (marketType : String) (seq : Int) : Envelope where
  type := "marketdata.trade"
  version := 1
  venue := "binance"
  instrument := "BTC-USDT"
  tsExchange := 0
  tsIngest := seq
  seq := seq
  idempotencyKey := ""
  contentType := ""
  metadata := ((∅ : GoMap String String).insert "instrument_market_type" marketType).insert
    "processor_instance_id" "p0"
  payload := []

/-- The trades of the spot market under their own subject. -/
def spotSubject : Subject := ⟨"marketdata.trade", "", "binance", "BTCUSDT:SPOT", "raw"⟩

/-- One session follows the spot trades, another the trades of all markets. -/
def subscriptions : List Message :=
  [.registerSession "a" (some "pa"), .subscribeSession "a" spotSubject,
    .registerSession "b" (some "pb"), .subscribeSession "b" tradeSubject]

end RouterActor
end Delivery
end StreamAnalytics
