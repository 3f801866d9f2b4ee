import StreamAnalytics.Lib.Runs
import StreamAnalytics.Delivery.Router

/-!
# The router's indexes

`Linked` is what every run keeps: the two entries of a subject belong together,
`sessionSubjects` and `subjectSessions` are the two directions of one relation,
and only registered sessions take part in it.

The process identifiers in the indexes are current only as long as sessions do
not change theirs while subscribed and do not share one.  `RegistersSoundly` is
this condition on a registration, and `indexes_agree_iff` shows that it is
exactly what a run has to meet for all indexes to agree at all times.
-/

namespace StreamAnalytics
namespace Delivery
namespace RouterActor

open Runs GoMap AList

/-- `r.subjectSessions[s]`, empty if there is no entry. -/
def subscribers (r : RouterActor) (s : Subject) : GoMap SessionID PID := r.subjectSessions.getD s ∅

/-- `r.sessionSubjects[id]`, empty if there is no entry. -/
def subjectsOf (r : RouterActor) (id : SessionID) : GoMap Subject Unit :=
  r.sessionSubjects.getD id ∅

/-- The entries of one subject in `subjectSessions` and `subjectPIDs` belong together. -/
inductive SubjectEntry : Option (GoMap SessionID PID) → Option (List PID) → Prop where
  | absent : SubjectEntry none none
  | present
      {inner : GoMap SessionID PID} {pids : List PID}
      (nonempty : inner.size ≠ 0)
      (listed : inner.ValuesIn pids) :
      SubjectEntry (some inner) (some pids)

/-- The relations between the indexes that hold in every run. -/
structure Linked (r : RouterActor) : Prop where
  entries : ∀ s, SubjectEntry (r.subjectSessions.lookup s) (r.subjectPIDs.lookup s)
  mem_iff : ∀ s id, s ∈ r.subjectsOf id ↔ id ∈ r.subscribers s
  registered : ∀ s id, id ∈ r.subscribers s → id ∈ r.sessions
  bounded : 0 < r.cfg.maxActiveSessions → (r.sessions.size : Int) ≤ r.cfg.maxActiveSessions

theorem linked_create
    (cfg : RouterConfig) (selfPID : PID) (clock : Nat → Nat) (order : Nat → List String) :
    Linked (create cfg selfPID clock order) where
  entries := fun _ => .absent
  mem_iff := by
    simp [subjectsOf, subscribers, create, GoMap.getD]
  registered := by
    simp [subscribers, create, GoMap.getD]
  bounded := by
    intro h
    exact Int.le_of_lt h

/-- The targets of a subject are the processes recorded for its subscribers. -/
theorem Linked.valuesIn_targets {r : RouterActor} (h : r.Linked) (s : Subject) :
    (r.subscribers s).ValuesIn (r.targets (some s)) := by
  have hentry := h.entries s
  change ((r.subjectSessions.lookup s).getD ∅).ValuesIn ((r.subjectPIDs.lookup s).getD [])
  generalize r.subjectSessions.lookup s = inner at hentry
  generalize r.subjectPIDs.lookup s = pids at hentry
  cases hentry with
  | absent => exact ⟨∅, fun _ => rfl, rfl⟩
  | present hnonempty hlisted => exact hlisted

/-! ## The effect of the single operations -/

section Effects

variable (r : RouterActor) (id : SessionID) (s : Subject)

theorem deleteStreamState_eq (streamID : String) :
    ∃ streams evicted,
      r.deleteStreamState streamID = { r with streamState := streams, evicted := evicted } := by
  unfold deleteStreamState
  split_ifs
  · exact ⟨_, _, rfl⟩
  · exact ⟨r.streamState, r.evicted, rfl⟩

/-- A rebuild changes the cached list of one subject, which then matches its sessions. -/
theorem rebuildSubjectPIDs_eq
    (hne : ∀ inner, r.subjectSessions.lookup s = some inner → inner.size ≠ 0) :
    ∃ pids calls,
      r.rebuildSubjectPIDs s = { r with subjectPIDs := pids, calls := calls } ∧
      (∀ s', s' ≠ s → pids.lookup s' = r.subjectPIDs.lookup s') ∧
      SubjectEntry (r.subjectSessions.lookup s) (pids.lookup s) := by
  unfold rebuildSubjectPIDs
  cases hinner : r.subjectSessions.lookup s with
  | none =>
    refine ⟨r.subjectPIDs.erase s, r.calls, rfl, fun s' hs' => lookup_erase_ne hs', ?_⟩
    rw [lookup_erase]
    exact .absent
  | some inner =>
    have hsize := hne inner hinner
    dsimp only
    rw [if_neg hsize]
    refine ⟨_, _, rfl, fun s' hs' => lookup_insert_ne hs', ?_⟩
    rw [lookup_insert]
    exact .present hsize (valuesIn_visitFirst _ _)

theorem mem_subjectsOf_iff {r : RouterActor} {id : SessionID} {s : Subject} :
    s ∈ r.subjectsOf id ↔ ∃ subs, r.sessionSubjects.lookup id = some subs ∧ s ∈ subs := by
  unfold subjectsOf GoMap.getD
  cases r.sessionSubjects.lookup id with
  | none => simp
  | some subs => simp

theorem dropSubject_eq :
    ∃ subjects, r.dropSubject id s = { r with sessionSubjects := subjects } := by
  unfold dropSubject
  cases r.sessionSubjects.lookup id with
  | none => exact ⟨r.sessionSubjects, rfl⟩
  | some subs => exact ⟨_, rfl⟩

/-- Removing a subject from a session changes one element of one entry. -/
theorem mem_subjectsOf_dropSubject (id' : SessionID) (s' : Subject) :
    s' ∈ (r.dropSubject id s).subjectsOf id' ↔ s' ∈ r.subjectsOf id' ∧ ¬ (id' = id ∧ s' = s) := by
  unfold dropSubject
  cases hsubs : r.sessionSubjects.lookup id with
  | none =>
    have hnot : ∀ s', s' ∉ r.subjectsOf id := by
      intro s' hs'
      obtain ⟨subs, hsubs', -⟩ := mem_subjectsOf_iff.mp hs'
      exact nomatch hsubs.symm.trans hsubs'
    constructor
    · rintro hs'
      refine ⟨hs', ?_⟩
      rintro ⟨rfl, rfl⟩
      exact hnot _ hs'
    · exact And.left
  | some subs =>
    have herase : ∀ s', s' ∈ subs.erase s ↔ s' ∈ subs ∧ s' ≠ s := by
      intro s'
      rw [mem_erase, and_comm]
    simp only [mem_subjectsOf_iff]
    by_cases hid : id' = id
    · subst hid
      have hsize : ∀ s', GoMap.size (subs.erase s) = 0 → s' ∉ subs.erase s := by
        intro s' h
        exact lookup_eq_none.mp (size_eq_zero_iff.mp h s')
      split_ifs with hzero
      · simp only [lookup_erase, hsubs, Option.some.injEq, true_and, exists_eq_left']
        simpa using fun hs' => not_not.mp fun hne => hsize s' hzero ((herase s').mpr ⟨hs', hne⟩)
      · simp only [lookup_insert, hsubs, Option.some.injEq, true_and, exists_eq_left']
        exact herase s'
    · have hlookup : (if GoMap.size (subs.erase s) = 0 then r.sessionSubjects.erase id
          else r.sessionSubjects.insert id (subs.erase s)).lookup id' =
          r.sessionSubjects.lookup id' := by
        split_ifs
        · exact lookup_erase_ne hid
        · exact lookup_insert_ne hid
      simp only [hlookup, hid, false_and, not_false_eq_true, and_true]

/-- The effect of removing the session `id` from the subject `s`, up to the stream states. -/
structure DropSessionEffect (r' : RouterActor) : Prop where
  entries : ∀ s', SubjectEntry (r'.subjectSessions.lookup s') (r'.subjectPIDs.lookup s')
  lookup_subscribers : ∀ s' id', (r'.subscribers s').lookup id' =
    if s' = s ∧ id' = id then none else (r.subscribers s').lookup id'
  sessionSubjects : r'.sessionSubjects = r.sessionSubjects
  sessions : r'.sessions = r.sessions
  sessionByPID : r'.sessionByPID = r.sessionByPID
  cfg : r'.cfg = r.cfg

theorem lookup_subscribers_of_insert
    {r r' : RouterActor} {s : Subject} {inner : GoMap SessionID PID}
    (h : r'.subjectSessions = r.subjectSessions.insert s inner) (s' : Subject) :
    r'.subscribers s' = if s' = s then inner else r.subscribers s' := by
  unfold subscribers GoMap.getD
  rw [h, lookup_insert_ite]
  split_ifs <;> rfl

theorem dropSession_effect
    (hentries : ∀ s', SubjectEntry (r.subjectSessions.lookup s') (r.subjectPIDs.lookup s')) :
    DropSessionEffect r id s (r.dropSession id s) := by
  unfold dropSession
  cases hinner : r.subjectSessions.lookup s with
  | none =>
    refine ⟨hentries, fun s' id' => ?_, rfl, rfl, rfl, rfl⟩
    split_ifs with h
    · obtain ⟨rfl, rfl⟩ := h
      simp [subscribers, GoMap.getD, hinner]
    · rfl
  | some inner =>
    have hsubscribers : r.subscribers s = inner := by
      simp [subscribers, GoMap.getD, hinner]
    dsimp only
    split_ifs with hzero
    · -- The last subscriber leaves: both entries of the subject go.
      obtain ⟨streams, evicted, heq⟩ := deleteStreamState_eq
        { r with
          subjectSessions := r.subjectSessions.erase s
          subjectPIDs := r.subjectPIDs.erase s } s.string
      rw [heq]
      have hnone := size_eq_zero_iff.mp hzero
      refine ⟨fun s' => ?_, fun s' id' => ?_, rfl, rfl, rfl, rfl⟩
      · change SubjectEntry ((r.subjectSessions.erase s).lookup s')
          ((r.subjectPIDs.erase s).lookup s')
        by_cases hs' : s' = s
        · subst hs'
          rw [lookup_erase, lookup_erase]
          exact .absent
        · rw [lookup_erase_ne hs', lookup_erase_ne hs']
          exact hentries s'
      · unfold subscribers GoMap.getD
        change (((r.subjectSessions.erase s).lookup s').getD ∅).lookup id' = _
        by_cases hs' : s' = s
        · subst hs'
          rw [lookup_erase, hinner]
          by_cases hid : id' = id
          · simp [hid]
          · have := hnone id'
            rw [lookup_erase_ne hid] at this
            simp [hid, this]
        · rw [lookup_erase_ne hs', if_neg fun h => hs' h.1]
    · obtain ⟨pids, calls, heq, hother, hself⟩ := rebuildSubjectPIDs_eq
        { r with subjectSessions := r.subjectSessions.insert s (inner.erase id) } s (by
          intro inner' hinner'
          rw [lookup_insert] at hinner'
          exact Option.some.inj hinner' ▸ hzero)
      rw [heq]
      refine ⟨fun s' => ?_, fun s' id' => ?_, rfl, rfl, rfl, rfl⟩
      · by_cases hs' : s' = s
        · subst hs'
          exact hself
        · change SubjectEntry ((r.subjectSessions.insert s (inner.erase id)).lookup s') _
          rw [lookup_insert_ne hs']
          exact (hother s' hs').symm ▸ hentries s'
      · rw [lookup_subscribers_of_insert (r := r) rfl]
        by_cases hs' : s' = s
        · subst hs'
          rw [if_pos rfl, lookup_erase_ite, hsubscribers]
          simp
        · rw [if_neg hs', if_neg fun h => hs' h.1]

/-- The effect of removing the session `id` from the subjects in `gone`. -/
structure RemoveEffect (gone : List Subject) (r' : RouterActor) : Prop where
  entries : ∀ s', SubjectEntry (r'.subjectSessions.lookup s') (r'.subjectPIDs.lookup s')
  mem_subjectsOf : ∀ s' id', s' ∈ r'.subjectsOf id' ↔
    s' ∈ r.subjectsOf id' ∧ ¬ (id' = id ∧ s' ∈ gone)
  lookup_subscribers : ∀ s' id', (r'.subscribers s').lookup id' =
    if id' = id ∧ s' ∈ gone then none else (r.subscribers s').lookup id'
  sessions : r'.sessions = r.sessions
  sessionByPID : r'.sessionByPID = r.sessionByPID
  cfg : r'.cfg = r.cfg

theorem removeSessionFromSubject_effect
    (hentries : ∀ s', SubjectEntry (r.subjectSessions.lookup s') (r.subjectPIDs.lookup s')) :
    RemoveEffect r id [s] (r.removeSessionFromSubject id s) := by
  obtain ⟨subjects, hfirst⟩ := dropSubject_eq r id s
  have hsecond : DropSessionEffect (r.dropSubject id s) id s
      (r.removeSessionFromSubject id s) := by
    refine dropSession_effect (r.dropSubject id s) id s fun s' => ?_
    rw [hfirst]
    exact hentries s'
  refine ⟨hsecond.entries, fun s' id' => ?_, fun s' id' => ?_, ?_, ?_, ?_⟩
  · have hmem := mem_subjectsOf_dropSubject r id s id' s'
    unfold subjectsOf at hmem ⊢
    rw [hsecond.sessionSubjects, hmem, List.mem_singleton]
  · rw [hsecond.lookup_subscribers, hfirst]
    simp only [List.mem_singleton, and_comm]
    rfl
  · rw [hsecond.sessions, hfirst]
  · rw [hsecond.sessionByPID, hfirst]
  · rw [hsecond.cfg, hfirst]

/-- The loop of `unregister` over the subjects of the session. -/
theorem foldl_removeSessionFromSubject_effect (gone : List Subject)
    (hentries : ∀ s', SubjectEntry (r.subjectSessions.lookup s') (r.subjectPIDs.lookup s')) :
    RemoveEffect r id gone (gone.foldl (fun r s => r.removeSessionFromSubject id s) r) := by
  induction gone generalizing r with
  | nil => exact ⟨hentries, by simp, by simp, rfl, rfl, rfl⟩
  | cons s gone ih =>
    have hone := removeSessionFromSubject_effect r id s hentries
    have hrest := ih (r.removeSessionFromSubject id s) hone.entries
    refine ⟨hrest.entries, fun s' id' => ?_, fun s' id' => ?_, hrest.sessions.trans hone.sessions,
      hrest.sessionByPID.trans hone.sessionByPID, hrest.cfg.trans hone.cfg⟩
    · rw [List.foldl_cons, hrest.mem_subjectsOf, hone.mem_subjectsOf]
      simp only [List.mem_cons, List.not_mem_nil, or_false]
      tauto
    · rw [List.foldl_cons, hrest.lookup_subscribers, hone.lookup_subscribers]
      by_cases hid : id' = id
      · by_cases hgone : s' ∈ gone
        · simp [hid, hgone]
        · simp [hid, hgone]
      · simp [hid]

/-- The effect of `unregister`: nothing of the session is left. -/
structure UnregisterEffect (r' : RouterActor) : Prop where
  entries : ∀ s', SubjectEntry (r'.subjectSessions.lookup s') (r'.subjectPIDs.lookup s')
  mem_subjectsOf : ∀ s' id', s' ∈ r'.subjectsOf id' ↔ s' ∈ r.subjectsOf id' ∧ id' ≠ id
  lookup_subscribers : ∀ s' id', (r'.subscribers s').lookup id' =
    if id' = id then none else (r.subscribers s').lookup id'
  sessions : r'.sessions = r.sessions.erase id
  sessionByPID : r'.sessionByPID =
    match r.sessions.lookup id with
    | some pid => r.sessionByPID.erase pid
    | none => r.sessionByPID
  cfg : r'.cfg = r.cfg

theorem unregister_effect (h : r.Linked) : UnregisterEffect r id (r.unregister id) := by
  have hloop := foldl_removeSessionFromSubject_effect r id (r.subjectsOf id).keys h.entries
  change UnregisterEffect r id (forgetSession (((r.subjectsOf id).keys).foldl _ r) id)
  generalize (r.subjectsOf id).keys.foldl _ r = r' at hloop
  refine ⟨hloop.entries, fun s' id' => ?_, fun s' id' => ?_, ?_, ?_, hloop.cfg⟩
  · have hmem := hloop.mem_subjectsOf s' id'
    by_cases hid : id' = id
    · subst hid
      simp [subjectsOf, forgetSession, GoMap.getD]
    · have hlookup : (r'.forgetSession id).subjectsOf id' = r'.subjectsOf id' := by
        unfold subjectsOf GoMap.getD
        exact congrArg (Option.getD · ∅) (lookup_erase_ne hid)
      rw [hlookup, hmem]
      simp [hid]
  · change lookup id' (r'.subscribers s') = _
    rw [hloop.lookup_subscribers]
    by_cases hid : id' = id
    · subst hid
      have hnone : s' ∉ (r.subjectsOf id').keys → lookup id' (r.subscribers s') = none :=
        fun hs' => lookup_eq_none.mpr fun hmem => hs' ((h.mem_iff s' id').mpr hmem)
      by_cases hs' : s' ∈ (r.subjectsOf id').keys
      · simp [hs']
      · simp [hs', hnone hs']
    · simp [hid]
  · exact congrArg (erase id) hloop.sessions
  · change (match r'.sessions.lookup id with
      | some pid => r'.sessionByPID.erase pid
      | none => r'.sessionByPID) = _
    rw [hloop.sessions, hloop.sessionByPID]

/-- The effect of a subscription that is not there yet. -/
structure SubscribeEffect (pid : PID) (r' : RouterActor) : Prop where
  entries : ∀ s', SubjectEntry (r'.subjectSessions.lookup s') (r'.subjectPIDs.lookup s')
  mem_subjectsOf : ∀ s' id', s' ∈ r'.subjectsOf id' ↔ s' ∈ r.subjectsOf id' ∨ (id' = id ∧ s' = s)
  lookup_subscribers : ∀ s' id', (r'.subscribers s').lookup id' =
    if s' = s ∧ id' = id then some pid else (r.subscribers s').lookup id'
  sessions : r'.sessions = r.sessions
  sessionByPID : r'.sessionByPID = r.sessionByPID
  cfg : r'.cfg = r.cfg

/-- The two new entries, before the cached list is rebuilt. -/
theorem link_effect (pid : PID) :
    (∀ s' id', s' ∈ (r.link id s pid).subjectsOf id' ↔
      s' ∈ r.subjectsOf id' ∨ (id' = id ∧ s' = s)) ∧
    (∀ s' id', ((r.link id s pid).subscribers s').lookup id' =
      if s' = s ∧ id' = id then some pid else (r.subscribers s').lookup id') := by
  constructor
  · intro s' id'
    unfold subjectsOf GoMap.getD
    change s' ∈ ((r.sessionSubjects.insert id _).lookup id').getD ∅ ↔ _
    rw [lookup_insert_ite]
    split_ifs with hid
    · subst hid
      simp [mem_insert, or_comm, GoMap.getD]
    · simp [hid]
  · intro s' id'
    rw [lookup_subscribers_of_insert (r := r) rfl]
    by_cases hs' : s' = s
    · subst hs'
      rw [if_pos rfl, lookup_insert_ite]
      simp [subscribers]
    · rw [if_neg hs', if_neg fun h => hs' h.1]

/-- A subscription has no effect for an unknown session and for one subscribed already. -/
theorem subscribe_effect
    (hentries : ∀ s', SubjectEntry (r.subjectSessions.lookup s') (r.subjectPIDs.lookup s')) :
    r.subscribe id s = r ∨
      ∃ pid, r.sessions.lookup id = some pid ∧
        SubscribeEffect r id s pid (r.subscribe id s) := by
  unfold subscribe
  cases r.sessions.lookup id with
  | none => exact .inl rfl
  | some pid =>
    dsimp only
    split_ifs
    · exact .inl rfl
    · obtain ⟨pids, calls, heq, hother, hself⟩ := rebuildSubjectPIDs_eq (r.link id s pid) s (by
        intro inner hinner hzero
        obtain rfl := Option.some.inj ((lookup_insert _).symm.trans hinner)
        have hmissing := (lookup_insert _).symm.trans (size_eq_zero_iff.mp hzero id)
        cases hmissing)
      obtain ⟨hsubjects, hsubscribers⟩ := link_effect r id s pid
      rw [heq]
      refine .inr ⟨pid, rfl, fun s' => ?_, hsubjects, hsubscribers, rfl, rfl, rfl⟩
      by_cases hs' : s' = s
      · subst hs'
        exact hself
      · change SubjectEntry ((r.subjectSessions.insert s _).lookup s') _
        rw [lookup_insert_ne hs']
        exact (hother s' hs').symm ▸ hentries s'

/-- A registration that is not refused. -/
def Registers : Prop :=
  id ≠ "" ∧ ¬ (id ∉ r.sessions ∧ 0 < r.cfg.maxActiveSessions ∧
    r.cfg.maxActiveSessions ≤ r.sessions.size)

instance : Decidable (r.Registers id) := inferInstanceAs (Decidable (_ ∧ _))

/-- The effect of a registration that is not refused: no subscription changes. -/
structure RegisterEffect (pid : PID) (r' : RouterActor) : Prop where
  subjectSessions : r'.subjectSessions = r.subjectSessions
  subjectPIDs : r'.subjectPIDs = r.subjectPIDs
  mem_subjectsOf : ∀ s' id', s' ∈ r'.subjectsOf id' ↔ s' ∈ r.subjectsOf id'
  sessions : r'.sessions = r.sessions.insert id pid
  sessionByPID : r'.sessionByPID =
    (match r.sessions.lookup id with
      | some previousPID => r.sessionByPID.erase previousPID
      | none => r.sessionByPID).insert pid id
  cfg : r'.cfg = r.cfg

theorem register_effect (pid : PID) (hregisters : r.Registers id) :
    RegisterEffect r id pid (r.register id (some pid)) := by
  unfold register
  dsimp only
  rw [if_neg hregisters.1, if_neg hregisters.2]
  refine ⟨rfl, rfl, fun s' id' => ?_, rfl, rfl, rfl⟩
  unfold subjectsOf GoMap.getD
  dsimp only
  split_ifs with hid
  · rfl
  · rw [lookup_insert_ite]
    split_ifs with hid'
    · rw [hid', lookup_eq_none.mpr hid]
      rfl
    · rfl

/-- What holds before a registration and after one that is not refused holds after any. -/
theorem register_induct {P : RouterActor → Prop} {p : Option PID} (hself : P r)
    (hnew : ∀ pid, p = some pid → r.Registers id → P (r.register id (some pid))) :
    P (r.register id p) := by
  cases p with
  | none => exact hself
  | some pid =>
    by_cases hregisters : r.Registers id
    · exact hnew pid rfl hregisters
    · unfold register
      dsimp only
      by_cases hempty : id = ""
      · rw [if_pos hempty]
        exact hself
      · rw [if_neg hempty, if_pos (not_not.mp fun hlimit => hregisters ⟨hempty, hlimit⟩)]
        exact hself

/-- A stopped process is that of no session, or its session is removed. -/
theorem onActorStopped_induct
    {P : RouterActor → Prop} (hself : P r) (hleft : ∀ id, P (r.unregister id)) (pid : Option PID) :
    P (r.onActorStopped pid) := by
  unfold onActorStopped
  cases pid with
  | none => exact hself
  | some pid =>
    dsimp only
    split_ifs
    · exact hself
    · cases r.sessionByPID.lookup pid with
      | none => exact hself
      | some id => exact hleft id

end Effects

/-! ## What every run keeps -/

section Linked

variable {r : RouterActor}

/-- Only the indexes and the configuration count. -/
theorem Linked.of_setup_eq
    {r' : RouterActor} (hsetup : r'.setup = r.setup) (h : r.Linked) : r'.Linked := by
  have h' : r.setup.Linked := ⟨h.entries, h.mem_iff, h.registered, h.bounded⟩
  rw [← hsetup] at h'
  exact ⟨h'.entries, h'.mem_iff, h'.registered, h'.bounded⟩

theorem Linked.removeSessionFromSubject
    (h : r.Linked) (id : SessionID) (s : Subject) : (r.removeSessionFromSubject id s).Linked := by
  have heffect := removeSessionFromSubject_effect r id s h.entries
  refine ⟨heffect.entries, fun s' id' => ?_, fun s' id' hmem => ?_, ?_⟩
  · rw [heffect.mem_subjectsOf, h.mem_iff, mem_iff_lookup, mem_iff_lookup,
      heffect.lookup_subscribers]
    split_ifs with hgone
    · simp [hgone]
    · exact and_iff_left hgone
  · rw [mem_iff_lookup, heffect.lookup_subscribers] at hmem
    rw [heffect.sessions]
    split_ifs at hmem
    · exact absurd hmem (by simp)
    · exact h.registered s' id' (mem_iff_lookup.mpr hmem)
  · rw [heffect.cfg, heffect.sessions]
    exact h.bounded

theorem Linked.unregister (h : r.Linked) (id : SessionID) : (r.unregister id).Linked := by
  have heffect := unregister_effect r id h
  refine ⟨heffect.entries, fun s' id' => ?_, fun s' id' hmem => ?_, ?_⟩
  · rw [heffect.mem_subjectsOf, h.mem_iff, mem_iff_lookup, mem_iff_lookup,
      heffect.lookup_subscribers]
    split_ifs with hid <;> simp [hid]
  · rw [mem_iff_lookup, heffect.lookup_subscribers] at hmem
    rw [heffect.sessions, mem_erase]
    split_ifs at hmem with hid
    · exact absurd hmem (by simp)
    · exact ⟨hid, h.registered s' id' (mem_iff_lookup.mpr hmem)⟩
  · rw [heffect.cfg, heffect.sessions]
    intro hmax
    have hle := size_erase_le r.sessions id
    have hbound := h.bounded hmax
    omega

theorem Linked.subscribe
    (h : r.Linked) (id : SessionID) (s : Subject) : (r.subscribe id s).Linked := by
  obtain heq | ⟨pid, hpid, heffect⟩ := subscribe_effect r id s h.entries
  · rw [heq]
    exact h
  · refine ⟨heffect.entries, fun s' id' => ?_, fun s' id' hmem => ?_, ?_⟩
    · rw [heffect.mem_subjectsOf, h.mem_iff, mem_iff_lookup, mem_iff_lookup,
        heffect.lookup_subscribers]
      split_ifs with hnew
      · simp [hnew]
      · exact or_iff_left fun h => hnew h.symm
    · rw [mem_iff_lookup, heffect.lookup_subscribers] at hmem
      rw [heffect.sessions]
      split_ifs at hmem with hnew
      · rw [hnew.2]
        exact mem_iff_lookup.mpr ⟨pid, hpid⟩
      · exact h.registered s' id' (mem_iff_lookup.mpr hmem)
    · rw [heffect.cfg, heffect.sessions]
      exact h.bounded

theorem Linked.register
    (h : r.Linked) (id : SessionID) (pid : Option PID) : (r.register id pid).Linked := by
  refine register_induct r id h fun pid _ hregisters => ?_
  have heffect := register_effect r id pid hregisters
  have hsubscribers : ∀ s', (r.register id (some pid)).subscribers s' = r.subscribers s' :=
    fun s' => congrArg (GoMap.getD · s' ∅) heffect.subjectSessions
  refine ⟨fun s' => ?_, fun s' id' => ?_, fun s' id' hmem => ?_, ?_⟩
  · rw [heffect.subjectSessions, heffect.subjectPIDs]
    exact h.entries s'
  · rw [heffect.mem_subjectsOf, hsubscribers]
    exact h.mem_iff s' id'
  · rw [hsubscribers] at hmem
    rw [heffect.sessions, mem_insert]
    exact .inr (h.registered s' id' hmem)
  · rw [heffect.cfg, heffect.sessions]
    intro hmax
    by_cases hid : id ∈ r.sessions
    · rw [size_insert_of_mem pid hid]
      exact h.bounded hmax
    · rw [size_insert_of_notMem pid hid]
      have hroom : ¬ r.cfg.maxActiveSessions ≤ r.sessions.size :=
        fun hfull => hregisters.2 ⟨hid, hmax, hfull⟩
      omega

theorem Linked.receive (h : r.Linked) (m : Message) : (r.receive m).Linked := by
  cases m with
  | started => exact h.of_setup_eq (setup_sweepStreamState r)
  | stopped => exact ⟨h.entries, h.mem_iff, h.registered, h.bounded⟩
  | actorStopped pid => exact onActorStopped_induct r h h.unregister pid
  | registerSession id pid => exact h.register id pid
  | unregisterSession id => exact h.unregister id
  | subscribeSession id s => exact h.subscribe id s
  | unsubscribeSession id s => exact h.removeSessionFromSubject id s
  | deliverEnvelope env => exact h.of_setup_eq (setup_handleEnvelope r env)
  | sweepStreamState => exact h.of_setup_eq (setup_sweepStreamState r)
  | other => exact h

end Linked

/-- A router state that some run reaches. -/
def Reached (r : RouterActor) : Prop :=
  ∃ cfg selfPID clock order ms, r = run receive (create cfg selfPID clock order) ms

theorem Reached.linked {r : RouterActor} (h : r.Reached) : r.Linked := by
  obtain ⟨cfg, selfPID, clock, order, ms, rfl⟩ := h
  exact invariant (fun _ m hr => hr.receive m) (linked_create cfg selfPID clock order) ms

/-! ## Agreement of all indexes -/

/-- The agreement of the indexes. -/
structure IndexesAgree (r : RouterActor) : Prop where
  /-- A session is listed for a subject iff the subject is listed for it and it is registered. -/
  subscribed_iff : ∀ s id, id ∈ r.subscribers s ↔ s ∈ r.subjectsOf id ∧ id ∈ r.sessions
  /-- The cached list has the current process of each subscribed session once. -/
  current_pids : ∀ s, ∃ ids : List SessionID, ids.Nodup ∧
    (∀ id, id ∈ ids ↔ id ∈ r.subscribers s) ∧
    ids.map r.sessions.lookup = (r.targets (some s)).map some
  /-- `sessionByPID` is the inverse of `sessions`. -/
  inverse : ∀ pid id, r.sessionByPID.lookup pid = some id ↔ r.sessions.lookup id = some pid
  /-- No empty entry of a subject remains. -/
  no_empty : ∀ s, (s ∈ r.subjectSessions → (r.subscribers s).size ≠ 0) ∧
    (s ∈ r.subjectPIDs → r.targets (some s) ≠ [])
  bounded : 0 < r.cfg.maxActiveSessions → (r.sessions.size : Int) ≤ r.cfg.maxActiveSessions

/--
A registration that is not refused gives the session a process that no other
session holds, and does not change the process of a session with subscriptions.
-/
def RegistersSoundly (r : RouterActor) : Message → Prop
  | .registerSession id (some pid) => r.Registers id →
      (∀ previousPID, r.sessions.lookup id = some previousPID → previousPID ≠ pid →
        ∀ s, s ∉ r.subjectsOf id) ∧
      ∀ id', r.sessions.lookup id' = some pid → id' = id
  | _ => True

/-- The recorded processes are current, and `sessionByPID` is the inverse of `sessions`. -/
structure Coherent (r : RouterActor) : Prop extends Linked r where
  current : ∀ s id pid, (r.subscribers s).lookup id = some pid → r.sessions.lookup id = some pid
  inverse : ∀ pid id, r.sessionByPID.lookup pid = some id ↔ r.sessions.lookup id = some pid

section Coherent

variable {r : RouterActor}

theorem coherent_create
    (cfg : RouterConfig) (selfPID : PID) (clock : Nat → Nat) (order : Nat → List String) :
    Coherent (create cfg selfPID clock order) where
  toLinked := linked_create cfg selfPID clock order
  current := by
    simp [subscribers, create, GoMap.getD]
  inverse := by
    simp [create]

theorem Coherent.indexesAgree (h : r.Coherent) :
    r.IndexesAgree where
  subscribed_iff s id := by
    rw [h.mem_iff]
    exact ⟨fun hmem => ⟨hmem, h.registered s id hmem⟩, And.left⟩
  current_pids s := by
    obtain ⟨ids, hnodup, hmem, hlookup⟩ := (h.valuesIn_targets s).exists_keys
    refine ⟨ids, hnodup, hmem, ?_⟩
    rw [← hlookup]
    refine List.map_congr_left fun id hid => ?_
    obtain ⟨pid, hpid⟩ := mem_iff_lookup.mp ((hmem id).mp hid)
    rw [hpid, h.current s id pid hpid]
  inverse := h.inverse
  no_empty s := by
    have hentry := h.entries s
    unfold subscribers targets GoMap.getD
    rw [mem_iff_lookup, mem_iff_lookup]
    dsimp only
    generalize r.subjectSessions.lookup s = inner at hentry
    generalize r.subjectPIDs.lookup s = pids at hentry
    cases hentry with
    | absent => simp
    | present hnonempty hlisted =>
      refine ⟨fun _ => hnonempty, fun _ hnil => hnonempty ?_⟩
      obtain ⟨ids, -, hmem, hlookup⟩ := hlisted.exists_keys
      rw [Option.getD_some] at hnil
      rw [hnil, List.map_nil, List.map_eq_nil_iff] at hlookup
      subst hlookup
      refine size_eq_zero_iff.mpr fun id => lookup_eq_none.mpr fun hid => ?_
      exact List.not_mem_nil ((hmem id).mpr hid)
  bounded := h.bounded

theorem Coherent.of_setup_eq
    {r' : RouterActor} (hsetup : r'.setup = r.setup) (h : r.Coherent) : r'.Coherent := by
  have hlinked := h.toLinked.of_setup_eq hsetup
  have hcurrent : ∀ s id pid, (r.setup.subscribers s).lookup id = some pid →
      r.setup.sessions.lookup id = some pid := h.current
  have hinverse : ∀ pid id, r.setup.sessionByPID.lookup pid = some id ↔
      r.setup.sessions.lookup id = some pid := h.inverse
  rw [← hsetup] at hcurrent hinverse
  exact ⟨hlinked, hcurrent, hinverse⟩

theorem Coherent.removeSessionFromSubject (h : r.Coherent) (id : SessionID) (s : Subject) :
    (r.removeSessionFromSubject id s).Coherent := by
  have heffect := removeSessionFromSubject_effect r id s h.entries
  refine ⟨h.toLinked.removeSessionFromSubject id s, fun s' id' pid hpid => ?_, ?_⟩
  · rw [heffect.lookup_subscribers] at hpid
    rw [heffect.sessions]
    split_ifs at hpid
    exact h.current s' id' pid hpid
  · rw [heffect.sessions, heffect.sessionByPID]
    exact h.inverse

theorem Coherent.unregister (h : r.Coherent) (id : SessionID) : (r.unregister id).Coherent := by
  have heffect := unregister_effect r id h.toLinked
  refine ⟨h.toLinked.unregister id, fun s' id' pid hpid => ?_, fun pid id' => ?_⟩
  · rw [heffect.lookup_subscribers] at hpid
    rw [heffect.sessions]
    split_ifs at hpid with hid
    rw [lookup_erase_ne hid]
    exact h.current s' id' pid hpid
  · rw [heffect.sessions, heffect.sessionByPID]
    exact inverse_erase h.inverse (fun _ hid => by rw [hid]) (fun hid => by rw [hid]) pid id'

theorem Coherent.subscribe
    (h : r.Coherent) (id : SessionID) (s : Subject) : (r.subscribe id s).Coherent := by
  obtain heq | ⟨pid, hpid, heffect⟩ := subscribe_effect r id s h.entries
  · rw [heq]
    exact h
  · refine ⟨h.toLinked.subscribe id s, fun s' id' pid' hpid' => ?_, ?_⟩
    · rw [heffect.lookup_subscribers] at hpid'
      rw [heffect.sessions]
      split_ifs at hpid' with hnew
      · rw [hnew.2, hpid, hpid']
      · exact h.current s' id' pid' hpid'
    · rw [heffect.sessions, heffect.sessionByPID]
      exact h.inverse

theorem Coherent.register
    (h : r.Coherent) {id : SessionID} {pid : PID} (hregisters : r.Registers id)
    (hsubs : ∀ previousPID, r.sessions.lookup id = some previousPID → previousPID ≠ pid →
      ∀ s, s ∉ r.subjectsOf id)
    (hfree : ∀ id', r.sessions.lookup id' = some pid → id' = id) :
    (r.register id (some pid)).Coherent := by
  have heffect := register_effect r id pid hregisters
  refine ⟨h.toLinked.register id (some pid), fun s' id' pid' hpid' => ?_, fun pid' id' => ?_⟩
  · have hsubscribers : (r.register id (some pid)).subscribers s' = r.subscribers s' :=
      congrArg (GoMap.getD · s' ∅) heffect.subjectSessions
    rw [hsubscribers] at hpid'
    have hcurrent := h.current s' id' pid' hpid'
    rw [heffect.sessions, lookup_insert_ite]
    split_ifs with hid
    · -- A subscribed session keeps its process.
      subst hid
      by_cases hsame : pid' = pid
      · rw [hsame]
      · exact absurd ((h.mem_iff s' id').mpr (mem_iff_lookup.mpr ⟨pid', hpid'⟩))
          (hsubs pid' hcurrent hsame s')
    · exact hcurrent
  · obtain ⟨byPID, hbyPID, herased⟩ : ∃ byPID : GoMap PID SessionID,
        (r.register id (some pid)).sessionByPID = byPID.insert pid id ∧
          ∀ pid' id', byPID.lookup pid' = some id' ↔
            (r.sessions.erase id).lookup id' = some pid' :=
      ⟨_, heffect.sessionByPID, inverse_erase h.inverse (fun _ hid => by rw [hid])
        (fun hid => by rw [hid])⟩
    rw [heffect.sessions, hbyPID, lookup_insert_ite, lookup_insert_ite]
    by_cases hid : id' = id
    · by_cases hpid : pid' = pid
      · simp [hid, hpid]
      · rw [if_neg hpid, if_pos hid, herased, lookup_erase_ite, if_pos hid]
        simp [Ne.symm hpid]
    · by_cases hpid : pid' = pid
      · have hother : ¬ r.sessions.lookup id' = some pid' := fun heq => hid (hfree id' (hpid ▸ heq))
        simp [hid, Ne.symm hid, hpid, hpid ▸ hother]
      · rw [if_neg hpid, if_neg hid, herased, lookup_erase_ne hid]

/-- A sound step keeps the indexes coherent. -/
theorem Coherent.receive
    (h : r.Coherent) {m : Message} (hsound : r.RegistersSoundly m) : (r.receive m).Coherent := by
  cases m with
  | started => exact h.of_setup_eq (setup_sweepStreamState r)
  | stopped => exact ⟨h.toLinked.receive .stopped, h.current, h.inverse⟩
  | actorStopped pid => exact onActorStopped_induct r h h.unregister pid
  | registerSession id pid =>
    refine register_induct r id h (p := pid) fun pid' hpid hregisters => ?_
    subst hpid
    obtain ⟨hsubs, hfree⟩ := hsound hregisters
    exact h.register hregisters hsubs hfree
  | unregisterSession id => exact h.unregister id
  | subscribeSession id s => exact h.subscribe id s
  | unsubscribeSession id s => exact h.removeSessionFromSubject id s
  | deliverEnvelope env => exact h.of_setup_eq (setup_handleEnvelope r env)
  | sweepStreamState => exact h.of_setup_eq (setup_sweepStreamState r)
  | other => exact h

/-- A registration after which the indexes agree was sound. -/
theorem Coherent.registersSoundly_of_indexesAgree
    (h : r.Coherent) {m : Message} (hagree : (r.receive m).IndexesAgree) :
    r.RegistersSoundly m := by
  cases m with
  | registerSession id pid =>
    cases pid with
    | none => trivial
    | some pid =>
      intro hregisters
      have heffect := register_effect r id pid hregisters
      have hagree : (r.register id (some pid)).IndexesAgree := hagree
      have hnew : (r.register id (some pid)).sessions.lookup id = some pid := by
        rw [heffect.sessions, lookup_insert]
      have hfree : ∀ id', r.sessions.lookup id' = some pid → id' = id := by
        intro id' hid'
        by_contra hne
        have hkept : (r.register id (some pid)).sessions.lookup id' = some pid := by
          rw [heffect.sessions, lookup_insert_ne hne, hid']
        have hboth := ((hagree.inverse pid id').mpr hkept).symm.trans
          ((hagree.inverse pid id).mpr hnew)
        exact hne (Option.some.inj hboth)
      refine ⟨fun previousPID hprevious hne s hs => ?_, hfree⟩
      -- The list of `s` would have to contain the new process already.
      have htargets : (r.register id (some pid)).targets (some s) = r.targets (some s) :=
        congrArg (GoMap.getD · s []) heffect.subjectPIDs
      have hmem : id ∈ (r.register id (some pid)).subscribers s := by
        refine (hagree.subscribed_iff s id).mpr ⟨?_, mem_iff_lookup.mpr ⟨pid, hnew⟩⟩
        exact (heffect.mem_subjectsOf s id).mpr hs
      obtain ⟨ids, -, hids, hlookup⟩ := hagree.current_pids s
      have hlisted : some pid ∈ (r.targets (some s)).map some := by
        rw [← htargets, ← hlookup]
        exact List.mem_map.mpr ⟨id, (hids id).mpr hmem, hnew⟩
      obtain ⟨pid', hpid', heq⟩ := List.mem_map.mp hlisted
      obtain rfl := Option.some.inj heq
      obtain ⟨id', hid'⟩ := ((h.valuesIn_targets s).mem_iff pid').mp hpid'
      have hcurrent := h.current s id' pid' hid'
      rw [hfree id' hcurrent, hprevious] at hcurrent
      exact hne (Option.some.inj hcurrent)
  | _ => trivial

/--
The indexes agree throughout a run exactly when every registration of the run
that is not refused is sound.
-/
theorem indexes_agree_iff
    (cfg : RouterConfig) (selfPID : PID) (clock : Nat → Nat) (order : Nat → List String)
    (ms : List Message) :
    (∀ ms', ms' <+: ms → (run receive (create cfg selfPID clock order) ms').IndexesAgree) ↔
      Always receive RegistersSoundly (create cfg selfPID clock order) ms :=
  forall_prefix_iff_always
    (fun _ h => h.indexesAgree)
    (fun _ _ h hsound => h.receive hsound)
    (fun _ _ h hagree => h.registersSoundly_of_indexesAgree hagree)
    (coherent_create cfg selfPID clock order) ms

end Coherent

/-- A router with default limits whose clock advances by one second per reading. -/
def sampleRouter : RouterActor :=
  create ⟨"raw", 0, 0, 0⟩ "router" (fun n => 1000000000 * (n + 1)) (fun _ => [])

/-- The subject of the trades of one instrument. -/
def tradeSubject : Subject := ⟨"marketdata.trade", "", "binance", "BTCUSDT", "raw"⟩

/-- Registering a subscribed session with a new process leaves the old one in the list. -/
theorem reregistered_process_not_current :
    ¬ (run receive sampleRouter
      [.registerSession "a" (some "p1"), .subscribeSession "a" tradeSubject,
        .registerSession "a" (some "p2")]).IndexesAgree := by
  intro hagree
  obtain ⟨ids, -, hids, hlookup⟩ := hagree.current_pids tradeSubject
  have hmem : "a" ∈ ids := (hids "a").mpr (by decide +kernel)
  have hlisted := List.mem_map_of_mem
    (f := (run receive sampleRouter
      [.registerSession "a" (some "p1"), .subscribeSession "a" tradeSubject,
        .registerSession "a" (some "p2")]).sessions.lookup) hmem
  rw [hlookup] at hlisted
  revert hlisted
  decide +kernel

end RouterActor
end Delivery
end StreamAnalytics
