import StreamAnalytics.Lib.Binary64
import StreamAnalytics.Lib.Fnv
import StreamAnalytics.Lib.GoInt
import StreamAnalytics.Lib.Runs

/-!
# The websocket consumer

Model of `internal/actors/marketdata/ws/consumer.go`: the goroutine of `connect`, which
dials, subscribes and reads until the connection fails, and then waits and dials again.
It shares the connection with the goroutines of the keepalive and the heartbeat, which
close it when a write fails, and with `Stop`.  The goroutine is given by what it does
next (`Phase`); an `Event` is one step of a goroutine, together with the result of the
operation that the step completes, so a list of events is an interleaving.

The loop may return only after the consumer was stopped.  It also returns when a read
ends with an error that `isExpectedReadClose` accepts, which a server can cause with a
close frame and a failed ping causes by closing the connection under the reader
(`connect_returns_iff`).
-/

namespace StreamAnalytics
namespace Ws

open Runs

/-- `ReconnectPolicy`; durations are in nanoseconds. -/
structure ReconnectPolicy where
  baseBackoff : Int := 0
  maxBackoff : Int := 0
  jitter : Float := 0
  retryBudget : Int := 0
  budgetWindow : Int := 0
  cooldown : Int := 0

/-- `withReconnectDefaults`. -/
def withReconnectDefaults (p : ReconnectPolicy) : ReconnectPolicy where
  baseBackoff := if p.baseBackoff ≤ 0 then 500000000 else p.baseBackoff
  maxBackoff := if p.maxBackoff ≤ 0 then 30000000000 else p.maxBackoff
  jitter := if p.jitter < 0 then 0 else if 1 < p.jitter then 1 else p.jitter
  retryBudget := if p.retryBudget ≤ 0 then 20 else p.retryBudget
  budgetWindow := if p.budgetWindow ≤ 0 then 60000000000 else p.budgetWindow
  cooldown := if p.cooldown ≤ 0 then 30000000000 else p.cooldown

/-- `ConsumerConfig`; the policy has its defaults. -/
structure ConsumerConfig where
  exchange : String
  bucketID : Int
  consumerID : String
  subscriptionMessages : Nat
  reconnect : ReconnectPolicy

/-- The errors that `connectOnce` distinguishes. -/
inductive ConnError where
  /-- `net.ErrClosed`: the connection was closed on this side. -/
  | netClosed
  /-- `context.Canceled`. -/
  | canceled
  /-- A close frame of the server. -/
  | closeFrame (code : Nat)
  /-- A network error whose `Timeout` is true. -/
  | timeout
  | other (text : String)
deriving DecidableEq

/-- `isExpectedReadClose`: the codes are normal closure, going away and no status. -/
def isExpectedReadClose (err : ConnError) : Bool :=
  match err with
  | .netClosed => true
  | .canceled => true
  | .closeFrame code => code = 1000 || code = 1001 || code = 1005
  | _ => false

/-- `classifyReadFailure`. -/
def classifyReadFailure (err : ConnError) : String :=
  match err with
  | .timeout => "read_timeout"
  | _ => "read"

/-- What the goroutine of `connect` does next; connections are numbered. -/
inductive Phase where
  /-- The check at the top of the loop. -/
  | top
  /-- The wait for the jitter. -/
  | jitter
  | dialing
  /-- The check after the dial. -/
  | opened (conn : Nat)
  /-- Setting the read deadline. -/
  | preparing (conn : Nat)
  /-- Writing the remaining subscription messages. -/
  | subscribing (remaining : Nat)
  /-- The checks at the top of `readLoop`. -/
  | readTop
  | reading (conn : Nat)
  /-- The wait before the next attempt. -/
  | waiting
  | returned
deriving DecidableEq

/-- What the consumer sends to its owner. -/
inductive Report where
  | state (status : String)
  | error (kind : String) (err : ConnError)
  | message

/-- `Consumer`; `opened` counts the connections. -/
structure Consumer where
  phase : Phase := .top
  conn : Option Nat := none
  /-- The quit channel is closed. -/
  quit : Bool := false
  /-- The context is cancelled. -/
  cancelled : Bool := false
  failureKind : String := ""
  retryTimestamps : List Int := []
  reconnectCount : Nat := 0
  opened : Nat := 0
  closed : List Nat := []
  reports : List Report := []

/-- The result of the operation that a step of the goroutine completes. -/
inductive Result where
  /-- A check is made, a timer fires, or an operation succeeds. -/
  | ok
  | message
  | error (err : ConnError)
  /-- A wait ends because the quit channel is closed or the context cancelled. -/
  | interrupted

/-- The steps of the goroutines. -/
inductive Event where
  /-- A step of `connect`, at the given time and with the number drawn for the jitter. -/
  | connect (result : Result) (now : Int) (roll : Float)
  /-- A ping of `handleKeepalive` fails. -/
  | pingFailed
  /-- A write of `handleHeartbeat` fails. -/
  | heartbeatFailed
  /-- `Stop` closes the quit channel. -/
  | quit
  /-- `Stop` cancels the context. -/
  | cancel
  /-- `Stop` closes the connection. -/
  | close

namespace Consumer

/-- The consumer was stopped. -/
def isStopped (s : Consumer) : Bool := s.quit || s.cancelled

def report (s : Consumer) (r : Report) : Consumer := { s with reports := s.reports ++ [r] }

/-- `closeConn`. -/
def closeConn (s : Consumer) : Consumer :=
  match s.conn with
  | none => s
  | some conn => { s with conn := none, closed := s.closed ++ [conn] }

/-- `globalReconnectJitter`. -/
def globalReconnectJitter (cfg : ConsumerConfig) (s : Consumer) : Int :=
  if s.reconnectCount = 0 then 0
  else if cfg.reconnect.maxBackoff ≤ 0 then 0
  else
    let h := Fnv.sum32a (Fnv.bytes
      (cfg.exchange ++ ":" ++ toString cfg.bucketID ++ ":" ++ cfg.consumerID))
    (h % 251).toNat * 1000000

/-- `nextReconnectDelay`: the delay, and whether it is a cooldown. -/
def nextReconnectDelay (cfg : ConsumerConfig) (now : Int) (roll : Float) (s : Consumer) :
    Consumer × Int × Bool :=
  let filtered := s.retryTimestamps.filter fun ts => now - cfg.reconnect.budgetWindow < ts
  if cfg.reconnect.retryBudget ≤ filtered.length then
    ({ s with retryTimestamps := [] }, cfg.reconnect.cooldown, true)
  else
    let delay := GoInt.wrap64 (cfg.reconnect.baseBackoff * 2 ^ filtered.length)
    let delay := if cfg.reconnect.maxBackoff < delay then cfg.reconnect.maxBackoff else delay
    let delay :=
      if 0 < cfg.reconnect.jitter ∧ 0 < delay then
        let f := 1 + ((roll * 2) - 1) * cfg.reconnect.jitter
        let f := if f < 0 then 0 else f
        Binary64.truncate (Float.ofInt delay * f)
      else delay
    ({ s with retryTimestamps := filtered ++ [now] }, delay, false)

/-- `connectOnce` returns an error: its deferred close, and the rest of the loop body. -/
def attemptFailed (cfg : ConsumerConfig) (now : Int) (roll : Float) (kind : String)
    (err : ConnError) (s : Consumer) : Consumer :=
  let next := (s.closeConn.report (.error kind err)).nextReconnectDelay cfg now roll
  let s := { next.1 with reconnectCount := next.1.reconnectCount + 1 }.report
    (.state "reconnecting")
  let s := if next.2.2 then s.report (.state "cooldown") else s
  { s with phase := .waiting }

/-- `connectOnce` returns without an error, and the loop ends. -/
def finish (s : Consumer) : Consumer := { s.closeConn with phase := .returned }

/-- The kind of an error that ends `readLoop`. -/
def readKind (err : ConnError) (s : Consumer) : String :=
  if s.failureKind = "" then classifyReadFailure err else s.failureKind

/-- One step of the goroutine of `connect`; a result that does not fit has no effect. -/
def connectStep (cfg : ConsumerConfig) (result : Result) (now : Int) (roll : Float)
    (s : Consumer) : Consumer :=
  match s.phase, result with
  | .top, .ok =>
    if s.isStopped then { s with phase := .returned }
    else if 0 < s.globalReconnectJitter cfg then { s with phase := .jitter }
    else { s with phase := .dialing }.report (.state "dialing")
  | .jitter, .ok => { s with phase := .dialing }.report (.state "dialing")
  | .jitter, .interrupted => if s.isStopped then { s with phase := .returned } else s
  | .dialing, .ok => { s with phase := .opened s.opened, opened := s.opened + 1 }
  | .dialing, .error err => { s with failureKind := "dial" }.attemptFailed cfg now roll "dial" err
  | .opened conn, .ok =>
    -- Only the quit channel is checked here.
    if s.quit then { s with phase := .returned, closed := s.closed ++ [conn] }
    else { s with phase := .preparing conn, conn := some conn, failureKind := "read" }
  | .preparing _, .ok =>
    { s with phase := .subscribing cfg.subscriptionMessages }.report (.state "connected")
  | .preparing _, .error err =>
    { s with failureKind := "read_deadline" }.attemptFailed cfg now roll "read_deadline" err
  | .subscribing 0, .ok =>
    if 0 < cfg.subscriptionMessages then { s with phase := .readTop }.report (.state "subscribed")
    else { s with phase := .readTop }
  | .subscribing (n + 1), .ok =>
    if s.conn = none then
      { s with failureKind := "subscribe" }.attemptFailed cfg now roll "subscribe"
        (.other "attempting write on nil connection")
    else { s with phase := .subscribing n }
  | .subscribing (_ + 1), .error err =>
    { s with failureKind := "subscribe" }.attemptFailed cfg now roll "subscribe" err
  | .readTop, .ok =>
    if s.isStopped then s.finish
    else
      match s.conn with
      | none =>
        let err := .other "connection is nil"
        s.attemptFailed cfg now roll (s.readKind err) err
      | some conn => { s with phase := .reading conn }
  | .reading _, .message => { s with phase := .readTop }.report .message
  | .reading _, .error err =>
    if s.isStopped || isExpectedReadClose err then s.finish
    else s.attemptFailed cfg now roll (s.readKind err) err
  | .waiting, .ok => { s with phase := .top }
  | .waiting, .interrupted => if s.isStopped then { s with phase := .returned } else s
  | _, _ => s

/-- One step of a goroutine. -/
def step (cfg : ConsumerConfig) (s : Consumer) (e : Event) : Consumer :=
  match e with
  | .connect result now roll => s.connectStep cfg result now roll
  | .pingFailed => { s with failureKind := "heartbeat_timeout" }.closeConn
  | .heartbeatFailed => { s with failureKind := "heartbeat" }.closeConn
  | .quit => { s with quit := true }
  | .cancel => { s with cancelled := true }
  | .close => s.closeConn

/-! ## Steps -/

variable {cfg : ConsumerConfig} {s : Consumer} {e : Event} {result : Result} {now : Int}
  {roll : Float}

@[simp] theorem phase_closeConn (s : Consumer) : s.closeConn.phase = s.phase := by
  unfold closeConn
  split <;> rfl

@[simp] theorem isStopped_closeConn (s : Consumer) : s.closeConn.isStopped = s.isStopped := by
  unfold closeConn
  split <;> rfl

@[simp] theorem isStopped_nextReconnectDelay
    (s : Consumer) : (s.nextReconnectDelay cfg now roll).1.isStopped = s.isStopped := by
  unfold nextReconnectDelay
  dsimp only
  split_ifs <;> rfl

@[simp] theorem isStopped_attemptFailed (kind : String) (err : ConnError) (s : Consumer) :
    (s.attemptFailed cfg now roll kind err).isStopped = s.isStopped := by
  have hnext : ((s.closeConn.report (.error kind err)).nextReconnectDelay cfg now roll).1.isStopped =
      s.isStopped :=
    (isStopped_nextReconnectDelay _).trans (isStopped_closeConn s)
  unfold attemptFailed
  dsimp only
  split_ifs <;> exact hnext

@[simp] theorem isStopped_finish (s : Consumer) : s.finish.isStopped = s.isStopped :=
  isStopped_closeConn s

/-- The goroutine does not stop the consumer. -/
theorem isStopped_connectStep
    (cfg : ConsumerConfig) (result : Result) (now : Int) (roll : Float) (s : Consumer) :
    (s.connectStep cfg result now roll).isStopped = s.isStopped := by
  unfold connectStep
  split
  -- Every branch ends in one of the functions above or changes other fields.
  all_goals try split_ifs
  all_goals try split
  all_goals first | rfl | exact isStopped_attemptFailed .. | exact isStopped_finish _

theorem isStopped_step (cfg : ConsumerConfig) (e : Event) (s : Consumer) (h : s.isStopped = true) :
    (s.step cfg e).isStopped = true := by
  unfold step
  cases e with
  | connect result now roll => exact (isStopped_connectStep cfg result now roll s).trans h
  | pingFailed => exact (isStopped_closeConn _).trans h
  | heartbeatFailed => exact (isStopped_closeConn _).trans h
  | quit => rfl
  | cancel => exact Bool.or_true s.quit
  | close => exact (isStopped_closeConn s).trans h

/-- A read of the step, if it ends with an error, does not end as an expected close. -/
def readsOn (s : Consumer) (e : Event) : Bool :=
  match s.phase, e with
  | .reading _, .connect (.error err) _ _ => s.isStopped || !isExpectedReadClose err
  | _, _ => true

/-- Without an expected close the goroutine returns only after a stop. -/
theorem isStopped_of_connectStep_returned
    (hphase : s.phase ≠ .returned) (hread : s.readsOn (.connect result now roll) = true)
    (h : (s.connectStep cfg result now roll).phase = .returned) : s.isStopped = true := by
  unfold connectStep at h
  split at h
  all_goals try split_ifs at h with hstop
  all_goals try split at h
  -- Left are the check of the quit channel after the dial and the end of a read.
  all_goals try first | exact hstop | exact absurd h hphase | cases h
  · exact Bool.or_eq_true_iff.mpr (.inl hstop)
  · rename_i conn err heq
    unfold readsOn at hread
    rw [heq] at hread
    dsimp only at hread
    cases hstopped : s.isStopped with
    | true => rfl
    | false =>
      rw [hstopped, Bool.false_or] at hread hstop
      rw [hstop] at hread
      cases hread

/-! ## Runs -/

/-- The loop has returned only if the consumer was stopped, and otherwise dials again. -/
structure GoesOn (cfg : ConsumerConfig) (s : Consumer) : Prop where
  stopped : s.phase = .returned → s.isStopped = true
  dials : s.phase = .waiting → s.isStopped = false → ∀ now roll, ∃ n ≤ 3,
    (run (step cfg) s (List.replicate n (.connect .ok now roll))).phase = .dialing

/-- After the wait the goroutine dials, possibly after a further wait for the jitter. -/
theorem dials_of_waiting
    (hphase : s.phase = .waiting) (hrunning : s.isStopped = false) (now : Int) (roll : Float) :
    ∃ n ≤ 3,
      (run (step cfg) s (List.replicate n (.connect .ok now roll))).phase = .dialing := by
  have htop : s.step cfg (.connect .ok now roll) = { s with phase := .top } := by
    unfold step connectStep
    rw [hphase]
  have hsame : isStopped { s with phase := .top } = false := hrunning
  by_cases hjitter : 0 < globalReconnectJitter cfg { s with phase := .top }
  · refine ⟨3, le_refl _, ?_⟩
    have hwait : step cfg { s with phase := .top } (.connect .ok now roll) =
        { s with phase := .jitter } := by
      unfold step connectStep
      dsimp only
      rw [hsame, if_neg (by simp), if_pos hjitter]
    rw [List.replicate_succ, run_cons, htop, List.replicate_succ, run_cons, hwait]
    rfl
  · refine ⟨2, by omega, ?_⟩
    have hdial : step cfg { s with phase := .top } (.connect .ok now roll) =
        report { s with phase := .dialing } (.state "dialing") := by
      unfold step connectStep
      dsimp only
      rw [hsame, if_neg (by simp), if_neg hjitter]
    rw [List.replicate_succ, run_cons, htop, List.replicate_succ, run_cons, hdial]
    rfl

theorem goesOn_iff : GoesOn cfg s ↔ (s.phase = .returned → s.isStopped = true) :=
  ⟨GoesOn.stopped, fun h => ⟨h, fun hphase hrunning => dials_of_waiting hphase hrunning⟩⟩

/-- The other goroutines do not move the loop. -/
theorem phase_step_of_ne
    (h : ∀ result now roll, e ≠ .connect result now roll) : (s.step cfg e).phase = s.phase := by
  unfold step
  cases e with
  | connect result now roll => exact absurd rfl (h result now roll)
  | pingFailed => exact phase_closeConn _
  | heartbeatFailed => exact phase_closeConn _
  | quit => rfl
  | cancel => rfl
  | close => exact phase_closeConn s

/-- A read that ends as an expected close ends the loop. -/
theorem readsOn_of_step_returned
    (h : (s.step cfg e).phase = .returned → (s.step cfg e).isStopped = true) :
    s.readsOn e = true := by
  unfold readsOn
  split
  · rename_i conn err now roll hphase
    by_contra hread
    rw [Bool.not_eq_true, Bool.or_eq_false_iff, Bool.not_eq_false'] at hread
    obtain ⟨hrunning, hexpected⟩ := hread
    have hfinish : s.step cfg (.connect (.error err) now roll) = s.finish := by
      unfold step connectStep
      rw [hphase]
      dsimp only
      rw [hexpected, Bool.or_true, if_pos rfl]
    rw [hfinish] at h
    have hstopped := h rfl
    rw [isStopped_finish, hrunning] at hstopped
    cases hstopped
  · rfl

/-- A step keeps the property exactly when a read does not end as an expected close. -/
theorem goesOn_step_iff (h : s.phase = .returned → s.isStopped = true) :
    GoesOn cfg (s.step cfg e) ↔ s.readsOn e = true := by
  rw [goesOn_iff]
  refine ⟨readsOn_of_step_returned, fun hread hreturned => ?_⟩
  refine isStopped_step cfg e s ?_
  by_cases hphase : s.phase = .returned
  · exact h hphase
  · by_cases he : ∀ result now roll, e ≠ .connect result now roll
    · exact absurd ((phase_step_of_ne he).symm.trans hreturned) hphase
    · push Not at he
      obtain ⟨result, now, roll, rfl⟩ := he
      exact isStopped_of_connectStep_returned hphase hread hreturned

/--
In every interleaving, in every state reached, the loop of `connect` has returned only
if the consumer was stopped, and dials again after every failed attempt if it was not,
exactly when no read of a consumer that is not stopped ends with an error that counts
as an expected close.
-/
theorem connect_returns_iff (cfg : ConsumerConfig) (es : List Event) :
    (∀ es', es' <+: es → GoesOn cfg (run (step cfg) {} es')) ↔
      Always (step cfg) (fun s e => s.readsOn e = true) {} es := by
  refine forall_prefix_iff_always (I := GoesOn cfg) (fun _ h => h)
    (fun s e h hread => (goesOn_step_iff h.stopped).mpr hread)
    (fun s e h hgoesOn => (goesOn_step_iff h.stopped).mp hgoesOn) ?_ es
  exact goesOn_iff.mpr fun h => absurd h (by decide)

/-! ## Sample runs -/

/-- A consumer with one subscription message. -/
def sampleConfig : ConsumerConfig where
  exchange := "binance"
  bucketID := 0
  consumerID := "c-1"
  subscriptionMessages := 1
  reconnect := withReconnectDefaults {}

/-- The consumer connects, subscribes and reads a message. -/
def sampleConnect : List Event :=
  [.connect .ok 0 0.5, .connect .ok 0 0.5, .connect .ok 0 0.5, .connect .ok 0 0.5,
    .connect .ok 0 0.5, .connect .ok 0 0.5, .connect .ok 0 0.5, .connect .message 0 0.5,
    .connect .ok 0 0.5]

/--
A close frame of a server that goes away ends the loop, and so does a failed ping, which
closes the connection that the loop reads from.
-/
theorem loop_returns_without_stop :
    (let s := run (step sampleConfig) {}
      (sampleConnect ++ [.connect (.error (.closeFrame 1001)) 0 0.5])
    s.phase = .returned ∧ s.isStopped = false) ∧
    (let s := run (step sampleConfig) {}
      (sampleConnect ++ [.pingFailed, .connect (.error .netClosed) 0 0.5])
    s.phase = .returned ∧ s.isStopped = false) := by
  decide +kernel

end Consumer

end Ws
end StreamAnalytics
