import Mathlib.Data.String.Basic
import StreamAnalytics.Lib.Fnv
import StreamAnalytics.Lib.GoMap
import StreamAnalytics.Lib.SortedGroups
import StreamAnalytics.Shared.Problem

/-!
# Saving the workspace of a client

Model of `internal/core/workspace`: the aggregate of `domain/workspace.go`, the store of
`infra/file_store.go` and `SaveWorkspace` of `app/service.go`.  The fingerprint is computed
by a parameter `digest`; the source uses `fnvDigest`.

`SaveWorkspace` does not write if the stored workspace has the fingerprint of the submitted
one.  The bytes that are digested are the layout and the sorted settings without any
separator, and not the schema version, so a workspace that differs from the stored one can
have its fingerprint.  A save that is reported has stored the submitted content exactly if
the stored workspace had another fingerprint or the same content (`saved_iff`).
-/

namespace StreamAnalytics
namespace Workspaces

universe u

/-! ## The aggregate -/

/-- `MaxSchemaVersion`. -/
def maxSchemaVersion : Int := 12

/-- `layoutPrefix`. -/
def layoutPrefix : String := "V6"

/-- `Workspace`. -/
structure Workspace (D : Type u) where
  schemaVersion : Int
  layoutV6 : String
  fingerprint : D
  settings : GoMap String String
  savedAtMs : Int

/-- The arguments of `NewFromPayload`. -/
structure Payload where
  schemaVersion : Int
  layoutV6 : String
  settings : GoMap String String
  savedAtMs : Int

/-- The bytes that `computeFingerprint` writes to the hash. -/
def stream (layoutV6 : String) (settings : GoMap String String) : List UInt8 :=
  Fnv.bytes layoutV6 ++ (sortBy id settings.keys).flatMap fun k =>
    Fnv.bytes k ++ Fnv.bytes (settings.getD k "")

/-- The FNV-1a hash with 64 bits, as 16 hexadecimal digits. -/
def fnvDigest (bytes : List UInt8) : String :=
  let digits := Fnv.formatHex (bytes.foldl Fnv.mix Fnv.offset)
  String.ofList (List.replicate (16 - digits.length) '0') ++ digits

section Model

variable {D : Type u} [DecidableEq D] (digest : List UInt8 → D)

/-- The checks of `NewFromPayload`. -/
def payloadCheck (payload : Payload) : Option Problem :=
  Validation.collect
    [Problem.when (payload.schemaVersion ≤ 0)
        (.new .validationFailed "schema_version is required and must be > 0"),
      Problem.when (maxSchemaVersion < payload.schemaVersion)
        (.new .conflict "schema_version is from a newer client; server cannot downgrade"),
      Problem.when (payload.layoutV6 = "" ∨ payload.layoutV6.startsWith layoutPrefix = false)
        (.new .validationFailed "layout_v6 is required and must start with \"V6\"")]

/-- `NewFromPayload`. -/
def newFromPayload (payload : Payload) : Except Problem (Workspace D) :=
  match payloadCheck payload with
  | some p => .error p
  | none =>
    .ok
      { schemaVersion := payload.schemaVersion
        layoutV6 := payload.layoutV6
        fingerprint := digest (stream payload.layoutV6 payload.settings)
        settings := payload.settings
        savedAtMs := payload.savedAtMs }

/-- `HasSameFingerprint`. -/
def hasSameFingerprint (ws : Workspace D) (other : Option (Workspace D)) : Bool :=
  match other with
  | none => false
  | some other => ws.fingerprint = other.fingerprint

/-- `StampSaveTime`. -/
def stampSaveTime (ws : Workspace D) (nowMs : Int) : Workspace D :=
  if ws.savedAtMs = 0 then { ws with savedAtMs := nowMs } else ws

/-! ## The store and the service -/

/-- `FileWorkspaceStore`. -/
structure FileWorkspaceStore (D : Type u) where
  state : Option (Workspace D)
  loaded : Bool
  loadErr : Option String

/-- `Load`. -/
def FileWorkspaceStore.load (store : FileWorkspaceStore D) :
    Except String (Option (Workspace D)) :=
  match store.loadErr with
  | some err => .error err
  | none => if store.loaded then .ok store.state else .ok none

/-- `Save`; `err` is what the file system answers. -/
def FileWorkspaceStore.save (store : FileWorkspaceStore D) (ws : Workspace D)
    (err : Option String) : FileWorkspaceStore D × Option String :=
  match err with
  | some err => (store, some err)
  | none => (⟨some ws, true, none⟩, none)

/-- `SaveResult`. -/
structure SaveResult (D : Type u) where
  saved : Bool
  fingerprint : D
  savedAtMs : Int

/-- The write of `SaveWorkspace`. -/
def writeWorkspace (ws : Workspace D) (nowMs : Int) (err : Option String)
    (store : FileWorkspaceStore D) : FileWorkspaceStore D × Except Problem (SaveResult D) :=
  let ws := stampSaveTime ws nowMs
  match store.save ws err with
  | (store, some _) => (store, .error (.new .internal "failed to persist workspace state"))
  | (store, none) => (store, .ok ⟨true, ws.fingerprint, ws.savedAtMs⟩)

/-- `SaveWorkspace`. -/
def saveWorkspace (payload : Payload) (nowMs : Int) (err : Option String)
    (store : FileWorkspaceStore D) : FileWorkspaceStore D × Except Problem (SaveResult D) :=
  match newFromPayload digest payload with
  | .error p => (store, .error p)
  | .ok ws =>
    match store.load with
    -- Not fatal: the workspace is written.
    | .error _ => writeWorkspace ws nowMs err store
    | .ok none => writeWorkspace ws nowMs err store
    | .ok (some existing) =>
      if hasSameFingerprint ws (some existing) then
        (store, .ok ⟨true, ws.fingerprint, existing.savedAtMs⟩)
      else
        writeWorkspace ws nowMs err store

end Model

/-! ## What a save stores -/

section Saves

variable {D : Type u} {ws : Workspace D}

/-- The workspace has the schema version, the layout and the settings of the payload. -/
structure Carries (ws : Workspace D) (payload : Payload) : Prop where
  schemaVersion : ws.schemaVersion = payload.schemaVersion
  layoutV6 : ws.layoutV6 = payload.layoutV6
  settings : ∀ k, ws.settings.lookup k = payload.settings.lookup k

/-- The store holds a workspace with the content of the payload. -/
def Holds (store : FileWorkspaceStore D) (payload : Payload) : Prop :=
  ∃ ws, store.load = .ok (some ws) ∧ Carries ws payload

theorem carries_stampSaveTime {payload : Payload} (h : Carries ws payload) (nowMs : Int) :
    Carries (stampSaveTime ws nowMs) payload := by
  unfold stampSaveTime
  split_ifs
  · exact ⟨h.schemaVersion, h.layoutV6, h.settings⟩
  · exact h

/-- A write that is reported has stored the content. -/
theorem holds_writeWorkspace {payload : Payload} (h : Carries ws payload)
    (nowMs : Int) (err : Option String) (store : FileWorkspaceStore D) {result : SaveResult D}
    (hresult : (writeWorkspace ws nowMs err store).2 = .ok result) :
    Holds (writeWorkspace ws nowMs err store).1 payload := by
  unfold writeWorkspace FileWorkspaceStore.save at hresult ⊢
  cases err with
  | some err => cases hresult
  | none => exact ⟨_, rfl, carries_stampSaveTime h nowMs⟩

variable (digest : List UInt8 → D)

theorem newFromPayload_eq_ok {payload : Payload} (h : newFromPayload digest payload = .ok ws) :
    Carries ws payload ∧
      ws.fingerprint = digest (stream payload.layoutV6 payload.settings) := by
  unfold newFromPayload at h
  split at h
  · cases h
  · cases h
    exact ⟨⟨rfl, rfl, fun _ => rfl⟩, rfl⟩

/-- The stored workspace has the fingerprint of its own content. -/
def Derived (store : FileWorkspaceStore D) : Prop :=
  ∀ ws, store.load = .ok (some ws) → ws.fingerprint = digest (stream ws.layoutV6 ws.settings)

theorem derived_writeWorkspace {store : FileWorkspaceStore D} (h : Derived digest store)
    (hws : ws.fingerprint = digest (stream ws.layoutV6 ws.settings))
    (nowMs : Int) (err : Option String) : Derived digest (writeWorkspace ws nowMs err store).1 := by
  unfold writeWorkspace FileWorkspaceStore.save
  cases err with
  | some err => exact h
  | none =>
    intro stored hstored
    have heq : stampSaveTime ws nowMs = stored := by
      simpa [FileWorkspaceStore.load] using hstored
    rw [← heq]
    unfold stampSaveTime
    split_ifs
    · exact hws
    · exact hws

variable [DecidableEq D]

/-- A reported save has stored what was submitted exactly if the workspace stored before
does not have the fingerprint of the submitted one, or has its content. -/
theorem saved_iff (store : FileWorkspaceStore D) (payload : Payload) (ws : Workspace D)
    (haccepted : newFromPayload digest payload = .ok ws) (nowMs : Int) (err : Option String) :
    (∀ result, (saveWorkspace digest payload nowMs err store).2 = .ok result →
        result.saved = true → Holds (saveWorkspace digest payload nowMs err store).1 payload) ↔
      ∀ existing, store.load = .ok (some existing) →
        existing.fingerprint = digest (stream payload.layoutV6 payload.settings) →
        Carries existing payload := by
  obtain ⟨hcarries, hfingerprint⟩ := newFromPayload_eq_ok digest haccepted
  unfold saveWorkspace
  simp only [haccepted]
  cases hload : store.load with
  | error e =>
    refine iff_of_true (fun result hresult _ => ?_) (fun existing h => nomatch h)
    exact holds_writeWorkspace hcarries nowMs err store hresult
  | ok loaded =>
    cases loaded with
    | none =>
      refine iff_of_true (fun result hresult _ => ?_) (fun existing h => nomatch h)
      exact holds_writeWorkspace hcarries nowMs err store hresult
    | some existing =>
      by_cases hsame : ws.fingerprint = existing.fingerprint
      · -- The write is skipped.
        simp only [hasSameFingerprint, hsame, decide_true, if_true]
        constructor
        · intro h existing' hexisting' _
          cases hexisting'
          obtain ⟨stored, hstored, hholds⟩ := h _ rfl rfl
          rw [hload] at hstored
          cases hstored
          exact hholds
        · intro h result _ _
          exact ⟨existing, hload, h existing rfl (hsame.symm.trans hfingerprint)⟩
      · simp only [hasSameFingerprint, hsame, decide_false, Bool.false_eq_true, if_false]
        refine iff_of_true (fun result hresult _ => ?_) ?_
        · exact holds_writeWorkspace hcarries nowMs err store hresult
        · intro existing' hexisting' heq
          cases hexisting'
          exact absurd (hfingerprint.trans heq.symm) hsame

/-- Saving keeps the fingerprints derived. -/
theorem derived_saveWorkspace {store : FileWorkspaceStore D} (h : Derived digest store)
    (payload : Payload) (nowMs : Int) (err : Option String) :
    Derived digest (saveWorkspace digest payload nowMs err store).1 := by
  unfold saveWorkspace
  cases hnew : newFromPayload digest payload with
  | error p => exact h
  | ok ws =>
    have hws : ws.fingerprint = digest (stream ws.layoutV6 ws.settings) := by
      unfold newFromPayload at hnew
      split at hnew
      · cases hnew
      · cases hnew
        rfl
    simp only
    split
    · exact derived_writeWorkspace digest h hws nowMs err
    · exact derived_writeWorkspace digest h hws nowMs err
    · split_ifs
      · exact h
      · exact derived_writeWorkspace digest h hws nowMs err

end Saves

/-! ## Lost saves -/

/-- A save is reported. -/
def reported {D : Type} : Except Problem (SaveResult D) → Bool
  | .ok result => result.saved
  | .error _ => false

/-- A store after a first save, for the examples. -/
def savedStore (payload : Payload) : FileWorkspaceStore String :=
  (saveWorkspace fnvDigest payload 1 none ⟨none, true, none⟩).1

/-- One setting. -/
def oneSetting (k v : String) : GoMap String String := (∅ : GoMap String String).insert k v

/-- What is read from a store. -/
def stored {D α : Type} (store : FileWorkspaceStore D) (read : Workspace D → α) : Option α :=
  match store.load with
  | .ok (some ws) => some (read ws)
  | _ => none

theorem Holds.stored_eq
    {D α : Type} {store : FileWorkspaceStore D} {payload : Payload} {read : Workspace D → α} {a : α}
    (h : Holds store payload) (hread : ∀ ws, Carries ws payload → read ws = a) :
    stored store read = some a := by
  obtain ⟨ws, hload, hcarries⟩ := h
  unfold stored
  rw [hload]
  exact congrArg some (hread ws hcarries)

/-- A save with another layout is stored. -/
theorem saved_otherLayout :
    reported (saveWorkspace fnvDigest ⟨12, "V6b", ∅, 7⟩ 2 none (savedStore ⟨12, "V6a", ∅, 5⟩)).2 =
        true ∧
      Holds (saveWorkspace fnvDigest ⟨12, "V6b", ∅, 7⟩ 2 none (savedStore ⟨12, "V6a", ∅, 5⟩)).1
        ⟨12, "V6b", ∅, 7⟩ := by
  have hreported : reported (saveWorkspace fnvDigest ⟨12, "V6b", ∅, 7⟩ 2 none
      (savedStore ⟨12, "V6a", ∅, 5⟩)).2 = true := by
    decide +kernel
  have hcheck : payloadCheck ⟨12, "V6b", ∅, 7⟩ = none := by decide +kernel
  have haccepted : newFromPayload fnvDigest ⟨12, "V6b", ∅, 7⟩ =
      .ok ⟨12, "V6b", fnvDigest (stream "V6b" ∅), ∅, 7⟩ := by
    unfold newFromPayload
    rw [hcheck]
  have hother : stored (savedStore ⟨12, "V6a", ∅, 5⟩) Workspace.fingerprint ≠
      some (fnvDigest (stream "V6b" ∅)) := by
    decide +kernel
  refine ⟨hreported, ?_⟩
  cases hresult : (saveWorkspace fnvDigest ⟨12, "V6b", ∅, 7⟩ 2 none
      (savedStore ⟨12, "V6a", ∅, 5⟩)).2 with
  | error p =>
    rw [hresult] at hreported
    cases hreported
  | ok result =>
    rw [hresult] at hreported
    refine (saved_iff fnvDigest _ _ _ haccepted 2 none).mpr (fun existing hload heq => ?_)
      result hresult hreported
    refine absurd ?_ hother
    unfold stored
    rw [hload]
    exact congrArg some heq

/-- A save with a newer schema version, and one whose setting is split in another way, are
reported and not stored. -/
theorem not_holds_savedStore :
    (reported (saveWorkspace fnvDigest ⟨12, "V6", ∅, 7⟩ 2 none (savedStore ⟨11, "V6", ∅, 5⟩)).2 =
        true ∧
      ¬ Holds (saveWorkspace fnvDigest ⟨12, "V6", ∅, 7⟩ 2 none (savedStore ⟨11, "V6", ∅, 5⟩)).1
        ⟨12, "V6", ∅, 7⟩) ∧
    (reported (saveWorkspace fnvDigest ⟨12, "V6", oneSetting "ab" "c", 7⟩ 2 none
        (savedStore ⟨12, "V6", oneSetting "a" "bc", 5⟩)).2 = true ∧
      ¬ Holds (saveWorkspace fnvDigest ⟨12, "V6", oneSetting "ab" "c", 7⟩ 2 none
        (savedStore ⟨12, "V6", oneSetting "a" "bc", 5⟩)).1 ⟨12, "V6", oneSetting "ab" "c", 7⟩) := by
  refine ⟨⟨by decide +kernel, fun h => ?_⟩, ⟨by decide +kernel, fun h => ?_⟩⟩
  · have hversion := h.stored_eq fun ws hws => hws.schemaVersion
    revert hversion
    decide +kernel
  · have hsetting := h.stored_eq fun ws hws => hws.settings "ab"
    revert hsetting
    decide +kernel

end Workspaces
end StreamAnalytics
