import Mathlib.Data.List.Forall2
import Uptime.Monitor

/-!
# What is published

Over a run of the recorder every published record is handed to the storage once and in order, and
announced right after that unless the storage broke off (`run_publishes`). How storage and notifier
take a record is nothing to the steps that follow.
-/

namespace Uptime

/-- The failure that a record tells of, if it tells of one. -/
def Record.failure? : Record → Option Failure
  | .hit _ => none
  | .failure f => some f

namespace Call

/-- The record that a call hands to the storage. -/
def stored? : Call → Option Record
  | .storeHit h => some (.hit h)
  | .storeFailure f => some (.failure f)
  | .onSuccess _ => none
  | .onFailure .. => none

/-- The target that a call announces, with its failure if it failed. -/
def announced? : Call → Option (Target × Option Failure)
  | .storeHit _ => none
  | .storeFailure _ => none
  | .onSuccess t => some (t, none)
  | .onFailure t f => some (t, some f)

@[simp] theorem stored?_store (r : Record) : (store r).stored? = some r := by cases r <;> rfl

@[simp] theorem stored?_announce (t : Target) (r : Record) : (announce t r).stored? = none := by
  cases r <;> rfl

@[simp] theorem announced?_store (r : Record) : (store r).announced? = none := by cases r <;> rfl

@[simp] theorem announced?_announce (t : Target) (r : Record) :
    (announce t r).announced? = some (t, r.failure?) := by
  cases r <;> rfl

end Call

namespace Recorder

variable (c : RecorderConfig) (t : Target) (s : Status)

/-- Whether a record that the storage takes in this way is announced. -/
def announces (storage : Reply) : Bool := c.notifications && storage != .broken

/-- The storage is called first, and then the notifier. -/
theorem calls_publish (a : Replies) (r : Record) :
    (publish c a.storage a.notifier t r).calls =
      .store r :: if announces c a.storage then [.announce t r] else [] := by
  have announced : ∀ n, (announce n t r).calls = [.announce t r] := by
    rintro (_ | _ | _ | _) <;> rfl
  obtain ⟨storage, n⟩ := a
  cases on : c.notifications <;> cases storage <;> simp [publish, announces, on, announced]

/-! ## One step -/

/-- What a step does about its record. -/
structure Step.Follows (w : Task × Replies) (k : Step) : Prop where
  recorded : k.record.isSome = w.1.recorded
  published : k.published = if w.1.published then k.record else none
  calls : k.publication.calls = match k.published with
    | none => []
    | some r => .store r :: if announces c w.2.storage then [.announce t r] else []

theorem step_follows (w : Task) (a : Replies) : (step c t s w a).Follows c t (w, a) := by
  obtain ⟨now, outcome, recorded, published⟩ := w
  cases recorded with
  | false => exact ⟨rfl, (ite_self none).symm, rfl⟩
  | true =>
    cases published with
    | false => exact ⟨rfl, rfl, rfl⟩
    | true => exact ⟨rfl, rfl, calls_publish c t a _⟩

variable {c t} in
/-- A step hands what it publishes to the storage and nothing else. -/
theorem Step.Follows.stored {w : Task × Replies} {k : Step} (h : k.Follows c t w) :
    k.publication.calls.filterMap Call.stored? = k.published.toList := by
  rw [h.calls]
  cases k.published with
  | none => rfl
  | some r => cases announces c w.2.storage <;> simp

/-- What a step tells apart from the calls. -/
def Step.told (k : Step) : Status × Option Record × Option Record :=
  (k.status, k.record, k.published)

/-- The replies decide nothing but the calls. -/
theorem told_step (w : Task) (a b : Replies) : (step c t s w a).told = (step c t s w b).told := by
  obtain ⟨now, outcome, recorded, published⟩ := w
  cases recorded <;> cases published <;> rfl

/-! ## A whole run -/

/-- The calls of a run. -/
def calls (ks : List Step) : List Call := ks.flatMap (·.publication.calls)

/-- What is announced of a run if anything is: each published record that the storage did not break
off at. -/
def heard (ws : List (Task × Replies)) (ks : List Step) : List (Target × Option Failure) :=
  (ws.zip ks).filterMap fun (w, k) =>
    if w.2.storage = .broken then none else k.published.map fun r => (t, r.failure?)

/-- The status after a run. -/
def after (ws : List (Task × Replies)) : Status :=
  ws.foldl (fun s w => (step c t s w.1 w.2).status) s

theorem calls_cons (k : Step) (ks : List Step) :
    calls (k :: ks) = k.publication.calls ++ calls ks := rfl

variable {c t s} {ws vs : List (Task × Replies)}

theorem run_follows : List.Forall₂ (Step.Follows c t) ws (run c t s ws) := by
  induction ws generalizing s with
  | nil => exact .nil
  | cons w ws ih => exact .cons (step_follows c t s w.1 w.2) ih

theorem length_run : (run c t s ws).length = ws.length := run_follows.length_eq.symm

theorem run_append : run c t s (ws ++ vs) = run c t s ws ++ run c t (after c t s ws) vs := by
  induction ws generalizing s with
  | nil => rfl
  | cons w ws ih => exact congrArg (_ :: ·) ih

/-- The storage gets what is published. -/
theorem filterMap_stored? {ks : List Step} (h : List.Forall₂ (Step.Follows c t) ws ks) :
    (calls ks).filterMap Call.stored? = ks.filterMap (·.published) := by
  induction h with
  | nil => rfl
  | @cons w k ws ks first _ ih =>
    rw [calls_cons, List.filterMap_append, first.stored, ih]
    cases published : k.published <;> simp [published]

/-- The notifier hears of what the storage did not break off at. -/
theorem filterMap_announced? {ks : List Step} (h : List.Forall₂ (Step.Follows c t) ws ks) :
    (calls ks).filterMap Call.announced? = if c.notifications then heard t ws ks else [] := by
  induction h with
  | nil => exact (ite_self []).symm
  | @cons w k ws ks first _ ih =>
    rw [calls_cons, List.filterMap_append, first.calls, ih]
    cases published : k.published with
    | none => simp [heard, published]
    | some r =>
      by_cases on : c.notifications <;> by_cases broken : w.2.storage = .broken <;>
        simp [heard, announces, published, on, broken]

/-- A run tells the same, and leaves the same status, as if storage and notifier took everything. -/
theorem told_run :
    (run c t s ws).map Step.told = (run c t s ((ws.map (·.1)).map (·, {}))).map Step.told ∧
      after c t s ws = after c t s ((ws.map (·.1)).map (·, {})) := by
  induction ws generalizing s with
  | nil => exact ⟨rfl, rfl⟩
  | cons w ws ih =>
    have told := told_step c t s w.1 w.2 {}
    have status : (step c t s w.1 w.2).status = (step c t s w.1 {}).status := congrArg Prod.fst told
    -- The rest goes on from the status of the real step, which is that of the undisturbed one.
    obtain ⟨told', after'⟩ := ih (s := (step c t s w.1 w.2).status)
    rw [status] at told' after'
    constructor
    · simp only [run, List.map_cons, told, told', status]
    · exact (congrArg (after c t · ws) status).trans after'

/-- The storage gets the published records in order, each once and by the call of its kind. If
announcements are on, the notifier hears of each that the storage did not break off at, right after
the storage had it. However storage and notifier take the records of a run, it tells the same, and
the steps that follow it are the same throughout. -/
theorem run_publishes (c : RecorderConfig) (t : Target) (s : Status) (ws : List (Task × Replies)) :
    (calls (run c t s ws)).filterMap Call.stored? = (run c t s ws).filterMap (·.published) ∧
      (calls (run c t s ws)).filterMap Call.announced? =
        (if c.notifications then heard t ws (run c t s ws) else []) ∧
      List.Forall₂ (Step.Follows c t) ws (run c t s ws) ∧
      ∀ ws' vs : List (Task × Replies), ws'.map (·.1) = ws.map (·.1) →
        (run c t s ws').map Step.told = (run c t s ws).map Step.told ∧
          (run c t s (ws' ++ vs)).drop ws.length = (run c t s (ws ++ vs)).drop ws.length := by
  refine ⟨filterMap_stored? run_follows, filterMap_announced? run_follows, run_follows, ?_⟩
  intro ws' vs same
  have long : ws'.length = ws.length := by simpa using congrArg List.length same
  have drop : ∀ us : List (Task × Replies),
      (run c t s (us ++ vs)).drop us.length = run c t (after c t s us) vs := fun us => by
    rw [run_append, List.drop_left' length_run]
  constructor
  · rw [told_run.1, same, ← told_run.1]
  · rw [drop ws, ← long, drop ws', told_run.2, same, ← told_run.2]

/-- Two failures in a row, with the replies that their records get. -/
def lostTwice (a b : Replies) : List (Task × Replies) :=
  let lost : Outcome := ({} : Outcome).failed "no answer"
  [({ now := ⟨0, 0⟩, outcome := lost }, a), ({ now := ⟨60, 0⟩, outcome := lost }, b)]

/-- A storage that breaks off and then fails, and a notifier that breaks off: both records are
handed over, the second is announced, and the check that follows is as if nothing had happened. -/
theorem run_publishes_lostTwice :
    let ws := lostTwice { storage := .broken }
      { storage := .failed "full", notifier := .external .broken }
    let next : List (Task × Replies) := [({ now := ⟨120, 0⟩, outcome := {} }, {})]
    (lostTwice {} {}).map (·.1) = ws.map (·.1) ∧
      ((calls (run {} {} {} ws)).filterMap Call.stored?).length = 2 ∧
      ((calls (run {} {} {} ws)).filterMap Call.announced?).length = 1 ∧
      (run {} {} {} (lostTwice {} {} ++ next)).drop 2 = (run {} {} {} (ws ++ next)).drop 2 := by
  intro ws next
  obtain ⟨stored, announced, -, later⟩ := run_publishes {} {} {} ws
  refine ⟨rfl, ?_, ?_, (later (lostTwice {} {}) next rfl).2⟩
  · rw [stored]
    rfl
  · rw [announced]
    rfl

end Recorder

end Uptime
