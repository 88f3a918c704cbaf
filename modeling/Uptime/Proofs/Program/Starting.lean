import Uptime.Program
import Uptime.Proofs.Fleet.Launching
import Uptime.Proofs.Probe.Echoes
import Uptime.Proofs.Store.Seeding

/-!
# Starts

A start comes to a fleet with exactly one loop for every target of the store, unless an empty store
could not be filled (`Started`). All targets that are watched then come from the store, so no check
of theirs ever breaks off and no loop is lost (`answer_isSome`). A store with targets is left as it
is and its seed is not read, so that of any number of starts one at most brings targets in
(`start_serves`).
-/

namespace Uptime

namespace Program

variable {v : Surroundings} {s : Store} {ts us : List Target} {p : Program}

/-! ## One start -/

/-- The program when it has opened its store. -/
def opened (v : Surroundings) (s : Store) : Program where
  config := (Config.load v.setting).1
  store := s
  log := (Config.load v.setting).2 ++ [note "Starting pulsewatch...",
    note ("Using database at " ++ (Config.load v.setting).1.dbPath)] ++
    [note "Database initialized successfully"]

/-- What filling the store comes to in a start. -/
def filling (v : Surroundings) (s : Store) : Store.Filled :=
  s.fill (Config.load v.setting).1.seedPath ((Config.load v.setting).1.seedPath.bind v.file)

/-- The program when it has filled its store. -/
def filled (v : Surroundings) (s : Store) : Program :=
  { opened v s with store := (filling v s).store }.tell (filling v s).log

theorem start_opened (found : v.openStore (Config.load v.setting).1.dbPath = .ok s) :
    start v =
      match (prepare v (opened v s)).error, (prepare v (opened v s)).program.store.all with
      | some _, _ => prepare v (opened v s)
      | none, .error e => { prepare v (opened v s) with error := some (.store e) }
      | none, .ok ts => { program := (prepare v (opened v s)).program.launch ts } := by
  unfold start
  dsimp only
  rw [found]
  rfl

/-- A store with targets is not filled. -/
theorem start_of_targets (found : v.openStore (Config.load v.setting).1.dbPath = .ok s)
    (listed : s.all = .ok ts) (some : ts ≠ []) :
    start v = { program := (opened v s).launch ts } := by
  have ready : prepare v (opened v s) = { program := opened v s } := by
    have here : (opened v s).store.all = .ok ts := listed
    unfold prepare
    rw [here]
    split
    · next failed => cases failed
    · next none => exact absurd (Except.ok.inj none) some
    · rfl
  have here : (prepare v (opened v s)).program.store.all = .ok ts := by
    rw [ready]
    exact listed
  rw [start_opened found, here, ready]

/-- A store without targets is filled first. -/
theorem prepare_of_empty (listed : s.all = .ok []) : prepare v (opened v s) =
    match (filling v s).result with
    | .error e => { program := filled v s, error := some e }
    | .ok () => { program := filled v s } := by
  have here : (opened v s).store.all = .ok [] := listed
  unfold prepare
  rw [here]
  rfl

theorem start_of_failed (found : v.openStore (Config.load v.setting).1.dbPath = .ok s)
    (listed : s.all = .ok []) {e : SetupError} (failed : (filling v s).result = .error e) :
    start v = { program := filled v s, error := some e } := by
  rw [start_opened found, prepare_of_empty listed, failed]

theorem start_of_filled (found : v.openStore (Config.load v.setting).1.dbPath = .ok s)
    (listed : s.all = .ok []) (done : (filling v s).result = .ok ())
    (relisted : (filling v s).store.all = .ok us) :
    start v = { program := (filled v s).launch us } := by
  have here : (filled v s).store.all = .ok us := relisted
  rw [start_opened found, prepare_of_empty listed, done]
  dsimp only
  rw [here]

/-- The fleet has exactly one loop for every row of the targets. -/
structure Serves (p : Program) : Prop where
  /-- All targets of the store were offered to a new fleet, and as many were taken. -/
  launched : ∃ us, p.store.all = .ok us ∧
    ({} : Fleet).launch (us.map cycle) = (p.store.targets.rows.length, p.fleet)
  loops : p.fleet.loops.map (·.cycle.id) = p.store.targets.rows.map (·.id)
  running : p.fleet.running = p.store.targets.rows.map (·.id)
  ascending : p.fleet.running.Pairwise (· < ·)
  accepted : ∀ ticket name stopping, .refused ticket name stopping ∉ p.fleet.history
  /-- Each loop checks a target of its own. -/
  watched : ∀ l ∈ p.fleet.loops,
    ∃ w, p.watches[l.ticket]? = some w ∧ l.cycle = cycle w.monitor.target

/-- A launch of the targets of a store. -/
theorem serves_launch (new : p.fleet = {}) (keyed : p.store.targets.Keyed)
    (listed : p.store.all = .ok us) : (p.launch us).Serves := by
  have ids : (us.map cycle).map (·.id) = p.store.targets.rows.map (·.id) := by
    rw [List.map_map, ← Store.ids_of_rows (Store.rows_of_all listed).2]
    rfl
  have ascending : ((us.map cycle).map (·.id)).Pairwise (· < ·) := by
    rw [ids, List.pairwise_map]
    exact keyed
  have count : (us.map cycle).length = p.store.targets.rows.length := by
    simpa using congrArg List.length ids
  have fleet : (p.launch us).fleet = (({} : Fleet).launch (us.map cycle)).2 := by
    rw [← new]
    rfl
  have taken : ({} : Fleet).launch (us.map cycle) = _ :=
    Fleet.launch_eq (ascending.imp fun lt => Int64.ne_of_lt lt) fun _ _ => rfl
  have running := Fleet.running_launch ascending
  refine
    { launched := ⟨us, listed, ?_⟩
      loops := ?_
      running := ?_
      ascending := ?_
      accepted := fun ticket name stopping refused => ?_
      watched := fun l hl => ?_ }
  · show _ = (p.store.targets.rows.length, _)
    rw [fleet, taken, count]
  · rw [fleet, taken, Fleet.ids_taking, ids]
    rfl
  · rw [fleet, running, ids]
    rfl
  · rw [fleet, running]
    exact ascending
  · rw [fleet, taken, Fleet.mem_history_taking] at refused
    simp at refused
  · rw [fleet, taken] at hl
    obtain ⟨⟨c, ticket⟩, offered, rfl⟩ := List.mem_map.1 hl
    have place : (us.map cycle)[ticket]? = some c := List.mem_zipIdx_iff_getElem?.1 offered
    rw [List.getElem?_map] at place
    obtain ⟨u, at', rfl⟩ := Option.map_eq_some_iff.1 place
    refine ⟨{ monitor := { target := u } }, ?_, rfl⟩
    show (us.map fun t => ({ monitor := { target := t } } : Watch))[ticket]? = _
    rw [List.getElem?_map, at']
    rfl

/-- What a start comes to on a store that shows the targets `ts`. -/
structure Started (v : Surroundings) (s : Store) (ts : List Target) : Prop where
  /-- Nothing can fail but the filling of an empty store. -/
  passes : (start v).error = none ↔ (ts = [] → (filling v s).result = .ok ())
  serves : (start v).error = none → (start v).program.Serves
  /-- Only targets are brought in. -/
  changes : ∃ targets, (start v).program.store = { s with targets }
  kept : ts ≠ [] → (start v).program.store = s
  /-- What stands in the seed does not matter to a store with targets. -/
  unread : ts ≠ [] → ∀ file, start { v with file } = start v

theorem started_of_targets (found : v.openStore (Config.load v.setting).1.dbPath = .ok s)
    (keyed : s.targets.Keyed) (listed : s.all = .ok ts) (some : ts ≠ []) : Started v s ts := by
  have here := start_of_targets found listed some
  refine
    { passes := iff_of_true (congrArg Startup.error here) fun none => absurd none some
      serves := fun _ => ?_
      changes := ⟨s.targets, ?_⟩
      kept := fun _ => ?_
      unread := fun _ file => ?_ }
  · rw [here]
    exact serves_launch rfl keyed listed
  · rw [here]
    rfl
  · rw [here]
    rfl
  · rw [here]
    exact start_of_targets (v := { v with file }) found listed some

theorem started_of_empty (found : v.openStore (Config.load v.setting).1.dbPath = .ok s)
    (keyed : s.targets.Keyed) (listed : s.all = .ok []) : Started v s [] := by
  obtain ⟨qs, stored⟩ : ∃ qs, (filling v s).store = (s.addAll qs).2 := Store.exists_fill _ _ s
  obtain ⟨targets, changed⟩ := Store.addAll_changes s qs
  cases result : (filling v s).result with
  | error e =>
    have here := start_of_failed found listed result
    refine
      { passes := iff_of_false ?_ fun all => ?_
        serves := fun passed => ?_
        changes := ⟨targets, ?_⟩
        kept := fun some => absurd rfl some
        unread := fun some => absurd rfl some }
    · rw [here]
      exact nofun
    · rw [result] at all
      exact nomatch all rfl
    · rw [here] at passed
      cases passed
    · rw [here]
      exact stored.trans changed
  | ok done =>
    obtain ⟨us, relisted⟩ := Store.listed_addAll listed qs
    rw [← stored] at relisted
    have here := start_of_filled found listed result relisted
    have rekeyed := Store.keyed_addAll keyed qs
    rw [← stored] at rekeyed
    refine
      { passes := iff_of_true (congrArg Startup.error here) fun _ => result
        serves := fun _ => ?_
        changes := ⟨targets, ?_⟩
        kept := fun some => absurd rfl some
        unread := fun some => absurd rfl some }
    · rw [here]
      exact serves_launch rfl rekeyed relisted
    · rw [here]
      exact stored.trans changed

theorem started (found : v.openStore (Config.load v.setting).1.dbPath = .ok s)
    (keyed : s.targets.Keyed) (listed : s.all = .ok ts) : Started v s ts := by
  by_cases none : ts = []
  · subst none
    exact started_of_empty found keyed listed
  · exact started_of_targets found keyed listed none

/-! ## The loops after a start -/

/-- Every target that is watched stands in some store. -/
def Listed (p : Program) : Prop :=
  ∀ w ∈ p.watches, ∃ (s : Store) (ts : List Target), s.all = .ok ts ∧ w.monitor.target ∈ ts

theorem watches_prepare (v : Surroundings) (p : Program) :
    (prepare v p).program.watches = p.watches := by
  unfold prepare
  split
  · rfl
  · dsimp only
    split <;> rfl
  · rfl

theorem listed_start (v : Surroundings) : (start v).program.Listed := by
  have unwatched {p : Program} (none : p.watches = []) : p.Listed := by
    intro w hw
    rw [none] at hw
    cases hw
  unfold start
  generalize Config.load v.setting = settings
  obtain ⟨config, warnings⟩ := settings
  dsimp only
  split
  · exact unwatched rfl
  · split
    · exact unwatched (watches_prepare v _)
    · exact unwatched (watches_prepare v _)
    · next ts _ listed =>
      intro w hw
      obtain ⟨t, ht, rfl⟩ := List.mem_map.1 hw
      exact ⟨_, ts, listed, ht⟩

theorem watches_check (p : Program) (w : Watch) (world : World) :
    (p.check w world).2.watches = p.watches := rfl

/-- A check of a target of a store does not break off. -/
theorem brokenOff_check {w : Watch} (listed : s.all = .ok ts) (among : w.monitor.target ∈ ts)
    (p : Program) (world : World) : (p.check w world).1.brokenOff = false := by
  unfold check
  dsimp only
  split
  · rw [Monitor.brokenOff_checkBy]
    exact Target.settled_of_all listed among _
  · rw [Monitor.brokenOff_checkBy]
    exact Target.settled_of_all listed among _

/-- Checks change what is known about a target, but not the target. -/
theorem Listed.answer (h : p.Listed) (course : Course) (l : Fleet.Loop) :
    (p.answer course l).1.isSome = true ∧ (p.answer course l).2.Listed := by
  unfold Program.answer
  split
  · exact ⟨rfl, h⟩
  · next w _ found =>
    obtain ⟨s, ts, listed, among⟩ := h w (List.mem_of_getElem? found)
    have settled := brokenOff_check listed among p (course w.monitor.target w.checks)
    have kept := p.watches_check w (course w.monitor.target w.checks)
    generalize p.check w (course w.monitor.target w.checks) = checked at settled kept ⊢
    dsimp only
    rw [settled]
    refine ⟨rfl, fun x hx => ?_⟩
    rcases List.mem_or_eq_of_mem_set hx with old | rfl
    · exact h x (kept ▸ old)
    · exact ⟨s, ts, listed, among⟩
  · exact ⟨rfl, h⟩

theorem Listed.tick (h : p.Listed) (course : Course) : (p.tick course).Listed := by
  unfold Program.tick
  split
  · exact h
  · next l _ =>
    have kept := (h.answer course l).2
    generalize p.answer course l = answered at kept ⊢
    exact kept

theorem Listed.ticks (h : p.Listed) (course : Course) (n : Nat) :
    ((Program.tick course)^[n] p).Listed := by
  induction n generalizing p with
  | zero => exact h
  | succ n ih =>
    rw [Function.iterate_succ_apply]
    exact ih (h.tick course)

/-- However many moves the loops have made after a start, the next check does not break off. -/
theorem answer_isSome (v : Surroundings) (course : Course) (n : Nat) (l : Fleet.Loop) :
    (((tick course)^[n] (start v).program).answer course l).1.isSome = true :=
  (((listed_start v).ticks course n).answer course l).1

/-! ## Many starts -/

/-- From a start of the program to its end. -/
structure Session where
  setting : String → Option String
  file : String → Option (List UInt8)
  course : Course
  /-- The number of moves that its loops make. -/
  moves : Nat

/-- What a session finds around it when it starts; the file of the store is opened anew. -/
def Session.surroundings (x : Session) (s : Store) : Surroundings where
  setting := x.setting
  openStore _ := .ok s.reopen
  file := x.file

/-- The store that a session leaves behind. -/
def Session.leave (x : Session) (s : Store) : Store :=
  match (start (x.surroundings s)).error with
  | some _ => (start (x.surroundings s)).program.store
  | none => ((tick x.course)^[x.moves] (start (x.surroundings s)).program).store

/-- Whether a session brings targets in. -/
def Session.Imports (x : Session) (s : Store) : Prop := (x.leave s).targets ≠ s.targets

/-- The store after sessions, each of which opens what the one before left behind. -/
def leaveAll (xs : List Session) (s : Store) : Store := xs.foldl (fun s x => x.leave s) s

theorem targets_storeRecord (s : Store) (r : Record) :
    (storeRecord s r).2.targets = s.targets := by
  cases r with
  | hit h =>
    obtain ⟨hits, same⟩ := Store.addHit_changes s h
    rw [storeRecord, same]
  | failure f =>
    obtain ⟨failures, same⟩ := Store.addFailure_changes s f
    rw [storeRecord, same]

theorem targets_check (p : Program) (w : Watch) (world : World) :
    (p.check w world).2.store.targets = p.store.targets := by
  unfold check
  dsimp only
  split
  · exact targets_storeRecord _ _
  · rfl

theorem targets_answer (course : Course) (l : Fleet.Loop) (p : Program) :
    (p.answer course l).2.store.targets = p.store.targets := by
  unfold answer
  split
  · rfl
  · next w _ _ =>
    have kept := targets_check p w (course w.monitor.target w.checks)
    generalize p.check w (course w.monitor.target w.checks) = checked at kept ⊢
    dsimp only
    split
    · exact kept
    · exact kept
  · rfl

theorem targets_tick (course : Course) (p : Program) :
    (p.tick course).store.targets = p.store.targets := by
  unfold tick
  split
  · rfl
  · next l _ =>
    have kept := targets_answer course l p
    generalize p.answer course l = answered at kept ⊢
    exact kept

theorem targets_ticks (course : Course) (n : Nat) (p : Program) :
    ((tick course)^[n] p).store.targets = p.store.targets := by
  induction n generalizing p with
  | zero => rfl
  | succ n ih => rw [Function.iterate_succ_apply, ih, targets_tick]

/-- A start fills a store that shows no targets, and leaves every other one as it is. -/
theorem store_start (found : v.openStore (Config.load v.setting).1.dbPath = .ok s) :
    (start v).program.store = s ∨
      s.targets.rows = [] ∧ ∃ qs, (start v).program.store = (s.addAll qs).2 := by
  cases shown : s.all with
  | error e =>
    have here : (opened v s).store.all = .error e := shown
    refine .inl ?_
    rw [start_opened found, prepare, here]
    rfl
  | ok ts =>
    cases ts with
    | cons t ts =>
      refine .inl ?_
      rw [start_of_targets found shown (List.cons_ne_nil t ts)]
      rfl
    | nil =>
      obtain ⟨qs, stored⟩ : ∃ qs, (filling v s).store = (s.addAll qs).2 := Store.exists_fill _ _ s
      refine .inr ⟨(Store.empty_of_all shown).2, qs, ?_⟩
      rw [← stored, start_opened found, prepare_of_empty shown]
      cases (filling v s).result with
      | error e => rfl
      | ok done =>
        dsimp only
        split
        · rfl
        · rfl
        · rfl

/-- A session adds targets to a store without any, and leaves those of every other store alone. -/
theorem targets_leave (x : Session) (s : Store) :
    (x.leave s).targets = s.targets ∨
      s.targets.rows = [] ∧ ∃ qs, (x.leave s).targets = (s.reopen.addAll qs).2.targets := by
  have same : (x.leave s).targets = (start (x.surroundings s)).program.store.targets := by
    unfold Session.leave
    split
    · rfl
    · exact targets_ticks _ _ _
  rw [same]
  rcases store_start (v := x.surroundings s) (s := s.reopen) rfl with kept | ⟨none, qs, filled⟩
  · rw [kept]
    exact .inl rfl
  · exact .inr ⟨none, qs, congrArg Store.targets filled⟩

theorem leave_of_rows (x : Session) (some : s.targets.rows ≠ []) :
    (x.leave s).targets = s.targets :=
  (targets_leave x s).resolve_right fun filled => some filled.1

theorem leaveAll_of_rows (xs : List Session) (some : s.targets.rows ≠ []) :
    (leaveAll xs s).targets = s.targets := by
  induction xs generalizing s with
  | nil => rfl
  | cons x xs ih =>
    have same := leave_of_rows x some
    exact (ih (same ▸ some)).trans same

/-- A session that brings targets in leaves some behind. -/
theorem rows_of_imports {x : Session} (imports : x.Imports s) :
    (x.leave s).targets.rows ≠ [] := by
  rcases targets_leave x s with same | ⟨-, qs, filled⟩
  · exact absurd same imports
  · rcases Store.addAll_rows s.reopen qs with same | rows
    · rw [same] at filled
      exact absurd filled imports
    · rwa [filled]

/-- A store that shows its targets once its file is opened anew. -/
structure Ready (s : Store) : Prop where
  keyed : s.targets.Keyed
  listed : ∃ ts, s.reopen.all = .ok ts

theorem ready_of_all (keyed : s.targets.Keyed) (listed : s.all = .ok ts) : Ready s :=
  ⟨keyed, ts, Store.all_of_rows rfl (Store.rows_of_all listed).2⟩

theorem Ready.leave (ready : Ready s) (x : Session) : Ready (x.leave s) := by
  obtain ⟨keyed, ts, listed⟩ := ready
  have kept : s.reopen.targets.Keyed := keyed
  have all : ∀ us, (x.leave s).targets.rows.map Store.Row.target = us.map .ok →
      (x.leave s).reopen.all = .ok us := fun us shown => Store.all_of_rows rfl shown
  rcases targets_leave x s with same | ⟨-, qs, filled⟩
  · refine ⟨same ▸ keyed, ts, all ts ?_⟩
    rw [same]
    exact (Store.rows_of_all listed).2
  · obtain ⟨us, relisted⟩ := Store.listed_addAll listed qs
    refine ⟨?_, us, all us ?_⟩
    · rw [filled]
      exact Store.keyed_addAll kept qs
    · rw [filled]
      exact (Store.rows_of_all relisted).2

theorem Ready.leaveAll (ready : Ready s) (xs : List Session) : Ready (leaveAll xs s) := by
  induction xs generalizing s with
  | nil => exact ready
  | cons x xs ih => exact ih (ready.leave x)

/-- After a session that brought targets in there are some whenever a later one starts. -/
theorem not_imports_twice {x y : Session} (xs ys : List Session)
    (first : x.Imports (leaveAll xs s)) : ¬ y.Imports (leaveAll (xs ++ x :: ys) s) := by
  have rows := rows_of_imports first
  have split : leaveAll (xs ++ x :: ys) s = leaveAll ys (x.leave (leaveAll xs s)) := by
    rw [leaveAll, List.foldl_append]
    rfl
  have still : (leaveAll ys (x.leave (leaveAll xs s))).targets.rows ≠ [] := by
    rw [leaveAll_of_rows ys rows]
    exact rows
  rw [split]
  exact fun second => second (leave_of_rows y still)

/-- A start that gets past the filling of its store runs exactly one loop for every target, and so
does every further start on what is left behind. A store with targets is left as it is, whatever the
seed says, so that of any number of starts one at most brings targets in. -/
theorem start_serves (found : v.openStore (Config.load v.setting).1.dbPath = .ok s)
    (keyed : s.targets.Keyed) (listed : s.all = .ok ts) :
    Started v s ts ∧
      (∀ xs (x : Session), ∃ us, (leaveAll xs s).reopen.all = .ok us ∧
        Started (x.surroundings (leaveAll xs s)) (leaveAll xs s).reopen us) ∧
      ∀ xs ys (x y : Session), x.Imports (leaveAll xs s) →
        ¬ y.Imports (leaveAll (xs ++ x :: ys) s) := by
  refine ⟨started found keyed listed, fun xs x => ?_, fun xs ys x y => not_imports_twice xs ys⟩
  obtain ⟨still, us, relisted⟩ := (ready_of_all keyed listed).leaveAll xs
  exact ⟨us, relisted, started rfl still relisted⟩

/-- A store with two targets, of which one has an id below zero. -/
def peopled : Store where
  targets :=
    { rows := [Store.targetRow { id := -3, name := "low" },
        Store.targetRow { id := 7, name := "high" }],
      sequence := 7 }

/-- A start with a seed that is no text. -/
def unseeded (s : Store) : Surroundings where
  setting name := if name = "PULSEWATCH_SEED" then some "seed.json" else none
  openStore _ := .ok s
  file _ := some [255]

/-- A session without a seed. -/
def plain : Session where
  setting _ := none
  file _ := none
  course _ _ := .cutOff ⟨0, 0⟩
  moves := 0

/-- Both targets have their loops. Of two sessions on a new store the first adds the sample and the
second adds nothing. -/
theorem start_serves_peopled :
    (start (unseeded peopled)).error = none ∧
      (start (unseeded peopled)).program.fleet.running = [-3, 7] ∧
      plain.Imports {} ∧ ¬ plain.Imports (plain.leave {}) := by
  have keyed : peopled.targets.Keyed := by
    refine List.pairwise_pair.2 ?_
    decide
  have listed : peopled.all = .ok [{ id := -3, name := "low" }, { id := 7, name := "high" }] := by
    rfl
  obtain ⟨started, -, -⟩ := start_serves (v := unseeded peopled) rfl keyed listed
  obtain ⟨-, -, once⟩ := start_serves (v := unseeded {}) (s := {}) rfl .nil rfl
  have passed := started.passes.2 nofun
  have imports : plain.Imports {} := by
    intro same
    have rows : (plain.leave {}).targets.rows.length = 0 := by
      rw [same]
      rfl
    revert rows
    decide
  refine ⟨passed, ?_, imports, once [] [] plain plain imports⟩
  rw [(started.serves passed).running, started.kept (List.cons_ne_nil _ _)]
  rfl

end Program

end Uptime
