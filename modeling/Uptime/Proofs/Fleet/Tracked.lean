import Uptime.Proofs.Fleet.Lane

/-!
# What the operations of a fleet are for one target

Every operation of a fleet is for the lane of an id what it is there alone if it concerns the id,
and nothing otherwise: cycles that are offered (`Tracked.addAll`), loops that are told to stop
(`Tracked.lane_stop`), and time that passes (`Tracked.sleep`), in which the moves of the other loops
go unnoticed.
-/

namespace Uptime.Fleet

/-- What was tracked of an id in a fleet: the numbers of all its cycles. -/
structure Tracked (id : Int64) (numbers : List Nat) (f : Fleet) : Prop where
  sound : Sound f
  paced : Paced f
  nodup : numbers.Nodup
  old : ∀ n ∈ numbers, n < f.offered
  own : ∀ l ∈ f.loops, l.ticket ∈ numbers ↔ l.cycle.id = id
  /-- Nothing was taken down yet for cycles to come. -/
  fresh : ∀ n, f.offered ≤ n → f.report n = []

/-- The numbers of the cycles of an id, if cycles are offered from a number on. -/
def numbersOf (id : Int64) : Nat → List Cycle → List Nat
  | _, [] => []
  | n, c :: cs => if c.id = id then n :: numbersOf id (n + 1) cs else numbersOf id (n + 1) cs

theorem numbersOf_append (id : Int64) (n : Nat) (cs ds : List Cycle) :
    numbersOf id n (cs ++ ds) = numbersOf id n cs ++ numbersOf id (n + cs.length) ds := by
  induction cs generalizing n with
  | nil => rfl
  | cons c cs ih =>
    have next : n + 1 + cs.length = n + (c :: cs).length := by
      rw [List.length_cons]
      omega
    simp only [List.cons_append, numbersOf, ih, next]
    split <;> rfl

/-- Among lists that are told apart by their keys, one grows at its place. -/
theorem map_eq_modify {α : Type} {numbers : List Nat} (nodup : numbers.Nodup) (n : Nat)
    {before after : Nat → List α} {more : List α}
    (grows : ∀ k, after k = before k ++ if n = k then more else []) :
    numbers.map after = (numbers.map before).modify (numbers.idxOf n) (· ++ more) := by
  refine List.ext_getElem? fun i => ?_
  rw [List.getElem?_modify, List.getElem?_map, List.getElem?_map]
  rcases found : numbers[i]? with _ | k
  · rfl
  · obtain ⟨within, here⟩ := List.getElem?_eq_some_iff.1 found
    have place : numbers.idxOf n = i ↔ n = k := by
      constructor
      · rintro rfl
        have member : n ∈ numbers := List.idxOf_lt_length_iff.1 within
        exact Option.some.inj ((List.getElem?_idxOf member).symm.trans found)
      · rintro rfl
        rw [← here]
        exact nodup.idxOf_getElem i within
    simp only [Option.map_some, Option.map_eq_map, grows, place]
    split
    · rfl
    · rw [List.append_nil]

namespace Tracked

variable {id : Int64} {numbers : List Nat} {f g : Fleet} {l : Loop} {limit : Duration}

theorem empty (id : Int64) : Tracked id [] {} := by
  refine ⟨.empty, nofun, .nil, nofun, nofun, fun _ _ => rfl⟩

theorem note (h : Tracked id numbers f) (count : Nat) :
    Tracked id numbers (f.note (.launching count)) where
  sound := h.sound.note _
  paced := h.paced
  nodup := h.nodup
  old := h.old
  own := h.own
  fresh := fun n later => (report_note rfl f).trans (h.fresh n later)

/-! ### Cycles that are offered -/

theorem add (h : Tracked id numbers f) (c : Cycle) :
    Tracked id (numbers ++ numbersOf id f.offered [c]) (f.add c).2 := by
  have new : ∀ n ∈ numbersOf id f.offered [c], n = f.offered ∧ c.id = id := by
    intro n hn
    simp only [numbersOf] at hn
    split at hn
    · next own => exact ⟨List.mem_singleton.1 hn, own⟩
    · cases hn
  refine
    { sound := h.sound.add c
      paced := h.paced.add c
      nodup := ?_
      old := fun n hn => ?_
      own := fun l hl => ?_
      fresh := fun n later => ?_ }
  · refine List.nodup_append.2 ⟨h.nodup, ?_, fun n hn k hk same => ?_⟩
    · simp only [numbersOf]
      split <;> simp
    · have fewer := h.old n hn
      have last := (new k hk).1
      omega
  · rw [offered_add]
    rcases List.mem_append.1 hn with hn | hn
    · exact Nat.lt_succ_of_lt (h.old n hn)
    · rw [(new n hn).1]
      exact Nat.lt_succ_self _
  · rw [List.mem_append]
    rcases mem_add hl with old | rfl
    · rw [← h.own l old]
      have other : l.ticket ∉ numbersOf id f.offered [c] := fun hn =>
        absurd (new _ hn).1 (Nat.ne_of_lt (h.sound.offered l old))
      exact or_iff_left other
    · have unknown : f.offered ∉ numbers := fun hn => Nat.lt_irrefl _ (h.old _ hn)
      show f.offered ∈ numbers ∨ f.offered ∈ numbersOf id f.offered [c] ↔ c.id = id
      rw [or_iff_right unknown]
      by_cases mine : c.id = id
      · simp [numbersOf, mine]
      · simp [numbersOf, mine]
  · rw [offered_add] at later
    rw [report_add]
    exact h.fresh n (by omega)

theorem lane_add (h : Tracked id numbers f) (c : Cycle) :
    lane id (numbers ++ numbersOf id f.offered [c]) (f.add c).2 =
      if c.id = id then (lane id numbers f).add c else lane id numbers f := by
  by_cases own : c.id = id
  · have unknown : f.offered ∉ numbers := fun hn => Nat.lt_irrefl _ (h.old _ hn)
    have last : (numbers ++ [f.offered]).idxOf f.offered = numbers.length := by
      rw [List.idxOf_append_of_notMem unknown, List.idxOf_cons_self, Nat.add_zero]
    have none : f.report f.offered = [] := h.fresh _ (Nat.le_refl _)
    simp only [numbersOf, if_pos own, lane, Lane.add, h.sound.holder?_add, now_add, report_add,
      List.map_append, List.length_map, List.map_cons, List.map_nil, none]
    congr 1
    cases found : f.holder? id with
    | none =>
      rw [Option.none_or, Option.map_some, Option.map_none, Option.none_or]
      exact congrArg (fun n => some (Loop.spawn n c)) last
    | some l =>
      obtain ⟨hl, mine⟩ := mem_of_holder? found
      rw [Option.some_or, Option.map_some, Option.map_some, Option.some_or,
        List.idxOf_append_of_mem ((h.own l hl).2 mine)]
  · simp only [numbersOf, if_neg own, lane, h.sound.holder?_add, now_add, report_add,
      List.append_nil, Option.or_none]

/-- Cycles that are offered one after the other find the lane as the ones before left it. -/
theorem addAll (h : Tracked id numbers f) (cs : List Cycle) :
    Tracked id (numbers ++ numbersOf id f.offered cs) (Fleet.addAll cs f).2 ∧
      lane id (numbers ++ numbersOf id f.offered cs) (Fleet.addAll cs f).2 =
        (cs.filter (·.id == id)).foldl (fun v c => v.add c) (lane id numbers f) := by
  induction cs generalizing numbers f with
  | nil =>
    rw [numbersOf, List.append_nil]
    exact ⟨h, rfl⟩
  | cons c cs ih =>
    obtain ⟨tracked, same⟩ := ih (h.add c)
    have numbered : numbers ++ numbersOf id f.offered (c :: cs) =
        numbers ++ numbersOf id f.offered [c] ++ numbersOf id (f.add c).2.offered cs := by
      rw [offered_add, List.append_assoc]
      exact congrArg _ (numbersOf_append id f.offered [c] cs)
    rw [numbered]
    refine ⟨tracked, same.trans ?_⟩
    rw [h.lane_add]
    by_cases own : c.id = id
    · simp [own]
    · simp [own]

/-! ### Loops that are told to stop -/

/-- What the loops hear changes nothing that was tracked. -/
theorem hearing (h : Tracked id numbers f) {a : Action} (sound : Sound g)
    (loops : g.loops = f.loops.map (·.hearing a)) (now : g.now = f.now)
    (offered : g.offered = f.offered) (report : ∀ n, g.report n = f.report n) :
    Tracked id numbers g where
  sound := sound
  paced := h.paced.hearing loops now
  nodup := h.nodup
  old := by rw [offered]; exact h.old
  own := by
    rw [loops, List.forall_mem_map]
    intro l hl
    rw [l.ticket_hearing, l.cycle_hearing]
    exact h.own l hl
  fresh := by
    rw [offered]
    exact fun n later => (report n).trans (h.fresh n later)

theorem stop (h : Tracked id numbers f) (i : Int64) : Tracked id numbers (f.stop i).2 :=
  h.hearing (h.sound.stop i) (h.sound.loops_stop i) (now_stop i f) (offered_stop i f)
    fun n => report_stop n i f

theorem stopAll (h : Tracked id numbers f) : Tracked id numbers f.stopAll :=
  h.hearing h.sound.stopAll h.sound.loops_stopAll rfl rfl fun n => report_stopAll n f

theorem lane_stop (h : Tracked id numbers f) (i : Int64) :
    lane id numbers (f.stop i).2 =
      if i = id then (lane id numbers f).signal else lane id numbers f := by
  have heard : (f.stop i).2.holder? id =
      if i = id then (f.holder? id).map Loop.signal else f.holder? id := by
    rw [h.sound.holder?_stop]
    cases found : f.holder? id with
    | none => simp
    | some l =>
      have mine := (mem_of_holder? found).2
      by_cases own : i = id
      · simp [Loop.hearing, own, mine]
      · simp [Loop.hearing, own, mine, Ne.symm own]
  by_cases own : i = id
  · rw [if_pos own] at heard ⊢
    simp only [lane, Lane.signal, heard, now_stop, report_stop, Option.map_map]
    rfl
  · rw [if_neg own] at heard ⊢
    simp only [lane, heard, now_stop, report_stop]

theorem lane_stopAll (h : Tracked id numbers f) :
    lane id numbers f.stopAll = (lane id numbers f).signal := by
  simp only [lane, Lane.signal, h.sound.holder?_stopAll, report_stopAll, Option.map_map]
  rfl

/-! ### While the fleet sleeps -/

/-- The next move of any loop, at its time. -/
theorem hop (h : Tracked id numbers f) (hl : l ∈ f.loops)
    (least : ∀ k ∈ f.loops, dueAt f.now l ≤ dueAt f.now k) :
    Tracked id numbers ((f.advanceTo (dueAt f.now l)).move l) where
  sound := (h.sound.advanceTo _).move hl
  paced := (h.paced.advanceTo least).move (h.sound.advanceTo _) hl (dueAt_advanceTo l f)
  nodup := h.nodup
  old := by rw [offered_move]; exact h.old
  own := by
    intro k hk
    rcases ((h.sound.advanceTo _).mem_move hl).1 hk with ⟨old, -⟩ | new
    · exact h.own k old
    · rw [Loop.moved_eq_some new, Loop.ticket_step, Loop.cycle_step]
      exact h.own l hl
  fresh := by
    rw [offered_move]
    intro n later
    have fewer : l.ticket < n := Nat.lt_of_lt_of_le (h.sound.offered l hl) later
    rw [report_move, if_neg (Nat.ne_of_lt fewer), List.append_nil]
    exact h.fresh n later

/-- In time with its loops, a fleet moves its clock to the next move. -/
theorem now_hop (h : Tracked id numbers f) (hl : l ∈ f.loops) :
    (f.advanceTo (dueAt f.now l)).now = dueAt f.now l := by
  have due : f.now ≤ dueAt f.now l := (h.paced l hl).due
  unfold advanceTo
  dsimp only
  split
  · rfl
  · next reached => exact Duration.ext_iff.2 (Nat.le_antisymm due (Nat.le_of_not_lt reached))

/-- The next move of the loop of the id is the next move in its lane, -/
theorem lane_hop (h : Tracked id numbers f) (hl : l ∈ f.loops) (own : l.cycle.id = id) :
    lane id numbers ((f.advanceTo (dueAt f.now l)).move l) =
      (lane id numbers f).hop (l.renumber (numbers.idxOf l.ticket)) := by
  have holder := (h.sound.advanceTo (dueAt f.now l)).holder?_move hl id
  rw [if_pos (beq_iff_eq.2 own), h.now_hop hl] at holder
  have reports := map_eq_modify h.nodup l.ticket fun n =>
    report_move n l (f.advanceTo (dueAt f.now l))
  rw [h.now_hop hl] at reports
  simp only [lane, Lane.hop, holder, now_move, h.now_hop hl, reports, Loop.dueAt_renumber,
    Loop.step_renumber, Loop.moved_renumber]
  congr 1
  cases moved : l.moved (dueAt f.now l) with
  | none => rfl
  | some k =>
    rw [Option.map_some, Option.map_some, Loop.moved_eq_some moved, Loop.ticket_step]

/-- and to the lane the next move of another loop only makes time pass. -/
theorem lane_hop_other (h : Tracked id numbers f) (hl : l ∈ f.loops) (other : l.cycle.id ≠ id) :
    lane id numbers ((f.advanceTo (dueAt f.now l)).move l) =
      { lane id numbers f with now := dueAt f.now l } := by
  have holder := (h.sound.advanceTo (dueAt f.now l)).holder?_move hl id
  rw [if_neg (by simpa using other)] at holder
  have unknown : l.ticket ∉ numbers := fun hn => other ((h.own l hl).1 hn)
  have reports : numbers.map ((f.advanceTo (dueAt f.now l)).move l).report =
      numbers.map f.report := by
    refine List.map_congr_left fun n hn => ?_
    have apart : l.ticket ≠ n := fun same => unknown (same ▸ hn)
    rw [report_move, if_neg apart, List.append_nil]
    rfl
  simp only [lane, holder, now_move, h.now_hop hl, reports]
  rfl

/-- If no move is due until a limit, time passes in the lane without any. -/
theorem lane_free (now : f.now ≤ limit) (free : ∀ l ∈ f.loops, limit < dueAt f.now l)
    (fuel : Nat) :
    (lane id numbers f).passUntil limit fuel = { lane id numbers f with now := limit } := by
  have beyond : ∀ l ∈ (lane id numbers f).loop?, limit < dueAt f.now l := by
    intro l found
    obtain ⟨k, holder, rfl⟩ := Option.map_eq_some_iff.1 found
    exact free k (mem_of_holder? holder).1
  refine Lane.passUntil_free beyond (fun l found ended => ?_) fuel
  have later := beyond l found
  rw [dueAt_exited ended] at later
  exact Nat.lt_irrefl _ (Nat.lt_of_lt_of_le later now)

/-- The moves until a limit begin with the next one, and the lane does not notice that of another
loop. -/
theorem passUntil_hop (h : Tracked id numbers f) (hl : l ∈ f.loops)
    (least : ∀ k ∈ f.loops, dueAt f.now l ≤ dueAt f.now k) (within : dueAt f.now l ≤ limit)
    {fuel : Nat} (lasts : ∀ k ∈ f.holder? id, k.budget limit f.now ≤ fuel) :
    ∃ rest, (∀ k ∈ ((f.advanceTo (dueAt f.now l)).move l).holder? id,
        k.budget limit (dueAt f.now l) ≤ rest) ∧
      (lane id numbers f).passUntil limit fuel =
        (lane id numbers ((f.advanceTo (dueAt f.now l)).move l)).passUntil limit rest := by
  have holder := (h.sound.advanceTo (dueAt f.now l)).holder?_move hl id
  rw [h.now_hop hl] at holder
  by_cases own : l.cycle.id = id
  · rw [if_pos (beq_iff_eq.2 own)] at holder
    have mine : f.holder? id = some l := own ▸ h.sound.holder?_eq hl
    have enough := lasts l mine
    have pos := l.budget_pos limit f.now
    obtain ⟨rest, rfl⟩ : ∃ rest, fuel = rest + 1 := ⟨fuel - 1, by omega⟩
    refine ⟨rest, fun k found => ?_, ?_⟩
    · rw [holder] at found
      have there : l.Paced (dueAt f.now l) := (h.paced l hl).later (Nat.le_refl _)
      have falls := Loop.budget_step there (Nat.le_of_eq (congrArg _ (dueAt_dueAt f.now l))) within
      have before : l.budget limit (dueAt f.now l) ≤ l.budget limit f.now :=
        l.budget_mono (h.paced l hl).due
      rw [found, Option.elim] at falls
      omega
    · rw [h.lane_hop hl own]
      have found : (lane id numbers f).loop? =
          some (l.renumber (numbers.idxOf l.ticket)) := by rw [lane, mine, Option.map_some]
      exact Lane.passUntil_hop found within rest
  · rw [if_neg (by simpa using own)] at holder
    refine ⟨fuel, fun k found => ?_, ?_⟩
    · rw [holder] at found
      exact Nat.le_trans (k.budget_mono (h.paced l hl).due) (lasts k found)
    · rw [h.lane_hop_other hl own]
      refine (Lane.passUntil_later (h.paced l hl).due (fun k found => ?_) fuel).symm
      obtain ⟨k, holder, rfl⟩ := Option.map_eq_some_iff.1 found
      exact least k (mem_of_holder? holder).1

/-- While the moves are made that are due until a limit, time passes in the lane. -/
theorem lane_runUntil (fuel : Nat) (h : Tracked id numbers f) (now : f.now ≤ limit)
    (enough : Loop.budgets limit f.now f.loops ≤ fuel) (plenty : Nat)
    (lasts : ∀ l ∈ f.holder? id, l.budget limit f.now ≤ plenty) :
    Tracked id numbers (runUntil limit fuel f) ∧
      ({ lane id numbers (runUntil limit fuel f) with now := limit } : Lane) =
        (lane id numbers f).passUntil limit plenty := by
  -- What is left to do in the lane after some moves is what was left before them, with less fuel.
  obtain ⟨⟨tracked, rest, -, same⟩, now, free⟩ :=
    runUntil_keeps
      (P := fun g => Tracked id numbers g ∧ ∃ rest,
        (∀ l ∈ g.holder? id, l.budget limit g.now ≤ rest) ∧
          (lane id numbers f).passUntil limit plenty = (lane id numbers g).passUntil limit rest)
      fuel h.sound h.paced now enough
      (by
        rintro g l - - hl least within ⟨tracked, rest, lasts, same⟩
        obtain ⟨less, lasts, next⟩ := tracked.passUntil_hop hl least within lasts
        rw [now_move, tracked.now_hop hl]
        exact ⟨tracked.hop hl least, less, lasts, same.trans next⟩)
      ⟨h, plenty, lasts, rfl⟩
  exact ⟨tracked, (same.trans (lane_free now free rest)).symm⟩

/-- To sleep is for a lane to let time pass. -/
theorem sleep (h : Tracked id numbers f) (d : Duration) :
    Tracked id numbers (f.sleep d) ∧
      lane id numbers (f.sleep d) =
        (lane id numbers f).passUntil (f.now + d) (Loop.moveBound (f.now + d)) := by
  have now : f.now ≤ f.now + d := Nat.le_add_right _ _
  obtain ⟨tracked, same⟩ := h.lane_runUntil _ now (Loop.budgets_le (f.now + d) f.now f.loops)
    (Loop.moveBound (f.now + d)) fun l _ => l.budget_le _ _
  obtain ⟨as, timely, performed, -⟩ := sleep_eq h.sound h.paced d
  have kept : Sound (f.sleep d) ∧ Paced (f.sleep d) := by
    rw [← performed]
    exact Timely.keeps (P := fun _ f => Sound f ∧ Paced f)
      (fun _ _ _ timely h => Paced.apply h timely) [] f ⟨h.sound, h.paced⟩ timely
  exact ⟨⟨kept.1, kept.2, tracked.nodup, tracked.old, tracked.own, tracked.fresh⟩, same⟩

end Tracked

end Uptime.Fleet
