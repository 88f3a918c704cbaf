import Mathlib.Data.List.Nodup
import Uptime.Proofs.Fleet.Action

/-!
# Slots and loops

In every history the slots are those of the loops that are not cleared away yet, and no two of these
loops have one id (`Sound`). Adding, stopping, moving and clearing change slots and loops in
different steps; each of them keeps `Sound`, so the slot of an id that an ending loop clears is its
own.
-/

namespace Uptime.Fleet

/-- The slot that belongs to a loop. -/
def Loop.slot (l : Loop) : Slot :=
  { id := l.cycle.id, ticket := l.ticket, stopping := l.channel.sent }

/-- The loop of an id that is not cleared away yet. -/
def holder? (id : Int64) (f : Fleet) : Option Loop := f.loops.find? (·.cycle.id == id)

/-- What holds of slots and loops in every history. -/
structure Sound (f : Fleet) : Prop where
  slots : f.slots = f.loops.map Loop.slot
  ids : (f.loops.map (·.cycle.id)).Nodup
  tickets : (f.loops.map (·.ticket)).Nodup
  offered : ∀ l ∈ f.loops, l.ticket < f.offered
  /-- The slot of a loop keeps the sending end of the loop's channel. -/
  senders : ∀ l ∈ f.loops, l.channel.senders = 1

/-- A member of a list without repeated keys is found by its key. -/
theorem find?_key {α κ : Type} [BEq κ] [LawfulBEq κ] {key : α → κ} {xs : List α}
    (nodup : (xs.map key).Nodup) {x : α} (hx : x ∈ xs) : xs.find? (key · == key x) = some x := by
  obtain ⟨y, hy⟩ : ∃ y, xs.find? (key · == key x) = some y := by
    rw [← Option.isSome_iff_exists, List.find?_isSome]
    exact ⟨x, hx, by simp⟩
  have same : key y = key x := by simpa using List.find?_some hy
  rw [hy, List.inj_on_of_nodup_map nodup (List.mem_of_find?_eq_some hy) hx same]

theorem find?_key_eq_some_iff {α κ : Type} [BEq κ] [LawfulBEq κ] {key : α → κ} {xs : List α}
    (nodup : (xs.map key).Nodup) {x : α} {k : κ} :
    xs.find? (key · == k) = some x ↔ x ∈ xs ∧ key x = k := by
  constructor
  · exact fun found => ⟨List.mem_of_find?_eq_some found, by simpa using List.find?_some found⟩
  · rintro ⟨hx, rfl⟩
    exact find?_key nodup hx

theorem mem_of_loop? {f : Fleet} {ticket : Nat} {l : Loop} (h : f.loop? ticket = some l) :
    l ∈ f.loops ∧ l.ticket = ticket :=
  ⟨List.mem_of_find?_eq_some h, by simpa using List.find?_some h⟩

theorem mem_of_holder? {f : Fleet} {id : Int64} {l : Loop} (h : f.holder? id = some l) :
    l ∈ f.loops ∧ l.cycle.id = id :=
  ⟨List.mem_of_find?_eq_some h, by simpa using List.find?_some h⟩

theorem holder?_eq_none_iff {f : Fleet} {id : Int64} :
    f.holder? id = none ↔ ∀ l ∈ f.loops, l.cycle.id ≠ id := by
  simp [holder?]

namespace Sound

variable {f : Fleet} {l k : Loop}

theorem empty : Sound {} := by
  constructor <;> simp

theorem eq_of_id (h : Sound f) (hl : l ∈ f.loops) (hk : k ∈ f.loops)
    (same : l.cycle.id = k.cycle.id) : l = k :=
  List.inj_on_of_nodup_map h.ids hl hk same

theorem eq_of_ticket (h : Sound f) (hl : l ∈ f.loops) (hk : k ∈ f.loops)
    (same : l.ticket = k.ticket) : l = k :=
  List.inj_on_of_nodup_map h.tickets hl hk same

theorem loop?_eq (h : Sound f) (hl : l ∈ f.loops) : f.loop? l.ticket = some l :=
  find?_key h.tickets hl

theorem holder?_eq (h : Sound f) (hl : l ∈ f.loops) : f.holder? l.cycle.id = some l :=
  find?_key h.ids hl

theorem slot?_eq (h : Sound f) (id : Int64) : f.slot? id = (f.holder? id).map Loop.slot := by
  rw [slot?, h.slots, List.find?_map]
  rfl

theorem isTold_eq_sent (h : Sound f) (hl : l ∈ f.loops) : l.isTold = l.channel.sent :=
  Channel.isReady_eq_sent (by rw [h.senders l hl]; decide)

/-- Signalling goes to the loops of the chosen slots. -/
theorem loops_signal (h : Sound f) (chosen : Slot → Bool) :
    (f.signal chosen).loops = f.loops.map fun l => if chosen l.slot then l.signal else l := by
  refine List.map_congr_left fun l hl => ?_
  have own : (f.slots.any fun s => s.ticket == l.ticket && chosen s) = chosen l.slot := by
    rw [h.slots, List.any_map, Bool.eq_iff_iff, List.any_eq_true]
    constructor
    · rintro ⟨k, hk, hit⟩
      simp only [Function.comp, Loop.slot, Bool.and_eq_true, beq_iff_eq] at hit
      rw [← h.eq_of_ticket hk hl hit.1]
      exact hit.2
    · intro hit
      exact ⟨l, hl, by simpa [Loop.slot] using hit⟩
  rw [own]

/-- Putting another loop in the place of one changes nothing that the two have in common. -/
theorem map_replace {β : Type} (h : Sound f) (hl : l ∈ f.loops) (view : Loop → β) {after : Loop}
    (same : view after = view l) :
    (f.loops.map fun k => if k.ticket == l.ticket then after else k).map view =
      f.loops.map view := by
  rw [List.map_map]
  refine List.map_congr_left fun k hk => ?_
  by_cases own : k.ticket = l.ticket
  · simp [same, h.eq_of_ticket hk hl own]
  · simp [own]

/-- Signalling changes nothing that a loop has in common with the signalled one. -/
theorem map_signal {β : Type} (h : Sound f) {chosen : Slot → Bool} (view : Loop → β)
    (same : ∀ l : Loop, view l.signal = view l) :
    (f.signal chosen).loops.map view = f.loops.map view := by
  rw [h.loops_signal, List.map_map]
  refine List.map_congr_left fun l _ => ?_
  simp only [Function.comp]
  split
  · exact same l
  · rfl

/-- Among the loops of a fleet, those of one id are those of one number. -/
theorem same_id_iff (h : Sound f) (hk : k ∈ f.loops) (hl : l ∈ f.loops) :
    (k.cycle.id == l.cycle.id) = (k.ticket == l.ticket) := by
  rw [Bool.eq_iff_iff, beq_iff_eq, beq_iff_eq]
  constructor
  · exact fun same => by rw [h.eq_of_id hk hl same]
  · exact fun same => by rw [h.eq_of_ticket hk hl same]

theorem note (h : Sound f) (e : Event) : Sound (f.note e) := ⟨h.1, h.2, h.3, h.4, h.5⟩

theorem advanceTo (h : Sound f) (time : Duration) : Sound (f.advanceTo time) :=
  ⟨h.1, h.2, h.3, h.4, h.5⟩

theorem add (h : Sound f) (c : Cycle) : Sound (f.add c).2 := by
  unfold Fleet.add
  cases free : f.slot? c.id with
  | some slot =>
    exact ⟨h.slots, h.ids, h.tickets, fun l hl => Nat.lt_succ_of_lt (h.offered l hl), h.senders⟩
  | none =>
    rw [h.slot?_eq, Option.map_eq_none_iff, holder?_eq_none_iff] at free
    constructor
    · simp [h.slots, Loop.slot, Loop.spawn]
    · simpa [Loop.spawn, List.nodup_append, h.ids] using free
    · simpa [Loop.spawn, List.nodup_append, h.tickets] using
        fun l hl => Nat.ne_of_lt (h.offered l hl)
    · intro l hl
      rcases List.mem_append.1 hl with hl | hl
      · exact Nat.lt_succ_of_lt (h.offered l hl)
      · rw [List.mem_singleton.1 hl]
        exact Nat.lt_succ_self f.offered
    · intro l hl
      rcases List.mem_append.1 hl with hl | hl
      · exact h.senders l hl
      · rw [List.mem_singleton.1 hl]
        rfl

theorem signal (h : Sound f) (chosen : Slot → Bool) : Sound (f.signal chosen) := by
  constructor
  · rw [h.loops_signal, List.map_map]
    simp only [Fleet.signal, h.slots, List.map_map]
    refine List.map_congr_left fun l _ => ?_
    simp only [Function.comp]
    split <;> rfl
  · rw [h.map_signal _ fun _ => rfl]
    exact h.ids
  · rw [h.map_signal _ fun _ => rfl]
    exact h.tickets
  · rw [h.loops_signal, List.forall_mem_map]
    intro l hl
    split <;> exact h.offered l hl
  · rw [h.loops_signal, List.forall_mem_map]
    intro l hl
    split <;> exact h.senders l hl

theorem stopAll (h : Sound f) : Sound f.stopAll := (h.signal _).note _

theorem stop (h : Sound f) (id : Int64) : Sound (f.stop id).2 := by
  unfold Fleet.stop
  split
  · exact (h.signal _).note _
  · exact h

theorem clear (h : Sound f) (hl : l ∈ f.loops) : Sound (f.clear l) := by
  have kept : ∀ k ∈ (f.clear l).loops, k ∈ f.loops := fun k hk => (List.mem_filter.1 hk).1
  constructor
  · simp only [Fleet.clear, h.slots, List.filter_map]
    congr 1
    refine List.filter_congr fun k hk => ?_
    rw [Function.comp, Loop.slot, h.same_id_iff hk hl]
  · exact h.ids.sublist (List.filter_sublist.map _)
  · exact h.tickets.sublist (List.filter_sublist.map _)
  · exact fun k hk => h.offered k (kept k hk)
  · exact fun k hk => h.senders k (kept k hk)

theorem move (h : Sound f) (hl : l ∈ f.loops) : Sound (f.move l) := by
  by_cases gone : l.phase = .exited
  · rw [move_exited gone]
    exact h.clear hl
  rw [move_eq gone]
  constructor
  · rw [h.map_replace hl Loop.slot (by simp [Loop.slot])]
    exact h.slots
  · rw [h.map_replace hl _ (by simp)]
    exact h.ids
  · rw [h.map_replace hl _ (by simp)]
    exact h.tickets
  · rw [List.forall_mem_map]
    intro k hk
    split
    · rw [Loop.ticket_step]
      exact h.offered l hl
    · exact h.offered k hk
  · rw [List.forall_mem_map]
    intro k hk
    split
    · rw [Loop.channel_step]
      exact h.senders l hl
    · exact h.senders k hk

/-- Every action keeps slots and loops together. -/
theorem apply (h : Sound f) (a : Action) : Sound (a.apply f) :=
  a.keeps (P := fun _ f => Sound f) [] (fun _ _ h => h.note _) (fun _ c h => h.add c)
    (fun id h => h.stop id) (fun h => h.stopAll) (fun time _ h => h.advanceTo time)
    (fun _ _ _ found h => h.move (mem_of_loop? found).1) h

end Sound

theorem sound_perform {f : Fleet} (h : Sound f) (as : List Action) : Sound (perform as f) :=
  perform_keeps (P := fun _ f => Sound f) (fun _ _ a h => h.apply a) [] f h as

end Uptime.Fleet
