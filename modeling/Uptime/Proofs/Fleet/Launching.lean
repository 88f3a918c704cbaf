import Uptime.Proofs.Fleet.Running

/-!
# Launches

A launch takes all cycles if they have different ids and none of these has a loop yet
(`launch_eq`). Then nothing is refused, and the loops run under the ids that were offered
(`ids_taking`, `running_launch`).
-/

namespace Uptime.Fleet

/-- The fleet after all these cycles were taken, one after the other. -/
def taking (cs : List Cycle) (f : Fleet) : Fleet := { f with
  slots := f.slots ++ (cs.zipIdx f.offered).map fun p => { id := p.1.id, ticket := p.2 }
  loops := f.loops ++ (cs.zipIdx f.offered).map fun p => .spawn p.2 p.1
  offered := f.offered + cs.length
  history :=
    ((cs.zipIdx f.offered).map fun p => .added p.2 p.1.name).reverse ++ f.history }

variable {c : Cycle} {cs : List Cycle} {f : Fleet}

/-- A cycle whose id is free is taken. -/
theorem add_free (free : f.slot? c.id = none) : f.add c = (true, f.taking [c]) := by
  unfold add
  rw [free]
  rfl

theorem taking_cons (c : Cycle) (cs : List Cycle) (f : Fleet) :
    (f.taking [c]).taking cs = f.taking (c :: cs) := by
  simp only [taking, List.zipIdx_cons, List.zipIdx_nil, List.map_cons, List.map_nil,
    List.append_assoc, List.cons_append, List.nil_append, List.length_cons, List.length_nil,
    List.reverse_cons, List.reverse_nil, Nat.zero_add, Nat.add_assoc, Nat.add_comm 1]

/-- An id stays free as long as others are taken. -/
theorem slot?_taking {id : Int64} (free : f.slot? id = none) (other : c.id ≠ id) :
    (f.taking [c]).slot? id = none := by
  have unlike : (c.id == id) = false := beq_eq_false_iff_ne.2 other
  have before : f.slots.find? (·.id == id) = none := free
  simp only [slot?, taking, List.zipIdx_cons, List.zipIdx_nil, List.map_cons, List.map_nil,
    List.find?_append, before, List.find?_cons, unlike, List.find?_nil, Option.or_none]

theorem addAll_eq (distinct : (cs.map (·.id)).Nodup) (free : ∀ c ∈ cs, f.slot? c.id = none) :
    addAll cs f = (cs.length, f.taking cs) := by
  induction cs generalizing f with
  | nil => simp [addAll, taking]
  | cons c cs ih =>
    obtain ⟨own, others⟩ := List.forall_mem_cons.1 free
    obtain ⟨unlike, rest⟩ := List.nodup_cons.1 distinct
    have still : ∀ d ∈ cs, (f.taking [c]).slot? d.id = none := by
      intro d hd
      refine slot?_taking (others d hd) fun same => unlike ?_
      exact List.mem_map.2 ⟨d, hd, same.symm⟩
    simp only [addAll, add_free own, ih rest still, taking_cons, List.length_cons, if_true]

/-- A launch of cycles with ids of their own that are all free takes every one of them. -/
theorem launch_eq (distinct : (cs.map (·.id)).Nodup) (free : ∀ c ∈ cs, f.slot? c.id = none) :
    f.launch cs = (cs.length, (f.note (.launching cs.length)).taking cs) :=
  addAll_eq distinct free

/-- Where everything is taken nothing is refused. -/
theorem mem_history_taking {ticket : Nat} {name : String} {stopping : Bool} :
    .refused ticket name stopping ∈ (f.taking cs).history ↔
      .refused ticket name stopping ∈ f.history := by
  simp [taking]

theorem ids_taking (cs : List Cycle) (f : Fleet) :
    (f.taking cs).loops.map (·.cycle.id) = f.loops.map (·.cycle.id) ++ cs.map (·.id) := by
  have ids : (cs.zipIdx f.offered).map (fun p => p.1.id) = cs.map (·.id) := by
    conv_rhs => rw [← List.zipIdx_map_fst f.offered cs, List.map_map]
    rfl
  rw [← ids]
  simp only [taking, List.map_append, List.map_map]
  rfl

/-- The ids under which a new fleet runs after a launch. -/
theorem running_launch (ascending : (cs.map (·.id)).Pairwise (· < ·)) :
    (({} : Fleet).launch cs).2.running = cs.map (·.id) := by
  have distinct : (cs.map (·.id)).Nodup := ascending.imp fun lt => Int64.ne_of_lt lt
  have sound : Sound (({} : Fleet).launch cs).2 := Sound.empty.apply (.launch cs)
  have ids : (({} : Fleet).launch cs).2.slots.map (·.id) = cs.map (·.id) := by
    rw [sound.slots, List.map_map, launch_eq distinct fun _ _ => rfl]
    exact ids_taking cs _
  rw [running, ids]
  refine List.mergeSort_of_pairwise (ascending.imp fun lt => ?_)
  exact decide_eq_true (Int64.le_of_lt lt)

end Uptime.Fleet
