import Mathlib.Data.List.Infix
import Mathlib.Data.List.TakeWhile
import Uptime.Net.Ip

/-!
# What the readers of addresses take

The readers of numbers and of addresses of the two families take characters of an alphabet off the
front of a text. `Reads` says of a reader that it takes nothing else, and that it stops at a
character outside its alphabet as it would at the end of the text. Both pass from the parts of a
reader to the whole (`Reads.bind`, `Reads.mark`), and so each of these readers has its alphabet
(`reads_number?`, `reads_octets?`, `reads_groups?`).
-/

namespace Uptime.Ip

/-- What is left of a text after characters that satisfy `p` were taken off its front. -/
def Takes (p : Char → Bool) (cs rest : List Char) : Prop :=
  ∃ taken, cs = taken ++ rest ∧ ∀ c ∈ taken, p c = true

namespace Takes

variable {p q : Char → Bool} {cs ds es : List Char} {c : Char}

theorem refl (p : Char → Bool) (cs : List Char) : Takes p cs cs := ⟨[], rfl, nofun⟩

theorem cons (hc : p c = true) (h : Takes p cs ds) : Takes p (c :: cs) ds := by
  obtain ⟨taken, rfl, all⟩ := h
  exact ⟨c :: taken, rfl, List.forall_mem_cons.2 ⟨hc, all⟩⟩

theorem trans (h : Takes p cs ds) (h' : Takes p ds es) : Takes p cs es := by
  obtain ⟨first, rfl, all⟩ := h
  obtain ⟨second, rfl, others⟩ := h'
  refine ⟨first ++ second, (List.append_assoc ..).symm, fun c hc => ?_⟩
  rcases List.mem_append.1 hc with hc | hc
  · exact all c hc
  · exact others c hc

theorem mono (h : Takes p cs ds) (le : ∀ c, p c = true → q c = true) : Takes q cs ds := by
  obtain ⟨taken, eq, all⟩ := h
  exact ⟨taken, eq, fun c hc => le c (all c hc)⟩

theorem suffix (h : Takes p cs ds) : ds <:+ cs := by
  obtain ⟨taken, eq, -⟩ := h
  exact ⟨taken, eq.symm⟩

theorem all (h : Takes p cs []) : ∀ c ∈ cs, p c = true := by
  obtain ⟨taken, eq, all⟩ := h
  rw [eq, List.append_nil]
  exact all

/-- Characters outside the alphabet are all left. -/
theorem count_eq (h : Takes p cs ds) (hc : p c = false) : cs.count c = ds.count c := by
  obtain ⟨taken, rfl, all⟩ := h
  have none : taken.count c = 0 := List.count_eq_zero.2 fun mem => by simp [all c mem] at hc
  rw [List.count_append, none, Nat.zero_add]

end Takes

/-- A reader with an alphabet: it takes characters of it only, and stops at another one as it would
at the end of the text. -/
structure Reads {α : Type} (p : Char → Bool) (read : List Char → Option (α × List Char)) :
    Prop where
  takes : ∀ {cs a rest}, read cs = some (a, rest) → Takes p cs rest
  stops : ∀ {stop}, p stop = false → ∀ cs tail,
    read (cs ++ stop :: tail) = (read cs).map (Prod.map id (· ++ stop :: tail))

theorem mark?_eq_some_iff {c : Char} {cs rest : List Char} :
    mark? c cs = some rest ↔ cs = c :: rest := by
  cases cs with
  | nil => simp [mark?]
  | cons d cs => simp [mark?]

theorem mark?_stops {c stop : Char} (h : stop ≠ c) (cs tail : List Char) :
    mark? c (cs ++ stop :: tail) = (mark? c cs).map (· ++ stop :: tail) := by
  cases cs with
  | nil => exact if_neg h
  | cons d cs =>
    show (if d = c then some (cs ++ stop :: tail) else none) =
      (if d = c then some cs else none).map (· ++ stop :: tail)
    split <;> rfl

namespace Reads

variable {α β : Type} {p q : Char → Bool} {f : List Char → Option (α × List Char)}

theorem mono (hf : Reads p f) (le : ∀ c, p c = true → q c = true) : Reads q f where
  takes h := (hf.takes h).mono le
  stops {stop} out := hf.stops (by
    cases h : p stop with
    | false => rfl
    | true => simp [le stop h] at out)

theorem pure (a : α) : Reads p fun cs => some (a, cs) where
  takes h := by
    obtain ⟨-, rfl⟩ := Prod.mk.inj (Option.some.inj h)
    exact .refl p _
  stops _ _ _ := rfl

theorem bind (hf : Reads p f) {g : α → List Char → Option (β × List Char)}
    (hg : ∀ a, Reads p (g a)) : Reads p fun cs => f cs >>= fun r => g r.1 r.2 where
  takes h := by
    obtain ⟨⟨a, middle⟩, first, second⟩ := Option.bind_eq_some_iff.1 h
    exact (hf.takes first).trans ((hg a).takes second)
  stops out cs tail := by
    show (f (cs ++ _)).bind _ = ((f cs).bind _).map _
    rw [hf.stops out, Option.bind_map, Option.map_bind]
    congr 1
    funext r
    exact (hg r.1).stops out r.2 tail

theorem map (hf : Reads p f) (g : α → β) : Reads p fun cs => (f cs).map fun r => (g r.1, r.2) where
  takes h := by
    obtain ⟨⟨a, rest⟩, first, eq⟩ := Option.map_eq_some_iff.1 h
    obtain ⟨-, rfl⟩ := Prod.mk.inj eq
    exact hf.takes first
  stops out cs tail := by
    simp only [hf.stops out, Option.map_map]
    rfl

theorem mark (hf : Reads p f) {c : Char} (hc : p c = true) :
    Reads p fun cs => mark? c cs >>= f where
  takes h := by
    obtain ⟨middle, first, second⟩ := Option.bind_eq_some_iff.1 h
    rw [mark?_eq_some_iff.1 first]
    exact .cons hc (hf.takes second)
  stops {stop} out cs tail := by
    have other : stop ≠ c := by
      rintro rfl
      cases hc.symm.trans out
    show (mark? c (cs ++ _)).bind f = ((mark? c cs).bind f).map _
    rw [mark?_stops other, Option.bind_map, Option.map_bind]
    congr 1
    funext rest
    exact hf.stops out rest tail

end Reads

/-! ## Numbers -/

/-- The characters of numbers: the digits of the greatest base. -/
def isNumberChar (c : Char) : Bool := (digitIn? 36 c).isSome

theorem isNumberChar_of_digitIn? {base : Nat} {c : Char} (h : (digitIn? base c).isSome = true) :
    isNumberChar c = true := by
  unfold isNumberChar
  unfold digitIn? at h ⊢
  grind

theorem digitIn?_eq_none {base : Nat} {c : Char} (h : isNumberChar c = false) :
    (digitIn? base c).isSome = false := by
  cases some : (digitIn? base c).isSome with
  | false => rfl
  | true => simp [isNumberChar_of_digitIn? some] at h

theorem takeWhile_stops {p : Char → Bool} {stop : Char} (h : p stop = false)
    (cs tail : List Char) : (cs ++ stop :: tail).takeWhile p = cs.takeWhile p := by
  induction cs with
  | nil => simp [h]
  | cons c cs ih => simp [List.takeWhile_cons, ih]

theorem reads_number? (base most limit : Nat) (leadingZero : Bool) :
    Reads isNumberChar (number? base most limit leadingZero) where
  takes {cs a rest} h := by
    unfold number? at h
    simp only [] at h
    split at h
    · cases h
    · split at h
      · cases h
      · obtain ⟨-, rfl⟩ := Prod.mk.inj (Option.some.inj h)
        refine ⟨_, List.prefix_append_drop (List.takeWhile_prefix _), fun c hc => ?_⟩
        have digit := List.mem_takeWhile_imp hc
        exact isNumberChar_of_digitIn? digit
  stops {stop} out cs tail := by
    have same : (cs ++ stop :: tail).takeWhile (fun c => (digitIn? base c).isSome) =
        cs.takeWhile fun c => (digitIn? base c).isSome :=
      takeWhile_stops (digitIn?_eq_none out) cs tail
    have le : (cs.takeWhile fun c => (digitIn? base c).isSome).length ≤ cs.length :=
      (List.takeWhile_prefix _).length_le
    unfold number?
    simp only [same, List.drop_append_of_le_length le]
    split
    · rfl
    · split <;> rfl

/-! ## Addresses -/

/-- The characters of an address of the first family. -/
def isOctetsChar (c : Char) : Bool := isNumberChar c || c = '.'

/-- The characters of an address. -/
def isAddressChar (c : Char) : Bool := isOctetsChar c || c = ':'

theorem isOctetsChar_of_isNumberChar {c : Char} (h : isNumberChar c = true) :
    isOctetsChar c = true := by
  rw [isOctetsChar, h, Bool.true_or]

theorem isAddressChar_of_isOctetsChar {c : Char} (h : isOctetsChar c = true) :
    isAddressChar c = true := by
  rw [isAddressChar, h, Bool.true_or]

theorem reads_octet? : Reads isOctetsChar octet? :=
  ((reads_number? 10 3 255 false).map UInt8.ofNat).mono fun _ => isOctetsChar_of_isNumberChar

theorem reads_octets? : Reads isOctetsChar octets? := by
  have dotted : Reads isOctetsChar fun cs => mark? '.' cs >>= octet? := reads_octet?.mark rfl
  exact reads_octet?.bind fun a => dotted.bind fun b => dotted.bind fun c => dotted.bind fun d =>
    .pure #v[a, b, c, d]

/-- A group of the second family. -/
theorem reads_group? : Reads isAddressChar (number? 16 4 0xffff true) :=
  (reads_number? 16 4 0xffff true).mono fun _ h =>
    isAddressChar_of_isOctetsChar (isOctetsChar_of_isNumberChar h)

/-- What a step of reading groups can do: it finds nothing, an address of the first family, or one
more group. -/
theorem groups_cases (room : Nat) (first : Bool) (cs : List Char) :
    groups (room + 1) first cs = ([], false, cs) ∨
      ∃ body, cs = (if first then body else ':' :: body) ∧
        ((∃ o rest, octets? body = some (o, rest) ∧
            groups (room + 1) first cs = (groupsOf o, true, rest)) ∨
          ∃ g rest, number? 16 4 0xffff true body = some (g, rest) ∧
            groups (room + 1) first cs =
              (UInt16.ofNat g :: (groups room false rest).1, (groups room false rest).2)) := by
  rw [groups]
  split
  · exact .inl rfl
  · next body front =>
    have start : cs = if first then body else ':' :: body := by
      cases first with
      | true => exact Option.some.inj front
      | false => exact mark?_eq_some_iff.1 front
    split
    · next o rest four =>
      split at four
      · exact .inr ⟨body, start, .inl ⟨o, rest, four, rfl⟩⟩
      · cases four
    · split
      · exact .inl rfl
      · next g rest number => exact .inr ⟨body, start, .inr ⟨g, rest, number, rfl⟩⟩

theorem takes_groups (room : Nat) (first : Bool) (cs : List Char) :
    Takes isAddressChar cs (groups room first cs).2.2 := by
  induction room generalizing first cs with
  | zero => exact .refl _ cs
  | succ room ih =>
    rcases groups_cases room first cs with eq | ⟨body, start, found⟩
    · rw [eq]
      exact .refl _ cs
    · have colon : Takes isAddressChar cs body := by
        rw [start]
        split
        · exact .refl _ body
        · exact .cons rfl (.refl _ body)
      rcases found with ⟨o, rest, four, eq⟩ | ⟨g, rest, number, eq⟩
      · rw [eq]
        exact colon.trans ((reads_octets?.takes four).mono fun _ => isAddressChar_of_isOctetsChar)
      · rw [eq]
        exact (colon.trans (reads_group?.takes number)).trans (ih false rest)

theorem groups_stops {stop : Char} (out : isAddressChar stop = false) (room : Nat) (first : Bool)
    (cs tail : List Char) :
    groups room first (cs ++ stop :: tail) =
      Prod.map id (Prod.map id (· ++ stop :: tail)) (groups room first cs) := by
  induction room generalizing first cs with
  | zero => rfl
  | succ room ih =>
    -- a step looks for a colon, then for an address of the first family, then for a group
    have front : (if first then some (cs ++ stop :: tail) else mark? ':' (cs ++ stop :: tail)) =
        (if first then some cs else mark? ':' cs).map (· ++ stop :: tail) := by
      have other : stop ≠ ':' := by
        rintro rfl
        cases out
      cases first with
      | true => rfl
      | false => exact mark?_stops other cs tail
    have four (body : List Char) :
        (if 1 ≤ room then octets? (body ++ stop :: tail) else none) =
          (if 1 ≤ room then octets? body else none).map (Prod.map id (· ++ stop :: tail)) := by
      have outside : isOctetsChar stop = false := (Bool.or_eq_false_iff.1 out).1
      split
      · exact reads_octets?.stops outside body tail
      · rfl
    unfold groups
    rw [front]
    cases (if first then some cs else mark? ':' cs) with
    | none => rfl
    | some body =>
      simp only [Option.map_some, four body]
      cases (if 1 ≤ room then octets? body else none) with
      | some r => rfl
      | none =>
        simp only [Option.map_none, reads_group?.stops out body tail]
        cases number? 16 4 0xffff true body with
        | none => rfl
        | some r =>
          simp only [Option.map_some, Prod.map, id, ih]

/-- Groups at the front as a reader. -/
theorem reads_groups (room : Nat) :
    Reads isAddressChar fun cs => some ((groups room true cs).1, (groups room true cs).2.2) where
  takes h := by
    obtain ⟨-, rfl⟩ := Prod.mk.inj (Option.some.inj h)
    exact takes_groups room true _
  stops out cs tail := by
    rw [groups_stops out]
    rfl

/-- An address that has only the groups `head` before its two colons, from these on. -/
def elided? (head : List UInt16) (cs : List Char) : Option (Vector UInt16 8 × List Char) :=
  mark? ':' cs >>= fun cs => mark? ':' cs >>= fun cs =>
    (some ((groups (7 - head.length) true cs).1, (groups (7 - head.length) true cs).2.2)).map
      fun r => (eight (head ++ List.replicate (8 - head.length - r.1.length) 0 ++ r.1), r.2)

theorem reads_elided? (head : List UInt16) : Reads isAddressChar (elided? head) := by
  have colon : isAddressChar ':' = true := rfl
  have tail := (reads_groups (7 - head.length)).map fun gs =>
    eight (head ++ List.replicate (8 - head.length - gs.length) 0 ++ gs)
  exact (tail.mark colon).mark colon

theorem groups?_eq (cs : List Char) :
    groups? cs =
      if (groups 8 true cs).1.length = 8 then
        some (eight (groups 8 true cs).1, (groups 8 true cs).2.2)
      else if (groups 8 true cs).2.1 = true then none
      else elided? (groups 8 true cs).1 (groups 8 true cs).2.2 := by
  unfold elided?
  rw [← bind_assoc]
  rfl

theorem reads_groups? : Reads isAddressChar groups? where
  takes {cs a rest} h := by
    have head := takes_groups 8 true cs
    rw [groups?_eq] at h
    split at h
    · obtain ⟨-, rfl⟩ := Prod.mk.inj (Option.some.inj h)
      exact head
    · split at h
      · cases h
      · exact head.trans ((reads_elided? _).takes h)
  stops {stop} out cs tail := by
    rw [groups?_eq, groups?_eq, groups_stops out]
    simp only [Prod.map, id]
    split
    · rfl
    · split
      · rfl
      · exact (reads_elided? _).stops out _ tail

/-! ## Whole addresses -/

/-- A text that is read as an address is one of the first family or else one of the second. -/
theorem read?_cases {cs : List Char} {ip : Ip} (h : read? cs = some ip) :
    (∃ o, octets? cs = some (o, []) ∧ ip = .v4 o) ∨
      octets? cs = none ∧ ∃ gs, groups? cs = some (gs, []) ∧ ip = .v6 gs := by
  unfold read? at h
  split at h
  · next o rest four =>
    obtain ⟨whole, eq⟩ := Option.ite_none_right_eq_some.1 h
    obtain rfl := List.isEmpty_iff.1 whole
    exact .inl ⟨o, four, (Option.some.inj eq).symm⟩
  · next none =>
    split at h
    · next gs six => exact .inr ⟨none, gs, six, (Option.some.inj h).symm⟩
    · cases h

/-- An address has only characters of addresses. -/
theorem isAddressChar_of_read? {cs : List Char} {ip : Ip} (h : read? cs = some ip) :
    ∀ c ∈ cs, isAddressChar c = true := by
  rcases read?_cases h with ⟨o, four, -⟩ | ⟨-, gs, six, -⟩
  · exact fun c hc => isAddressChar_of_isOctetsChar ((reads_octets?.takes four).all c hc)
  · exact (reads_groups?.takes six).all

end Uptime.Ip
