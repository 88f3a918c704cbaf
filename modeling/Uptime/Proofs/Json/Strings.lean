import Uptime.Proofs.Json.Grammar

/-!
# Strings in JSON

The reader takes every spelling of a string: it finds the elements between the quotes
(`elements?_of_spelling`) and gives the characters that their units encode, or nothing if they
encode none (`ofElements?_eq_some_iff`).
-/

namespace Uptime.Json

/-! ## Units -/

theorem toNat_ofNat {n : Nat} (h : n.isValidChar) : (Char.ofNat n).toNat = n := by
  rw [Char.ofNat, dif_pos h]
  rfl

/-- A unit of 16 bits that is no half encodes a character by itself. -/
theorem unitsOf_ofNat {u : Nat} (small : u < 0x10000) (whole : u < 0xD800 ∨ 0xE000 ≤ u) :
    unitsOf (Char.ofNat u) = [u] := by
  have valid : u.isValidChar := by
    unfold Nat.isValidChar
    omega
  rw [unitsOf, toNat_ofNat valid, if_pos small]

/-- A high and a low half encode a character together. -/
theorem unitsOf_pair {u v : Nat} (high : 0xD800 ≤ u ∧ u < 0xDC00) (low : 0xDC00 ≤ v ∧ v < 0xE000) :
    unitsOf (Char.ofNat (0x10000 + (u - 0xD800) * 1024 + (v - 0xDC00))) = [u, v] := by
  have valid : (0x10000 + (u - 0xD800) * 1024 + (v - 0xDC00)).isValidChar := by
    unfold Nat.isValidChar
    omega
  rw [unitsOf, toNat_ofNat valid, if_neg (by omega)]
  simp only [List.cons.injEq, and_true]
  omega

/-- A character is encoded by one unit that is no half, or by a high half and a low one. -/
theorem unitsOf_cases (c : Char) :
    (unitsOf c = [c.toNat] ∧ (c.toNat < 0xD800 ∨ 0xE000 ≤ c.toNat)) ∨
      ∃ u v, unitsOf c = [u, v] ∧ (0xD800 ≤ u ∧ u < 0xDC00) ∧ (0xDC00 ≤ v ∧ v < 0xE000) ∧
        c = Char.ofNat (0x10000 + (u - 0xD800) * 1024 + (v - 0xDC00)) := by
  have valid : c.toNat.isValidChar := c.valid
  unfold Nat.isValidChar at valid
  by_cases small : c.toNat < 0x10000
  · exact .inl ⟨if_pos small, by omega⟩
  · obtain ⟨n, hn⟩ := Nat.exists_eq_add_of_le (Nat.not_lt.1 small)
    have parts := Nat.div_add_mod n 1024
    have low := Nat.mod_lt n (show 0 < 1024 by decide)
    have units : unitsOf c = [0xD800 + n / 1024, 0xDC00 + n % 1024] := by
      rw [unitsOf, if_neg small, hn, Nat.add_sub_cancel_left]
    refine .inr ⟨_, _, units, by omega, by omega, ?_⟩
    rw [Nat.add_sub_cancel_left, Nat.add_sub_cancel_left, Nat.add_assoc, Nat.mul_comm, parts, ← hn,
      Char.ofNat_toNat]

/-- No encoding begins another. -/
theorem unitsOf_append_inj {c d : Char} {us vs : List Nat}
    (h : unitsOf c ++ us = unitsOf d ++ vs) : c = d ∧ us = vs := by
  rcases unitsOf_cases c with ⟨hc, _⟩ | ⟨u, v, hc, _, _, pc⟩ <;>
    rcases unitsOf_cases d with ⟨hd, _⟩ | ⟨u', v', hd, _, _, pd⟩ <;>
    rw [hc, hd] at h <;> simp only [List.cons_append, List.nil_append, List.cons.injEq] at h
  · exact ⟨Char.toNat_inj.1 h.1, h.2⟩
  · omega
  · omega
  · exact ⟨by rw [pc, pd, h.1, h.2.1], h.2.2⟩

/-- What follows the units of a character in an encoding is the encoding of the other characters. -/
theorem eq_flatMap_unitsOf_iff {c : Char} {us : List Nat} {cs : List Char} :
    unitsOf c ++ us = cs.flatMap unitsOf ↔ ∃ ds, cs = c :: ds ∧ us = ds.flatMap unitsOf := by
  constructor
  · intro h
    cases cs with
    | nil => rcases unitsOf_cases c with ⟨hc, _⟩ | ⟨u, v, hc, _⟩ <;> rw [hc] at h <;> cases h
    | cons d ds =>
      obtain ⟨rfl, rest⟩ := unitsOf_append_inj h
      exact ⟨ds, rfl, rest⟩
  · rintro ⟨ds, rfl, rfl⟩
    rfl

/-- An encoding that begins with a half begins with a pair. -/
theorem exists_low_of_high {u : Nat} {us : List Nat} {cs : List Char}
    (half : 0xD800 ≤ u ∧ u < 0xE000) (h : u :: us = cs.flatMap unitsOf) :
    u < 0xDC00 ∧ ∃ v vs, us = v :: vs ∧ 0xDC00 ≤ v ∧ v < 0xE000 := by
  cases cs with
  | nil => cases h
  | cons d ds =>
    rw [List.flatMap_cons] at h
    rcases unitsOf_cases d with ⟨hd, _⟩ | ⟨u', v', hd, high, low, -⟩ <;>
      rw [hd] at h <;> simp only [List.cons_append, List.nil_append, List.cons.injEq] at h
    · omega
    · exact ⟨by omega, v', _, h.2, low⟩

/-! ## Elements -/

/-- The units of one element of a string. -/
def Element.units : Element → List Nat
  | .char c => unitsOf c
  | .unit u => [u]

/-- An escape names a unit of 16 bits. -/
def Element.Small : Element → Prop
  | .char _ => True
  | .unit u => u < 0x10000

/-- The elements of a string stand for the characters that their units encode. -/
theorem ofElements?_eq_some_iff {es : List Element} (small : ∀ e ∈ es, e.Small) {cs : List Char} :
    ofElements? es = some cs ↔ es.flatMap Element.units = cs.flatMap unitsOf := by
  fun_induction ofElements? es generalizing cs with
  | case1 =>
    cases cs with
    | nil => exact ⟨fun _ => rfl, fun _ => rfl⟩
    | cons d ds =>
      have : unitsOf d ≠ [] := by
        rcases unitsOf_cases d with ⟨hd, _⟩ | ⟨_, _, hd, _⟩ <;> simp [hd]
      simp [this]
  | case2 c rest ih =>
    have ih := @ih (fun e he => small e (List.mem_cons_of_mem _ he))
    rw [List.flatMap_cons, Element.units, eq_flatMap_unitsOf_iff, Option.map_eq_some_iff]
    simp only [ih, and_comm, eq_comm]
  | case3 u high v more low ih =>
    have ih := @ih (fun e he => small e (List.mem_cons_of_mem _ (List.mem_cons_of_mem _ he)))
    rw [List.flatMap_cons, List.flatMap_cons, ← List.append_assoc, Element.units, Element.units,
      List.singleton_append, ← unitsOf_pair high low, eq_flatMap_unitsOf_iff,
      Option.map_eq_some_iff]
    simp only [ih, and_comm, eq_comm]
  | case4 u high v more low =>
    refine iff_of_false nofun fun h => ?_
    obtain ⟨-, v', vs, eq, low'⟩ := exists_low_of_high (by omega) h
    obtain ⟨rfl, -⟩ := List.cons.inj eq
    exact low low'
  | case5 u rest high other =>
    refine iff_of_false nofun fun h => ?_
    obtain ⟨-, v', vs, eq, low'⟩ := exists_low_of_high (by omega) h
    cases rest with
    | nil => cases eq
    | cons e rest =>
      -- The next unit is that of a character, so it is no low half on its own.
      cases e with
      | unit v => exact other v rest rfl
      | char d =>
        have eq : unitsOf d ++ rest.flatMap Element.units = v' :: vs := eq
        rcases unitsOf_cases d with ⟨hd, _⟩ | ⟨_, _, hd, _⟩ <;> rw [hd] at eq <;>
          simp only [List.cons_append, List.cons.injEq] at eq <;> omega
  | case6 u rest high low =>
    refine iff_of_false nofun fun h => ?_
    have := (exists_low_of_high (by omega) h).1
    omega
  | case7 u rest high low ih =>
    have ih := @ih (fun e he => small e (List.mem_cons_of_mem _ he))
    have bound : u < 0x10000 := small (.unit u) List.mem_cons_self
    rw [List.flatMap_cons, Element.units, ← unitsOf_ofNat bound (by omega), eq_flatMap_unitsOf_iff,
      Option.map_eq_some_iff]
    simp only [ih, and_comm, eq_comm]

theorem elements?_close (rest : List Char) : elements? ('"' :: rest) = some ([], rest) := by
  rw [elements?]

theorem elements?_plain {c : Char} (visible : 32 ≤ c.toNat) (quote : c ≠ '"')
    (backslash : c ≠ '\\') (cs : List Char) :
    elements? (c :: cs) = (elements? cs).map fun q => (.char c :: q.1, q.2) := by
  have printable : ¬((c = '\\' || decide (c.toNat < 32)) = true) := by
    simp only [Bool.or_eq_true, decide_eq_true_eq, not_or, Nat.not_lt]
    exact ⟨backslash, visible⟩
  rw [elements?, if_neg printable]
  · exact quote
  · exact fun _ slash _ => backslash slash
  · exact fun _ _ slash _ => backslash slash

theorem elements?_short {e c : Char} (escape : unescape? e = some c) (cs : List Char) :
    elements? ('\\' :: e :: cs) = (elements? cs).map fun q => (.char c :: q.1, q.2) := by
  -- The reader looks for a unit first, which a short escape must not be taken for.
  have : e ≠ 'u' := by
    rintro rfl
    have none : unescape? 'u' = none := by decide
    exact nomatch escape.symm.trans none
  rw [elements?.eq_def]
  split <;> grind

theorem unit?_cons {a b c d : Char} {w x y z : Nat} (ha : hexValue? a = some w)
    (hb : hexValue? b = some x) (hc : hexValue? c = some y) (hd : hexValue? d = some z)
    (cs : List Char) :
    unit? (a :: b :: c :: d :: cs) = some (((w * 16 + x) * 16 + y) * 16 + z, cs) := by
  simp [unit?, ha, hb, hc, hd]

theorem elements?_unit {cs rest : List Char} {u : Nat} (h : unit? cs = some (u, rest))
    (short : rest.length < cs.length + 2) :
    elements? ('\\' :: 'u' :: cs) = (elements? rest).map fun q => (.unit u :: q.1, q.2) := by
  rw [elements?, h]
  exact if_pos short

theorem hexValue?_lt {c : Char} {n : Nat} (h : hexValue? c = some n) : n < 16 := by
  have order : ∀ a b : Char, a ≤ b ↔ a.toNat ≤ b.toNat := fun _ _ => UInt32.le_iff_toNat_le
  simp only [hexValue?, Bool.and_eq_true, decide_eq_true_eq, order, Char.reduceToNat] at h
  grind

/-- Four hexadecimal digits make no more than 16 bits. -/
theorem unit_lt {a b c d : Char} {w x y z : Nat} (ha : hexValue? a = some w)
    (hb : hexValue? b = some x) (hc : hexValue? c = some y) (hd : hexValue? d = some z) :
    ((w * 16 + x) * 16 + y) * 16 + z < 0x10000 := by
  have lw := hexValue?_lt ha
  have lx := hexValue?_lt hb
  have ly := hexValue?_lt hc
  have lz := hexValue?_lt hd
  omega

/-- The elements between the quotes of a string have its units. -/
theorem elements?_of_spelling {us : List Nat} {cs : List Char} (h : Spelling us cs)
    (rest : List Char) :
    ∃ es, elements? (cs ++ '"' :: rest) = some (es, rest) ∧ es.flatMap Element.units = us ∧
      ∀ e ∈ es, e.Small := by
  induction h with
  | nil => exact ⟨[], elements?_close rest, rfl, nofun⟩
  | @plain c us cs visible quote backslash _ ih =>
    obtain ⟨es, read, units, small⟩ := ih
    refine ⟨.char c :: es, ?_, congrArg (unitsOf c ++ ·) units, ?_⟩
    · rw [List.cons_append, elements?_plain visible quote backslash, read]
      rfl
    · exact List.forall_mem_cons.2 ⟨trivial, small⟩
  | @short e c us cs escape _ ih =>
    obtain ⟨es, read, units, small⟩ := ih
    refine ⟨.char c :: es, ?_, congrArg (unitsOf c ++ ·) units, ?_⟩
    · rw [List.cons_append, List.cons_append, elements?_short escape, read]
      rfl
    · exact List.forall_mem_cons.2 ⟨trivial, small⟩
  | @unit a b c d w x y z us cs ha hb hc hd _ ih =>
    obtain ⟨es, read, units, small⟩ := ih
    refine ⟨.unit (((w * 16 + x) * 16 + y) * 16 + z) :: es, ?_, congrArg (_ :: ·) units, ?_⟩
    · have four := unit?_cons ha hb hc hd (cs ++ '"' :: rest)
      simp only [List.cons_append]
      rw [elements?_unit four (by simp; omega), read]
      rfl
    · exact List.forall_mem_cons.2 ⟨unit_lt ha hb hc hd, small⟩

/-- A string is read from every spelling of it. -/
theorem string?_of_spelling {us : List Nat} {cs : List Char} {s : Option String}
    (spelling : Spelling us cs) (encode : Encode us s) (rest : List Char) :
    string? (cs ++ '"' :: rest) = some (s, rest) := by
  obtain ⟨es, read, units, small⟩ := elements?_of_spelling spelling rest
  have value : (ofElements? es).map String.ofList = s := by
    cases s with
    | some s =>
      rw [(ofElements?_eq_some_iff small).2 (units.trans encode), Option.map_some,
        String.ofList_toList]
    | none =>
      cases some : ofElements? es with
      | none => rfl
      | some ds =>
        have same := units.symm.trans ((ofElements?_eq_some_iff small).1 some)
        exact absurd (same.trans (by rw [String.toList_ofList])) (encode (String.ofList ds))
  rw [string?, read, Option.map_some, value]

end Uptime.Json
