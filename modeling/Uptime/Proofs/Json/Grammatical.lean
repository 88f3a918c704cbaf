import Uptime.Proofs.Json.Reading

/-!
# What the reader takes for JSON

The reader takes nothing but the texts of the grammar, so it reads a text as a value exactly if the
text spells the value (`read?_eq_some_iff`).
-/

namespace Uptime.Json

open Number (IsRun ofDigits spanDigits)

variable {cs rest : List Char}

/-! ## Strings -/

theorem exists_unit? {u : Nat} (h : unit? cs = some (u, rest)) :
    ∃ a b c d w x y z, cs = a :: b :: c :: d :: rest ∧ hexValue? a = some w ∧
      hexValue? b = some x ∧ hexValue? c = some y ∧ hexValue? d = some z ∧
      u = ((w * 16 + x) * 16 + y) * 16 + z := by
  unfold unit? at h
  split at h
  · next a b c d cs =>
    simp only [Option.bind_eq_bind, Option.bind_eq_some_iff] at h
    obtain ⟨w, hw, x, hx, y, hy, z, hz, eq⟩ := h
    cases eq
    exact ⟨a, b, c, d, w, x, y, z, rfl, hw, hx, hy, hz, rfl⟩
  · cases h

theorem exists_of_map_cons {e : Element} {o : Option (List Element × List Char)}
    {es : List Element} (h : o.map (fun q => (e :: q.1, q.2)) = some (es, rest)) :
    ∃ more, es = e :: more ∧ o = some (more, rest) := by
  obtain ⟨⟨more, left⟩, eq, pair⟩ := Option.map_eq_some_iff.1 h
  cases pair
  exact ⟨more, rfl, eq⟩

/-- The elements that are found stand between the quotes. -/
theorem spelling_of_elements? {es : List Element} (h : elements? cs = some (es, rest)) :
    ∃ body, cs = body ++ '"' :: rest ∧ Spelling (es.flatMap Element.units) body ∧
      ∀ e ∈ es, e.Small := by
  fun_induction elements? cs generalizing es rest with
  | case1 => cases h
  | case2 cs =>
    cases h
    exact ⟨[], rfl, .nil, nofun⟩
  | case3 cs u left unit short ih =>
    obtain ⟨more, rfl, eq⟩ := exists_of_map_cons h
    obtain ⟨body, rfl, spelling, small⟩ := ih eq
    obtain ⟨a, b, c, d, w, x, y, z, rfl, ha, hb, hc, hd, rfl⟩ := exists_unit? unit
    exact ⟨'\\' :: 'u' :: a :: b :: c :: d :: body, rfl, .unit ha hb hc hd spelling,
      List.forall_mem_cons.2 ⟨unit_lt ha hb hc hd, small⟩⟩
  | case4 => cases h
  | case5 => cases h
  | case6 e cs _ c escape ih =>
    obtain ⟨more, rfl, eq⟩ := exists_of_map_cons h
    obtain ⟨body, rfl, spelling, small⟩ := ih eq
    exact ⟨'\\' :: e :: body, rfl, .short escape spelling,
      List.forall_mem_cons.2 ⟨trivial, small⟩⟩
  | case7 => cases h
  | case8 => cases h
  | case9 c cs quote _ _ plain ih =>
    obtain ⟨more, rfl, eq⟩ := exists_of_map_cons h
    obtain ⟨body, rfl, spelling, small⟩ := ih eq
    simp only [Bool.or_eq_true, decide_eq_true_eq, not_or] at plain
    exact ⟨c :: body, rfl, .plain (Nat.not_lt.1 plain.2) quote plain.1 spelling,
      List.forall_mem_cons.2 ⟨trivial, small⟩⟩

theorem quoted_of_string? {s : Option String} (h : string? cs = some (s, rest)) :
    ∃ body, cs = body ++ '"' :: rest ∧ Quoted s ('"' :: (body ++ ['"'])) := by
  obtain ⟨⟨es, left⟩, read, pair⟩ := Option.map_eq_some_iff.1 h
  cases pair
  obtain ⟨body, rfl, spelling, small⟩ := spelling_of_elements? read
  refine ⟨body, rfl, .mk spelling ?_⟩
  cases value : ofElements? es with
  | some ds =>
    show es.flatMap Element.units = (String.ofList ds).toList.flatMap unitsOf
    rw [String.toList_ofList]
    exact (ofElements?_eq_some_iff small).1 value
  | none =>
    intro s same
    exact nomatch value.symm.trans ((ofElements?_eq_some_iff small).2 same)

/-! ## Numbers -/

theorem digits_of_spanDigits {ds : List Char} (h : spanDigits cs = (ds, rest)) (ne : ds ≠ []) :
    ∃ p : Digits, ds = p.chars ∧ cs = p.chars ++ rest := by
  have run : IsRun ds := by
    cases h
    exact fun c hc => List.mem_takeWhile_imp hc
  refine ⟨⟨ds, run, ne⟩, rfl, ?_⟩
  cases h
  exact List.takeWhile_append_dropWhile.symm

theorem exists_places {f : Option (List Char)} (h : fraction? cs = some (f, rest)) :
    ∃ places : Option Digits, f = places.map (·.chars) ∧
      cs = (places.map fun p => '.' :: p.chars).getD [] ++ rest := by
  unfold fraction? at h
  split at h
  · next cs =>
    rcases span : spanDigits cs with ⟨ds, left⟩
    simp only [span] at h
    split at h
    · cases h
    · next some =>
      cases h
      obtain ⟨p, rfl, rfl⟩ := digits_of_spanDigits span (by simpa using some)
      exact ⟨.some p, rfl, rfl⟩
  · cases h
    exact ⟨none, rfl, rfl⟩

theorem exists_sign {negative : Bool} (h : Number.Decimal.sign cs = (negative, rest)) :
    ∃ sign : Option Bool, negative = (sign = some true : Bool) ∧
      cs = (sign.map fun negative => if negative then '-' else '+').toList ++ rest := by
  unfold Number.Decimal.sign at h
  split at h <;> cases h
  · exact ⟨some true, rfl, rfl⟩
  · exact ⟨some false, rfl, rfl⟩
  · exact ⟨none, rfl, rfl⟩

theorem exists_exponent {e : Option Int} (h : exponent? cs = some (e, rest)) :
    ∃ power : Option Exponent, e = power.map (·.value) ∧
      cs = (power.map (·.text)).getD [] ++ rest := by
  unfold exponent? at h
  split at h
  · next mark cs =>
    split at h
    · next isMark =>
      rcases read : Number.Decimal.sign cs with ⟨negative, unsigned⟩
      rcases span : spanDigits unsigned with ⟨ds, left⟩
      simp only [read, span] at h
      split at h
      · cases h
      · next some =>
        cases h
        obtain ⟨p, rfl, rfl⟩ := digits_of_spanDigits span (by simpa using some)
        obtain ⟨sign, rfl, rfl⟩ := exists_sign read
        refine ⟨.some ⟨mark, by simpa using isMark, sign, p⟩, ?_, ?_⟩
        · cases sign <;> simp [Exponent.value]
        · cases sign <;> simp [Exponent.text]
    · cases h
      exact ⟨none, rfl, rfl⟩
  · cases h
    exact ⟨none, rfl, rfl⟩

theorem exists_minus {negative : Bool} (h : minus cs = (negative, rest)) :
    cs = (if negative then ['-'] else []) ++ rest := by
  unfold minus at h
  split at h <;> cases h <;> rfl

theorem exists_numeral {v : Json} (h : number? cs = some (v, rest)) :
    ∃ n : Numeral, v = n.value ∧ cs = n.text ++ rest := by
  unfold number? at h
  rcases sign : minus cs with ⟨negative, unsigned⟩
  rcases span : spanDigits unsigned with ⟨ds, tail⟩
  simp only [sign, span] at h
  split at h
  · cases h
  · next fits =>
    simp only [Option.bind_eq_bind, Option.bind_eq_some_iff] at h
    obtain ⟨⟨f, left⟩, hf, ⟨e, left'⟩, he, eq⟩ := h
    cases eq
    simp only [Bool.or_eq_true, List.isEmpty_iff, Bool.and_eq_true, decide_eq_true_eq, not_or,
      not_and, Decidable.not_not] at fits
    obtain ⟨p, rfl, rfl⟩ := digits_of_spanDigits span fits.1
    obtain ⟨places, rfl, rfl⟩ := exists_places hf
    obtain ⟨power, rfl, rfl⟩ := exists_exponent he
    have noZero : p.chars.head? = some '0' → p.chars = ['0'] := fun zero => by
      obtain ⟨c, eq⟩ := List.length_eq_one_iff.1 (fits.2 zero)
      rw [eq] at zero ⊢
      cases zero
      rfl
    let n : Numeral := ⟨negative, p, noZero, places, power⟩
    refine ⟨n, n.value_eq.symm, ?_⟩
    rw [exists_minus sign]
    simp [n, Numeral.text, Numeral.tail]

/-! ## Values -/

theorem exists_blank (cs : List Char) : ∃ a, Blank a ∧ cs = a ++ skipSpace cs :=
  ⟨cs.takeWhile isSpace, fun _ hc => List.mem_takeWhile_imp hc,
    List.takeWhile_append_dropWhile.symm⟩

theorem word?_eq_some {w : List Char} (h : word? w cs = some rest) : cs = w ++ rest := by
  unfold word? at h
  split at h
  · next before =>
    cases h
    exact (List.prefix_iff_eq_append.1 (List.isPrefixOf_iff_prefix.1 before)).symm
  · cases h

/-- What was read with no more than so much fuel spells what it was read as. -/
structure Grammatical (fuel : Nat) : Prop where
  value : ∀ {cs rest : List Char} {v : Json}, value? fuel cs = some (v, rest) →
    ∃ a body, Blank a ∧ cs = a ++ (body ++ rest) ∧ Spells (.value v) body
  items : ∀ {cs rest : List Char} {vs : List Json}, items? fuel cs = some (vs, rest) →
    ∃ body, cs = body ++ ']' :: rest ∧ Spells (.items vs) body
  members : ∀ {cs rest : List Char} {ms : List (Option String × Json)},
    members? fuel cs = some (ms, rest) →
      ∃ body, cs = body ++ '}' :: rest ∧ Spells (.members ms) body

variable {fuel : Nat}

/-- A value and the blanks behind it. -/
theorem Grammatical.padded (h : Grammatical fuel) {v : Json} {left : List Char} {c : Char}
    (read : value? fuel cs = some (v, left)) (next : skipSpace left = c :: rest) :
    ∃ body, cs = body ++ c :: rest ∧ Spells (.padded v) body := by
  obtain ⟨a, body, ha, rfl, spells⟩ := h.value read
  obtain ⟨b, hb, eq⟩ := exists_blank left
  rw [eq, next]
  exact ⟨a ++ (body ++ b), by simp, .padded ha hb spells⟩

/-- A member and the blanks behind it. -/
theorem Grammatical.member (h : Grammatical fuel) {k : Option String} {v : Json}
    {key colon value left : List Char} {c : Char} (quote : skipSpace cs = '"' :: key)
    (hk : string? key = some (k, colon)) (hc : skipSpace colon = ':' :: value)
    (hv : value? fuel value = some (v, left)) (next : skipSpace left = c :: rest) :
    ∃ body, cs = body ++ c :: rest ∧ Spells (.member (k, v)) body := by
  obtain ⟨a, ha, ea⟩ := exists_blank cs
  obtain ⟨name, rfl, quoted⟩ := quoted_of_string? hk
  obtain ⟨b, hb, eb⟩ := exists_blank colon
  obtain ⟨body, rfl, padded⟩ := h.padded hv next
  rw [quote, eb, hc] at ea
  exact ⟨_, by simp [ea], .member ha hb quoted padded⟩

theorem Grammatical.items_succ (h : Grammatical fuel) {vs : List Json}
    (read : items? (fuel + 1) cs = some (vs, rest)) :
    ∃ body, cs = body ++ ']' :: rest ∧ Spells (.items vs) body := by
  rw [items?] at read
  obtain ⟨⟨v, left⟩, value, rear⟩ := Option.bind_eq_some_iff.1 read
  simp only at rear
  split at rear
  · next close =>
    cases rear
    obtain ⟨body, rfl, padded⟩ := h.padded value close
    exact ⟨body, rfl, .lastItem padded⟩
  · next more comma =>
    obtain ⟨⟨vs, left'⟩, items, pair⟩ := Option.map_eq_some_iff.1 rear
    cases pair
    obtain ⟨body, rfl, padded⟩ := h.padded value comma
    obtain ⟨others, rfl, spells⟩ := h.items items
    exact ⟨body ++ ',' :: others, by simp, .items padded spells⟩
  · cases rear

theorem Grammatical.members_succ (h : Grammatical fuel) {ms : List (Option String × Json)}
    (read : members? (fuel + 1) cs = some (ms, rest)) :
    ∃ body, cs = body ++ '}' :: rest ∧ Spells (.members ms) body := by
  rw [members?] at read
  split at read
  · next key quote =>
    obtain ⟨⟨k, colon⟩, name, behind⟩ := Option.bind_eq_some_iff.1 read
    simp only at behind
    split at behind
    · next value colon' =>
      obtain ⟨⟨v, left⟩, value', rear⟩ := Option.bind_eq_some_iff.1 behind
      simp only at rear
      split at rear
      · next close =>
        cases rear
        obtain ⟨body, rfl, member⟩ := h.member quote name colon' value' close
        exact ⟨body, rfl, .lastMember member⟩
      · next more comma =>
        obtain ⟨⟨ms, left'⟩, members, pair⟩ := Option.map_eq_some_iff.1 rear
        cases pair
        obtain ⟨body, rfl, member⟩ := h.member quote name colon' value' comma
        obtain ⟨others, rfl, spells⟩ := h.members members
        exact ⟨body ++ ',' :: others, by simp, .members member spells⟩
      · cases rear
    · cases behind
  · cases read

theorem Grammatical.value_succ (h : Grammatical fuel) {v : Json}
    (read : value? (fuel + 1) cs = some (v, rest)) :
    ∃ a body, Blank a ∧ cs = a ++ (body ++ rest) ∧ Spells (.value v) body := by
  obtain ⟨a, ha, ea⟩ := exists_blank cs
  -- With the blanks in front set apart, the cases are those of the first character.
  suffices ∃ body, skipSpace cs = body ++ rest ∧ Spells (.value v) body by
    obtain ⟨body, text, spells⟩ := this
    exact ⟨a, body, ha, by rw [← text, ← ea], spells⟩
  rw [value?] at read
  split at read
  · next key quote =>
    obtain ⟨⟨s, left⟩, string, pair⟩ := Option.map_eq_some_iff.1 read
    cases pair
    obtain ⟨body, rfl, quoted⟩ := quoted_of_string? string
    exact ⟨_, by simp [quote], .string quoted⟩
  · next more bracket =>
    obtain ⟨b, hb, eb⟩ := exists_blank more
    split at read
    · next close =>
      cases read
      rw [close] at eb
      exact ⟨_, by simp [bracket, eb], .noItems hb⟩
    · obtain ⟨⟨vs, left⟩, items, pair⟩ := Option.map_eq_some_iff.1 read
      cases pair
      rw [items?_congr (skipSpace_skipSpace more)] at items
      obtain ⟨body, rfl, spells⟩ := h.items items
      exact ⟨_, by simp [bracket], .array spells⟩
  · next more brace =>
    obtain ⟨b, hb, eb⟩ := exists_blank more
    split at read
    · next close =>
      cases read
      rw [close] at eb
      exact ⟨_, by simp [brace, eb], .noMembers hb⟩
    · obtain ⟨⟨ms, left⟩, members, pair⟩ := Option.map_eq_some_iff.1 read
      cases pair
      rw [members?_congr (skipSpace_skipSpace more)] at members
      obtain ⟨body, rfl, spells⟩ := h.members members
      exact ⟨_, by simp [brace], .object spells⟩
  · split at read
    · next word => cases read; exact ⟨_, word?_eq_some word, .null⟩
    · next word _ => cases read; exact ⟨_, word?_eq_some word, .true⟩
    · next word _ _ => cases read; exact ⟨_, word?_eq_some word, .false⟩
    · obtain ⟨n, rfl, text⟩ := exists_numeral read
      exact ⟨_, text, .number n⟩

theorem grammatical (fuel : Nat) : Grammatical fuel := by
  induction fuel with
  | zero => exact ⟨nofun, nofun, nofun⟩
  | succ fuel ih => exact ⟨ih.value_succ, ih.items_succ, ih.members_succ⟩

/-- A text is read as a value exactly if it spells the value, with any blanks around it. -/
theorem read?_eq_some_iff {v : Json} : read? cs = some v ↔ Spells (.padded v) cs := by
  refine ⟨fun h => ?_, read?_of_spells⟩
  obtain ⟨⟨v, left⟩, value, end'⟩ := Option.bind_eq_some_iff.1 h
  simp only [List.isEmpty_iff] at end'
  split at end'
  · next all =>
    cases end'
    obtain ⟨a, body, ha, rfl, spells⟩ := (grammatical _).value value
    obtain ⟨b, hb, eb⟩ := exists_blank left
    rw [all, List.append_nil] at eb
    exact .padded ha (eb ▸ hb) spells
  · cases end'

end Uptime.Json
