import Uptime.Icmp.PingText
import Uptime.Proofs.Number.Plain

/-!
# The output of `ping`

What counts as the time of a packet (`PacketTime`) and as a summary with a mean (`Mean`) is given by
the texts themselves, and the reader finds the leftmost of each (`leftmost?_packetTime?`,
`leftmost?_mean?`). A reader takes all blanks and all digits that there are, and no other way to
read such a text exists, since no blank is a digit and the word behind them is neither.
-/

namespace Uptime.Icmp.PingText

open Number (IsPlain)
open Text (strip? strip?_eq_some_iff span_eq_iff trimStart trimStart_eq_iff isBlank)

/-! ## The texts -/

/-- Digits and points, at least one. -/
def IsNumeral (run : List Char) : Prop := run ≠ [] ∧ IsPlain run

/-- Nothing but blanks. -/
def AllBlank (cs : List Char) : Prop := ∀ c ∈ cs, isBlank c = true

/-- A text that begins with the time of a packet, and the digits and points of that time. -/
def PacketTime (cs run : List Char) : Prop :=
  IsNumeral run ∧ ∃ word blanks after, (word = "time=" ∨ word = "time<") ∧ AllBlank blanks ∧
    cs = word.toList ++ (run ++ (blanks ++ ("ms".toList ++ after)))

/-- A text that begins with a summary, and the digits and points of its mean. -/
def Mean (cs run : List Char) : Prop :=
  IsNumeral run ∧ ∃ word gap deviation before behind least after,
    (word = "rtt" ∨ word = "round-trip") ∧ (gap ≠ [] ∧ AllBlank gap) ∧
    (deviation = "mdev" ∨ deviation = "stddev") ∧ AllBlank before ∧ AllBlank behind ∧
    IsNumeral least ∧
    cs = word.toList ++ (gap ++ ("min/avg/max/".toList ++ (deviation.toList ++ (before ++
      ('=' :: (behind ++ (least ++ ('/' :: (run ++ ('/' :: after))))))))))

/-- The leftmost place of a text where there is something to read: no longer rest of the text has
anything. -/
def Leftmost (reads : List Char → List Char → Prop) (text run : List Char) : Prop :=
  ∃ here, here <:+ text ∧ reads here run ∧
    ∀ earlier, earlier <:+ text → here.length < earlier.length → ∀ other, ¬reads earlier other

theorem PacketTime.isNumeral {cs run : List Char} (h : PacketTime cs run) : IsNumeral run := h.1

theorem Mean.isNumeral {cs run : List Char} (h : Mean cs run) : IsNumeral run := h.1

theorem Leftmost.reads {reads : List Char → List Char → Prop} {text run : List Char}
    (h : Leftmost reads text run) : ∃ here, reads here run := by
  obtain ⟨here, -, now, -⟩ := h
  exact ⟨here, now⟩

/-! ## Searching -/

section Searching

variable {reads : List Char → List Char → Prop} {text run : List Char} {c : Char} {cs : List Char}

/-- What can be read where a text begins is leftmost, and it is all that is. -/
theorem leftmost_front {first : List Char} (now : reads text first) :
    Leftmost reads text run ↔ reads text run := by
  constructor
  · rintro ⟨here, suffix, there, none⟩
    rcases Nat.lt_or_ge here.length text.length with shorter | whole
    · exact absurd now (none text (List.suffix_refl text) shorter first)
    · rwa [suffix.eq_of_length_le whole] at there
  · intro now
    refine ⟨text, List.suffix_refl text, now, ?_⟩
    intro earlier suffix longer
    exact absurd suffix.length_le (Nat.not_le.2 longer)

theorem leftmost_nil : Leftmost reads [] run ↔ reads [] run := by
  constructor
  · rintro ⟨here, suffix, now, -⟩
    rwa [List.suffix_nil.1 suffix] at now
  · intro now
    exact (leftmost_front now).2 now

/-- Where nothing can be read in front, the search goes on behind the first character. -/
theorem leftmost_cons (nothing : ∀ other, ¬reads (c :: cs) other) :
    Leftmost reads (c :: cs) run ↔ Leftmost reads cs run := by
  constructor
  · rintro ⟨here, suffix, now, none⟩
    rcases List.suffix_cons_iff.1 suffix with rfl | suffix
    · exact absurd now (nothing run)
    · exact ⟨here, suffix, now, fun earlier shorter =>
        none earlier (shorter.trans (List.suffix_cons c cs))⟩
  · rintro ⟨here, suffix, now, none⟩
    refine ⟨here, suffix.trans (List.suffix_cons c cs), now, ?_⟩
    intro earlier earlierSuffix longer
    rcases List.suffix_cons_iff.1 earlierSuffix with rfl | earlierSuffix
    · exact nothing
    · exact none earlier earlierSuffix longer

theorem leftmost?_eq_some_iff {read : List Char → Option (List Char)}
    (same : ∀ cs run, read cs = some run ↔ reads cs run) :
    leftmost? read text = some run ↔ Leftmost reads text run := by
  induction text with
  | nil => rw [leftmost?, same, leftmost_nil]
  | cons c cs ih =>
    rw [leftmost?]
    cases first : read (c :: cs) with
    | some a => rw [leftmost_front ((same _ _).1 first), ← same, first]
    | none =>
      have nothing : ∀ other, ¬reads (c :: cs) other := by
        intro other reads
        cases first.symm.trans ((same _ _).2 reads)
      exact ih.trans (leftmost_cons nothing).symm

end Searching

/-! ## Reading -/

theorem isNumeral_iff {c : Char} : isNumeral c = true ↔ c.isDigit = true ∨ c = '.' := by
  simp [isNumeral, Char.isDigit, Char.le_def]

theorem isNumeral_of_isBlank {c : Char} (blank : isBlank c = true) : isNumeral c = false := by
  by_contra numeral
  rw [Bool.not_eq_false, isNumeral_iff] at numeral
  rcases numeral with digit | rfl
  · have range := Number.toNat_of_isDigit digit
    simp [isBlank] at blank
    omega
  · cases blank

/-- What a run of blanks and digits that has come to its end goes on with. -/
theorem head?_blanks {blanks rest : List Char} (all : AllBlank blanks)
    (stop : ∀ c, rest.head? = some c → isNumeral c = false) :
    ∀ c, (blanks ++ rest).head? = some c → isNumeral c = false := by
  intro c first
  cases blanks with
  | nil => exact stop c first
  | cons d blanks =>
    obtain rfl := Option.some.inj first
    exact isNumeral_of_isBlank (all d List.mem_cons_self)

/-- Digits and points do not begin with a blank. -/
theorem IsNumeral.head? {run : List Char} (h : IsNumeral run) (rest : List Char) :
    ∀ c, (run ++ rest).head? = some c → isBlank c = false := by
  intro c first
  obtain ⟨d, run, rfl⟩ := List.exists_cons_of_ne_nil h.1
  obtain rfl := Option.some.inj first
  have numeral := isNumeral_iff.2 (h.2 d List.mem_cons_self)
  refine eq_false_of_ne_true fun blank => ?_
  rw [isNumeral_of_isBlank blank] at numeral
  cases numeral

variable {cs rest run : List Char}

/-- One of two words that no text begins with both of. -/
theorem either?_eq_some_iff {a b : String} (apart : ∀ r s, a.toList ++ r ≠ b.toList ++ s) :
    either? a.toList b.toList cs = some rest ↔
      ∃ word, (word = a ∨ word = b) ∧ cs = word.toList ++ rest := by
  simp only [or_and_right, exists_or, exists_eq_left]
  unfold either?
  split
  · next other found =>
    obtain rfl := strip?_eq_some_iff.1 found
    constructor
    · rintro ⟨⟩
      exact .inl rfl
    · rintro (same | same)
      · rw [List.append_cancel_left same]
      · exact absurd same (apart _ _)
  · next missing =>
    rw [strip?_eq_some_iff, or_iff_right]
    intro same
    cases missing.symm.trans (strip?_eq_some_iff.2 same)

theorem run?_eq_some_iff : run? cs = some (run, rest) ↔
    cs = run ++ rest ∧ IsNumeral run ∧ ∀ c, rest.head? = some c → isNumeral c = false := by
  have plain : IsPlain run ↔ ∀ c ∈ run, isNumeral c = true := by
    simp only [IsPlain, isNumeral_iff]
  have found : run? cs = some (run, rest) ↔
      (cs.takeWhile isNumeral, cs.dropWhile isNumeral) = (run, rest) ∧ run ≠ [] := by
    unfold run?
    simp only [List.isEmpty_iff, Prod.mk.injEq]
    split
    · next nil =>
      constructor
      · nofun
      · rintro ⟨⟨rfl, -⟩, some⟩
        exact absurd nil some
    · next some =>
      constructor
      · rintro ⟨⟩
        exact ⟨⟨rfl, rfl⟩, some⟩
      · rintro ⟨⟨rfl, rfl⟩, -⟩
        rfl
  rw [found, span_eq_iff, IsNumeral, plain]
  tauto

theorem blanks?_eq_some_iff : blanks? cs = some rest ↔
    ∃ gap, cs = gap ++ rest ∧ (gap ≠ [] ∧ AllBlank gap) ∧
      ∀ c, rest.head? = some c → isBlank c = false := by
  cases cs with
  | nil =>
    constructor
    · nofun
    · rintro ⟨gap, split, ⟨some, -⟩, -⟩
      exact absurd (List.append_eq_nil_iff.1 split.symm).1 some
  | cons c tail =>
    rw [blanks?]
    constructor
    · intro found
      split at found
      · next blank =>
        obtain ⟨blanks, rfl, all, stop⟩ := trimStart_eq_iff.1 (Option.some.inj found)
        have gap : AllBlank (c :: blanks) := List.forall_mem_cons.2 ⟨blank, all⟩
        exact ⟨c :: blanks, rfl, ⟨List.cons_ne_nil c blanks, gap⟩, stop⟩
      · cases found
    · rintro ⟨gap, split, ⟨some, all⟩, stop⟩
      obtain ⟨d, blanks, rfl⟩ := List.exists_cons_of_ne_nil some
      obtain ⟨rfl, rfl⟩ := List.cons.inj split
      obtain ⟨blank, all⟩ := List.forall_mem_cons.1 all
      rw [if_pos blank]
      exact congrArg _ (trimStart_eq_iff.2 ⟨blanks, rfl, all, stop⟩)

theorem packetTime?_eq_some_iff : packetTime? cs = some run ↔ PacketTime cs run := by
  have apart : ∀ r s, "time=".toList ++ r ≠ "time<".toList ++ s := by
    intro r s same
    simp at same
  simp only [packetTime?, Option.bind_eq_bind, Option.bind_eq_some_iff, either?_eq_some_iff apart,
    strip?_eq_some_iff]
  constructor
  · rintro ⟨tail, ⟨word, isWord, rfl⟩, ⟨read, last⟩, digits, after, unit, ⟨⟩⟩
    obtain ⟨rfl, numeral, -⟩ := run?_eq_some_iff.1 digits
    obtain ⟨blanks, rfl, all, -⟩ := trimStart_eq_iff.1 unit
    exact ⟨numeral, word, blanks, after, isWord, all, rfl⟩
  · rintro ⟨numeral, word, blanks, after, isWord, all, rfl⟩
    have letter : ∀ c, ("ms".toList ++ after).head? = some c →
        isNumeral c = false ∧ isBlank c = false := by
      rintro c ⟨⟩
      exact ⟨rfl, rfl⟩
    exact ⟨_, ⟨word, isWord, rfl⟩, _,
      run?_eq_some_iff.2 ⟨rfl, numeral, head?_blanks all fun c first => (letter c first).1⟩, _,
      trimStart_eq_iff.2 ⟨blanks, rfl, all, fun c first => (letter c first).2⟩, rfl⟩

theorem mean?_eq_some_iff : mean? cs = some run ↔ Mean cs run := by
  have apart : ∀ r s, "rtt".toList ++ r ≠ "round-trip".toList ++ s := by
    intro r s same
    simp at same
  have distinct : ∀ r s, "mdev".toList ++ r ≠ "stddev".toList ++ s := by
    intro r s same
    simp at same
  simp only [mean?, Option.bind_eq_bind, Option.bind_eq_some_iff, either?_eq_some_iff apart,
    either?_eq_some_iff distinct, strip?_eq_some_iff]
  constructor
  · rintro ⟨tail, ⟨word, isWord, rfl⟩, next, gapped, values, rfl, rest,
      ⟨deviation, isDeviation, rfl⟩, equals, sign, ⟨least, slash⟩, first, middle, rfl,
      ⟨read, last⟩, second, after, rfl, ⟨⟩⟩
    obtain ⟨gap, rfl, blank, -⟩ := blanks?_eq_some_iff.1 gapped
    obtain ⟨before, rfl, beforeBlank, -⟩ := trimStart_eq_iff.1 sign
    obtain ⟨first, leastNumeral, -⟩ := run?_eq_some_iff.1 first
    obtain ⟨behind, rfl, behindBlank, -⟩ := trimStart_eq_iff.1 first
    obtain ⟨rfl, numeral, -⟩ := run?_eq_some_iff.1 second
    exact ⟨numeral, word, gap, deviation, before, behind, least, after, isWord, blank, isDeviation,
      beforeBlank, behindBlank, leastNumeral, rfl⟩
  · rintro ⟨numeral, word, gap, deviation, before, behind, least, after, isWord, blank, isDeviation,
      beforeBlank, behindBlank, leastNumeral, rfl⟩
    have slash : ∀ rest c, ('/' :: rest).head? = some c → isNumeral c = false := by
      rintro rest c ⟨⟩
      rfl
    have letter : ∀ rest c, ("min/avg/max/".toList ++ rest).head? = some c → isBlank c = false := by
      rintro rest c ⟨⟩
      rfl
    have sign : ∀ rest c, ('=' :: rest).head? = some c → isBlank c = false := by
      rintro rest c ⟨⟩
      rfl
    exact ⟨_, ⟨word, isWord, rfl⟩, _, blanks?_eq_some_iff.2 ⟨gap, rfl, blank, letter _⟩, _, rfl, _,
      ⟨deviation, isDeviation, rfl⟩, _, trimStart_eq_iff.2 ⟨before, rfl, beforeBlank, sign _⟩, _,
      run?_eq_some_iff.2 ⟨trimStart_eq_iff.2 ⟨behind, rfl, behindBlank, leastNumeral.head? _⟩,
        leastNumeral, slash _⟩,
      _, rfl, _, run?_eq_some_iff.2 ⟨rfl, numeral, slash _⟩, _, rfl, rfl⟩

theorem leftmost?_packetTime? (text run : List Char) :
    leftmost? packetTime? text = some run ↔ Leftmost PacketTime text run :=
  leftmost?_eq_some_iff fun _ _ => packetTime?_eq_some_iff

theorem leftmost?_mean? (text run : List Char) :
    leftmost? mean? text = some run ↔ Leftmost Mean text run :=
  leftmost?_eq_some_iff fun _ _ => mean?_eq_some_iff

end Uptime.Icmp.PingText
