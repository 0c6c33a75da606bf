import Audience.Comparison.Numeric
import Audience.Proofs.Trimming
import Mathlib.Algebra.Order.Ring.Int
import Mathlib.Data.List.Chain
import Mathlib.Tactic.SplitIfs

/-!
# How numbers are written

A whole number is written with a sign that may be left out and digits (`WritesInteger`), and a
decimal with digits before or after a point and an exponent (`WritesDecimal`). That is what
`intOfChars?` and `Decimal.ofChars?` read. So a value is numeric if it is a number, or a text that
writes, between white space, a whole number of 128 bits or a decimal that is not too large
(`Json.IsNumeric`), and these are the values with a numeric reading (`isSome_ofJson?_iff`).

In no such text does a minus sign come right after a digit (`Json.IsNumeric.minusesApart`).
-/

namespace Audience

/-! ## Notation -/

/-- Digits, one at least. -/
def IsDigits (ds : List Char) : Prop :=
  ds ≠ [] ∧ ∀ c ∈ ds, isDigit c = true

/-- A sign that may be left out, and whether it is a minus. -/
inductive WritesSign : List Char → Bool → Prop
  | absent : WritesSign [] false
  | plus : WritesSign ['+'] false
  | minus : WritesSign ['-'] true

/-- Whole numbers: digits after a sign. -/
inductive WritesInteger : List Char → Int → Prop
  | mk {sign ds : List Char} {negative : Bool} (hsign : WritesSign sign negative)
      (hds : IsDigits ds) :
      WritesInteger (sign ++ ds) (if negative then -(natOfDigits ds : Int) else natOfDigits ds)

/-- The point of a decimal and the digits after it, if there is one. -/
inductive WritesFraction : List Char → List Char → Prop
  | absent : WritesFraction [] []
  | digits {ds : List Char} (hds : ∀ c ∈ ds, isDigit c = true) : WritesFraction ('.' :: ds) ds

/-- The exponent of a decimal, zero if there is none. -/
inductive WritesExponent : List Char → Int → Prop
  | absent : WritesExponent [] 0
  | marked {mark : Char} {cs : List Char} {e : Int} (hmark : mark = 'e' ∨ mark = 'E')
      (h : WritesInteger cs e) : WritesExponent (mark :: cs) e

/-- Decimals: a sign, digits before or after a point, and an exponent. -/
inductive WritesDecimal : List Char → Decimal → Prop
  | mk {sign whole point fraction exponent : List Char} {negative : Bool} {e : Int}
      (hsign : WritesSign sign negative) (hwhole : ∀ c ∈ whole, isDigit c = true)
      (hpoint : WritesFraction point fraction) (hdigits : whole ++ fraction ≠ [])
      (hexponent : WritesExponent exponent e) :
      WritesDecimal (sign ++ (whole ++ (point ++ exponent)))
        ⟨negative, natOfDigits (whole ++ fraction), e - fraction.length⟩

/-- A number, or a text that writes one between white space: a whole number of 128 bits, or a
decimal with a nearest binary64 number. -/
inductive Json.IsNumeric : Json → Prop
  | number (n : Number) : IsNumeric (.number n)
  | integer {s : String} {i : Int} (h : WritesInteger (Text.trimChars s.toList) i)
      (hlow : -2 ^ 127 ≤ i) (hhigh : i < 2 ^ 127) : IsNumeric (.string s)
  | decimal {s : String} {d : Decimal} {x : Binary64}
      (h : WritesDecimal (Text.trimChars s.toList) d) (hfinite : d.nearest? = some x) :
      IsNumeric (.string s)

/-! ## Reading what is written -/

variable {cs ds sign rest : List Char} {negative : Bool} {i : Int}

theorem ne_sign_of_isDigit {c : Char} (h : isDigit c = true) : c ≠ '-' ∧ c ≠ '+' := by
  constructor <;> rintro rfl <;> revert h <;> decide

theorem splitSign_append (hsign : WritesSign sign negative)
    (h : ∀ c ∈ rest.head?, c ≠ '-' ∧ c ≠ '+') : splitSign (sign ++ rest) = (negative, rest) := by
  cases hsign with
  | absent =>
    cases rest with
    | nil => rfl
    | cons c rest =>
      obtain ⟨hminus, hplus⟩ := h c rfl
      rw [List.nil_append]
      unfold splitSign
      split
      · exact absurd (List.cons.inj ‹_›).1 hminus
      · exact absurd (List.cons.inj ‹_›).1 hplus
      · rfl
  | plus => rfl
  | minus => rfl

theorem exists_sign (cs : List Char) :
    ∃ sign, WritesSign sign (splitSign cs).1 ∧ cs = sign ++ (splitSign cs).2 := by
  unfold splitSign
  split
  · exact ⟨_, .minus, rfl⟩
  · exact ⟨_, .plus, rfl⟩
  · exact ⟨_, .absent, rfl⟩

theorem isDigit_of_mem_toDigits {n : Nat} {c : Char} (h : c ∈ Nat.toDigits 10 n) :
    isDigit c = true :=
  Nat.isDigit_of_mem_toDigits (by decide) (by decide) h

theorem natOfDigits_toDigits (n : Nat) : natOfDigits (Nat.toDigits 10 n) = n :=
  Nat.ofDigitChars_toDigits (by decide) (by decide)

theorem isDigits_iff : IsDigits ds ↔ (ds.isEmpty || !ds.all isDigit) = false := by
  simp [IsDigits]

theorem intOfChars?_eq_some_iff : intOfChars? cs = some i ↔ WritesInteger cs i := by
  constructor
  · intro h
    obtain ⟨sign, hsign, hcs⟩ := exists_sign cs
    unfold intOfChars? at h
    generalize splitSign cs = p at h hsign hcs
    obtain ⟨negative, ds⟩ := p
    dsimp only at h hsign hcs
    cases hdigits : ds.isEmpty || !ds.all isDigit with
    | true =>
      rw [hdigits] at h
      cases h
    | false =>
      rw [hdigits] at h
      obtain rfl := Option.some.inj h
      rw [hcs]
      exact .mk hsign (isDigits_iff.2 hdigits)
  · rintro ⟨hsign, hds⟩
    rename_i sign ds negative
    have hhead : ∀ c ∈ ds.head?, c ≠ '-' ∧ c ≠ '+' := fun c hc =>
      ne_sign_of_isDigit (hds.2 c (List.mem_of_mem_head? hc))
    unfold intOfChars?
    rw [splitSign_append hsign hhead]
    dsimp only
    rw [isDigits_iff.1 hds]
    rfl

theorem exponentOfChars?_cons (c : Char) (cs : List Char) : Decimal.exponentOfChars? (c :: cs) =
    if c = 'e' ∨ c = 'E' then intOfChars? cs else none := by
  simp [Decimal.exponentOfChars?]

theorem exponentOfChars?_eq_some_iff :
    Decimal.exponentOfChars? cs = some i ↔ WritesExponent cs i := by
  constructor
  · intro h
    cases cs with
    | nil =>
      obtain rfl := Option.some.inj h
      exact .absent
    | cons c cs =>
      rw [exponentOfChars?_cons] at h
      split_ifs at h with hmark
      exact .marked hmark (intOfChars?_eq_some_iff.1 h)
  · intro h
    cases h with
    | absent => rfl
    | marked hmark h =>
      rw [exponentOfChars?_cons, if_pos hmark, intOfChars?_eq_some_iff.2 h]

/-- The digits after a point, if one comes first, and what follows them. -/
def splitFraction : List Char → List Char × List Char
  | '.' :: cs => (cs.takeWhile isDigit, cs.dropWhile isDigit)
  | cs => ([], cs)

theorem splitFraction_of_ne (h : ∀ c ∈ cs.head?, c ≠ '.') : splitFraction cs = ([], cs) := by
  unfold splitFraction
  split
  · exact absurd rfl (h '.' rfl)
  · rfl

theorem ofChars?_eq (cs : List Char) : Decimal.ofChars? cs =
    let whole := (splitSign cs).2.takeWhile isDigit
    let rest := splitFraction ((splitSign cs).2.dropWhile isDigit)
    if whole.isEmpty && rest.1.isEmpty then none
    else (Decimal.exponentOfChars? rest.2).map fun e =>
      ⟨(splitSign cs).1, natOfDigits (whole ++ rest.1), e - rest.1.length⟩ := by
  unfold Decimal.ofChars?
  generalize splitSign cs = p
  obtain ⟨negative, body⟩ := p
  dsimp only
  generalize body.dropWhile isDigit = rest
  split
  · rfl
  · rename_i hnot
    rw [splitFraction_of_ne fun c hc hdot => ?_]
    obtain ⟨more, hmore⟩ := List.head?_eq_some_iff.1 hc
    exact hnot more (hdot ▸ hmore)

theorem span_digits (hds : ∀ c ∈ ds, isDigit c = true)
    (hrest : ∀ c ∈ rest.head?, isDigit c = false) :
    (ds ++ rest).takeWhile isDigit = ds ∧ (ds ++ rest).dropWhile isDigit = rest := by
  rw [List.takeWhile_append_of_pos hds, List.dropWhile_append_of_pos hds]
  cases rest with
  | nil => exact ⟨List.append_nil ds, rfl⟩
  | cons c rest =>
    have hc : ¬ isDigit c = true := by simp [hrest c rfl]
    rw [List.takeWhile_cons_of_neg hc, List.dropWhile_cons_of_neg hc, List.append_nil]
    exact ⟨rfl, rfl⟩

theorem isDigit_of_mem_takeWhile {c : Char} (h : c ∈ cs.takeWhile isDigit) : isDigit c = true :=
  List.mem_takeWhile_imp h

theorem splitFraction_append {point fraction : List Char} (hpoint : WritesFraction point fraction)
    (hrest : ∀ c ∈ rest.head?, isDigit c = false ∧ c ≠ '.') :
    splitFraction (point ++ rest) = (fraction, rest) := by
  cases hpoint with
  | absent => exact splitFraction_of_ne fun c hc => (hrest c hc).2
  | digits hds =>
    obtain ⟨htake, hdrop⟩ := span_digits hds fun c hc => (hrest c hc).1
    rw [List.cons_append, splitFraction, htake, hdrop]

theorem exists_fraction (cs : List Char) :
    ∃ point, WritesFraction point (splitFraction cs).1 ∧ cs = point ++ (splitFraction cs).2 := by
  unfold splitFraction
  split
  · exact ⟨_, .digits fun c => isDigit_of_mem_takeWhile,
      by rw [List.cons_append, List.takeWhile_append_dropWhile]⟩
  · exact ⟨[], .absent, rfl⟩

theorem head?_exponent {e : Int} (h : WritesExponent cs e) :
    ∀ c ∈ cs.head?, isDigit c = false ∧ c ≠ '.' ∧ c ≠ '-' ∧ c ≠ '+' := by
  cases h with
  | absent => simp
  | marked hmark _ =>
    rintro c ⟨⟩
    rcases hmark with rfl | rfl <;> decide

theorem ofChars?_eq_some_iff {d : Decimal} : Decimal.ofChars? cs = some d ↔ WritesDecimal cs d := by
  rw [ofChars?_eq]
  constructor
  · intro h
    obtain ⟨sign, hsign, hcs⟩ := exists_sign cs
    generalize splitSign cs = p at h hsign hcs
    obtain ⟨negative, body⟩ := p
    obtain ⟨point, hpoint, hrest⟩ := exists_fraction (body.dropWhile isDigit)
    generalize splitFraction (body.dropWhile isDigit) = q at h hpoint hrest
    obtain ⟨fraction, exponent⟩ := q
    dsimp only at h hsign hcs hpoint hrest
    split_ifs at h with hempty
    obtain ⟨e, he, rfl⟩ := Option.map_eq_some_iff.1 h
    have hall : cs = sign ++ (body.takeWhile isDigit ++ (point ++ exponent)) := by
      rw [← hrest, List.takeWhile_append_dropWhile, hcs]
    rw [hall]
    refine .mk hsign (fun c => isDigit_of_mem_takeWhile) hpoint (fun hnil => hempty ?_)
      (exponentOfChars?_eq_some_iff.1 he)
    obtain ⟨hwhole, hfraction⟩ := List.append_eq_nil_iff.1 hnil
    rw [hwhole, hfraction]
    rfl
  · rintro ⟨hsign, hwhole, hpoint, hdigits, hexponent⟩
    rename_i sign whole point fraction exponent negative e
    have hexponent' := head?_exponent hexponent
    have hrest : ∀ c ∈ (point ++ exponent).head?, isDigit c = false ∧ c ≠ '-' ∧ c ≠ '+' := by
      cases hpoint with
      | absent => exact fun c hc => ⟨(hexponent' c hc).1, (hexponent' c hc).2.2⟩
      | digits =>
        rintro c ⟨⟩
        decide
    have hbody : ∀ c ∈ (whole ++ (point ++ exponent)).head?, c ≠ '-' ∧ c ≠ '+' := by
      cases whole with
      | nil => exact fun c hc => (hrest c hc).2
      | cons d whole =>
        rintro c ⟨⟩
        exact ne_sign_of_isDigit (hwhole d List.mem_cons_self)
    obtain ⟨htake, hdrop⟩ := span_digits hwhole fun c hc => (hrest c hc).1
    rw [splitSign_append hsign hbody]
    dsimp only
    rw [htake, hdrop, splitFraction_append hpoint fun c hc => ⟨(hexponent' c hc).1,
      (hexponent' c hc).2.1⟩, exponentOfChars?_eq_some_iff.2 hexponent]
    rw [if_neg fun hempty => hdigits ?_]
    · rfl
    · simpa using hempty

/-! ## Readings -/

theorem fitsSigned_iff : fitsSigned 128 i = true ↔ -2 ^ 127 ≤ i ∧ i < 2 ^ 127 := by
  simp [fitsSigned, and_comm]

theorem integerOfChars?_eq_some_iff : Numeric.integerOfChars? cs = some i ↔
    WritesInteger cs i ∧ -2 ^ 127 ≤ i ∧ i < 2 ^ 127 := by
  rw [Numeric.integerOfChars?, Option.filter_eq_some_iff, intOfChars?_eq_some_iff, fitsSigned_iff]

theorem isSome_ofText?_iff {s : String} :
    (Numeric.ofText? s).isSome ↔ (Json.string s).IsNumeric := by
  unfold Numeric.ofText?
  dsimp only
  constructor
  · intro h
    split at h
    · rename_i i hi
      obtain ⟨hwritten, hlow, hhigh⟩ := integerOfChars?_eq_some_iff.1 hi
      exact .integer hwritten hlow hhigh
    · rw [Option.isSome_map, Option.isSome_iff_exists] at h
      obtain ⟨x, hx⟩ := h
      obtain ⟨d, hd, hfinite⟩ := Option.bind_eq_some_iff.1 hx
      exact .decimal (ofChars?_eq_some_iff.1 hd) hfinite
  · intro h
    cases h with
    | integer hwritten hlow hhigh =>
      rw [integerOfChars?_eq_some_iff.2 ⟨hwritten, hlow, hhigh⟩]
      rfl
    | decimal hwritten hfinite =>
      split
      · rfl
      · rw [ofChars?_eq_some_iff.2 hwritten, Option.bind_some, hfinite]
        rfl

/-- The values with a numeric reading are the numeric ones. -/
theorem isSome_ofJson?_iff {j : Json} : (Numeric.ofJson? j).isSome ↔ j.IsNumeric := by
  cases j with
  | number n =>
    cases n with
    | integer i => exact ⟨fun _ => .number _, fun _ => rfl⟩
    | float x => exact ⟨fun _ => .number _, fun _ => rfl⟩
  | string s => exact isSome_ofText?_iff
  | _ => exact ⟨fun h => (by cases h), fun h => (by cases h)⟩

theorem Json.IsNumeric.exists_reading {j : Json} (h : j.IsNumeric) :
    ∃ m, Numeric.ofJson? j = some m :=
  Option.isSome_iff_exists.1 (isSome_ofJson?_iff.2 h)

theorem isNumeric_of_reading {j : Json} {m : Numeric} (h : Numeric.ofJson? j = some m) :
    j.IsNumeric :=
  isSome_ofJson?_iff.1 (Option.isSome_iff_exists.2 ⟨m, h⟩)

/-! ## Minus signs -/

/-- No minus sign comes right after a digit. -/
def MinusesApart (cs : List Char) : Prop :=
  cs.IsChain fun c d => isDigit c = true → d ≠ '-'

theorem minusesApart_of_not_mem (h : '-' ∉ cs) : MinusesApart cs := by
  refine List.Pairwise.isChain (List.pairwise_of_forall_mem_list ?_)
  intro c _ d hd _ hminus
  exact h (hminus ▸ hd)

theorem minusesApart_append : MinusesApart (cs ++ ds) ↔ MinusesApart cs ∧ MinusesApart ds ∧
    ∀ c ∈ cs.getLast?, ∀ d ∈ ds.head?, isDigit c = true → d ≠ '-' :=
  List.isChain_append

theorem minus_not_mem_of_digits (hds : ∀ c ∈ ds, isDigit c = true) : '-' ∉ ds :=
  fun hmem => (ne_sign_of_isDigit (hds _ hmem)).1 rfl

theorem minusesApart_sign_append (hsign : WritesSign sign negative) (h : MinusesApart rest) :
    MinusesApart (sign ++ rest) := by
  refine minusesApart_append.2 ⟨?_, h, ?_⟩
  · cases hsign with
    | absent => exact .nil
    | plus => exact .singleton _
    | minus => exact .singleton _
  · intro c hc d _ hdigit
    cases hsign with
    | absent => cases hc
    | plus =>
      cases hc
      cases hdigit
    | minus =>
      cases hc
      cases hdigit

theorem WritesInteger.minusesApart (h : WritesInteger cs i) : MinusesApart cs := by
  obtain ⟨hsign, hds⟩ := h
  exact minusesApart_sign_append hsign (minusesApart_of_not_mem (minus_not_mem_of_digits hds.2))

theorem WritesExponent.minusesApart (h : WritesExponent cs i) : MinusesApart cs := by
  cases h with
  | absent => exact .nil
  | marked hmark h =>
    refine List.isChain_cons.2 ⟨fun d _ hdigit => ?_, h.minusesApart⟩
    rcases hmark with rfl | rfl <;> cases hdigit

theorem WritesDecimal.minusesApart {d : Decimal} (h : WritesDecimal cs d) : MinusesApart cs := by
  obtain ⟨hsign, hwhole, hpoint, hdigits, hexponent⟩ := h
  rename_i sign whole point fraction exponent negative e
  have hminus : '-' ∉ whole ++ point := by
    cases hpoint with
    | absent => simpa using minus_not_mem_of_digits hwhole
    | digits hds => simp [minus_not_mem_of_digits hwhole, minus_not_mem_of_digits hds]
  refine minusesApart_sign_append hsign ?_
  rw [← List.append_assoc]
  exact minusesApart_append.2 ⟨minusesApart_of_not_mem hminus, hexponent.minusesApart,
    fun c _ d hd _ => (head?_exponent hexponent d hd).2.2.1⟩

/-- White space before and after characters is no reason for minus signs after digits. -/
theorem minusesApart_of_trimChars (h : MinusesApart (Text.trimChars cs)) : MinusesApart cs := by
  obtain ⟨lead, trail, hlead, htrail, hcs⟩ := Text.exists_padding cs
  have hne : ∀ c, Text.isBlank c = true → c ≠ '-' := by
    rintro c hblank rfl
    cases hblank
  have hminus {cs : List Char} (h : ∀ c ∈ cs, Text.isBlank c = true) : MinusesApart cs :=
    minusesApart_of_not_mem fun hmem => hne _ (h _ hmem) rfl
  rw [hcs]
  refine minusesApart_append.2 ⟨minusesApart_append.2 ⟨hminus hlead, h, ?_⟩, hminus htrail, ?_⟩
  · intro c hc d _ hdigit
    have hblank := hlead c (List.mem_of_mem_getLast? hc)
    rw [Text.isBlank_of_isDigit hdigit] at hblank
    cases hblank
  · exact fun c _ d hd _ => hne d (htrail d (List.mem_of_mem_head? hd))

theorem Json.IsNumeric.minusesApart {s : String} (h : (Json.string s).IsNumeric) :
    MinusesApart s.toList := by
  refine minusesApart_of_trimChars ?_
  cases h with
  | integer h => exact h.minusesApart
  | decimal h => exact h.minusesApart

end Audience
