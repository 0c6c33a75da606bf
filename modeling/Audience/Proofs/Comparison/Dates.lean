import Audience.Proofs.Numbers.Numerals
import Audience.Time.Instant

/-!
# Dates are no numbers

Instants are in a total order in which only an instant itself is equal to it. A text that writes one
has a year in it with a minus sign right after its digits (`exists_year_of_ofText?`), whichever way
the date is written, and that is found in no numeral. So a text is never read both as an instant and
as a number (`not_isNumeric_of_ofText?`).
-/

namespace Audience.Instant

/-! ## The order in time -/

instance transCmp_order : Std.TransCmp order :=
  inferInstanceAs (Std.TransCmp (compareLex (compareOn second) (compareOn nano)))

instance lawfulEqCmp_order : Std.LawfulEqCmp order where
  eq_of_compare {a b} h := by
    obtain ⟨hsecond, hnano⟩ := Ordering.then_eq_eq.1 h
    obtain ⟨second, nano⟩ := a
    obtain ⟨second', nano'⟩ := b
    rw [mk.injEq]
    exact ⟨Std.LawfulEqOrd.eq_of_compare hsecond, Std.LawfulEqOrd.eq_of_compare hnano⟩

theorem order_swap (x y : Instant) : x.order y = (y.order x).swap :=
  Std.OrientedCmp.eq_swap

theorem order_eq_eq_iff {x y : Instant} : x.order y = .eq ↔ x = y :=
  Std.LawfulEqCmp.compare_eq_iff_eq

/-! ## The year of a date -/

variable {cs rest : List Char} {n : Nat}

theorem exists_digits_of_fixedDigits? {count : Nat} (h : fixedDigits? count cs = some (n, rest)) :
    ∃ ds, ds.length = count ∧ (∀ c ∈ ds, isDigit c = true) ∧ cs = ds ++ rest := by
  unfold fixedDigits? at h
  dsimp only at h
  split_ifs at h with hds
  obtain ⟨hlength, hall⟩ := hds
  obtain ⟨-, rfl⟩ := Prod.mk.inj (Option.some.inj h)
  exact ⟨_, hlength, List.all_eq_true.1 hall, (List.take_append_drop count cs).symm⟩

theorem after?_eq_some_iff {c : Char} : after? c cs = some rest ↔ cs = c :: rest := by
  cases cs with
  | nil => simp [after?]
  | cons d cs =>
    by_cases hd : d = c <;> simp [after?, hd]

theorem exists_lead (cs : List Char) : ∃ lead, cs = lead ++ Text.trimStartChars cs :=
  ⟨cs.takeWhile Text.isBlank, List.takeWhile_append_dropWhile.symm⟩

theorem exists_digits_of_spacedDigits? {most : Nat}
    (h : spacedDigits? most cs = some (n, rest)) :
    ∃ lead ds, IsDigits ds ∧ cs = lead ++ (ds ++ rest) := by
  obtain ⟨lead, hlead⟩ := exists_lead cs
  unfold spacedDigits? at h
  generalize Text.trimStartChars cs = body at h hlead
  dsimp only at h
  have hpre : (body.take most).takeWhile isDigit <+: body :=
    (List.takeWhile_prefix _).trans (List.take_prefix _ _)
  have hall : ∀ c ∈ (body.take most).takeWhile isDigit, isDigit c = true :=
    fun c => isDigit_of_mem_takeWhile
  generalize (body.take most).takeWhile isDigit = ds at h hpre hall
  obtain ⟨after, rfl⟩ := hpre
  split_ifs at h with hempty
  obtain ⟨-, rfl⟩ := Prod.mk.inj (Option.some.inj h)
  refine ⟨lead, ds, ⟨by simpa using hempty, hall⟩, ?_⟩
  rw [hlead, List.drop_left]

theorem exists_digits_of_signed (h : year?.signed cs = some (n, rest)) :
    ∃ ds, IsDigits ds ∧ cs = ds ++ rest := by
  unfold year?.signed at h
  dsimp only at h
  split_ifs at h with hempty
  obtain ⟨-, rfl⟩ := Prod.mk.inj (Option.some.inj h)
  exact ⟨_, ⟨by simpa using hempty, fun c => isDigit_of_mem_takeWhile⟩,
    List.takeWhile_append_dropWhile.symm⟩

theorem exists_digits_of_year? {year : Int} (h : year? cs = some (year, rest)) :
    ∃ lead ds, IsDigits ds ∧ cs = lead ++ (ds ++ rest) := by
  obtain ⟨lead, hlead⟩ := exists_lead cs
  unfold year? at h
  generalize Text.trimStartChars cs = body at h hlead
  split at h
  · obtain ⟨⟨n, rest'⟩, hsigned, hyear⟩ := Option.map_eq_some_iff.1 h
    obtain ⟨-, rfl⟩ := Prod.mk.inj hyear
    obtain ⟨ds, hds, rfl⟩ := exists_digits_of_signed hsigned
    exact ⟨lead ++ ['-'], ds, hds, by rw [hlead, List.append_assoc, List.singleton_append]⟩
  · obtain ⟨⟨n, rest'⟩, hsigned, hyear⟩ := Option.map_eq_some_iff.1 h
    obtain ⟨-, rfl⟩ := Prod.mk.inj hyear
    obtain ⟨ds, hds, rfl⟩ := exists_digits_of_signed hsigned
    exact ⟨lead ++ ['+'], ds, hds, by rw [hlead, List.append_assoc, List.singleton_append]⟩
  · obtain ⟨⟨n, rest'⟩, hspaced, hyear⟩ := Option.map_eq_some_iff.1 h
    obtain ⟨-, rfl⟩ := Prod.mk.inj hyear
    obtain ⟨lead', ds, hds, rfl⟩ := exists_digits_of_spacedDigits? hspaced
    exact ⟨lead ++ lead', ds, hds, by rw [hlead, List.append_assoc]⟩

/-- However a date is written, there are digits in it with a minus sign right after them. -/
theorem exists_year_of_ofText? {s : String} {x : Instant} (h : ofText? s = some x) :
    ∃ lead ds rest, IsDigits ds ∧ s.toList = lead ++ (ds ++ '-' :: rest) := by
  rcases Option.or_eq_some_iff.1 h with h | ⟨-, h⟩
  · obtain ⟨⟨year, afterYear⟩, hyear, h⟩ := Option.bind_eq_some_iff.1 h
    obtain ⟨rest, hrest, -⟩ := Option.bind_eq_some_iff.1 h
    obtain ⟨ds, hlength, hds, hcs⟩ := exists_digits_of_fixedDigits? hyear
    obtain rfl := after?_eq_some_iff.1 hrest
    refine ⟨[], ds, rest, ⟨?_, hds⟩, hcs⟩
    rintro rfl
    cases hlength
  · obtain ⟨⟨year, afterYear⟩, hyear, h⟩ := Option.bind_eq_some_iff.1 h
    obtain ⟨rest, hrest, -⟩ := Option.bind_eq_some_iff.1 h
    obtain ⟨lead, ds, hds, hcs⟩ := exists_digits_of_year? hyear
    obtain rfl := after?_eq_some_iff.1 hrest
    exact ⟨lead, ds, rest, hds, hcs⟩

/-- A text that writes an instant writes no number. -/
theorem not_isNumeric_of_ofText? {s : String} {x : Instant} (h : ofText? s = some x) :
    ¬ (Json.string s).IsNumeric := by
  intro hnumeric
  obtain ⟨lead, ds, rest, ⟨hne, hds⟩, hcs⟩ := exists_year_of_ofText? h
  have hapart := hnumeric.minusesApart
  rw [hcs, minusesApart_append, minusesApart_append] at hapart
  have hlast := List.getLast?_eq_some_getLast hne
  exact hapart.2.1.2.2 _ hlast '-' rfl (hds _ (List.getLast_mem hne)) rfl

theorem reading_eq_none {s : String} {x : Instant} (h : ofText? s = some x) :
    Numeric.ofJson? (.string s) = none := by
  rw [← Option.not_isSome_iff_eq_none, isSome_ofJson?_iff]
  exact not_isNumeric_of_ofText? h

end Audience.Instant
