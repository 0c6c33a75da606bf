import Audience.Number.Decimal
import Audience.Text.Blank
import Mathlib.Data.List.DropRight

/-!
# What trimming leaves

`trimChars` takes white space away at both ends. Nothing is left exactly of what is blank
(`trim_eq_empty_iff`), trimming is done once and for all, and characters are what is left of them
with white space before and after (`exists_padding`), whatever white space that is
(`trimChars_padded`).
-/

namespace Audience.Text

variable {cs lead trail : List Char}

theorem isBlank_of_isDigit {c : Char} (h : isDigit c = true) : isBlank c = false := by
  obtain ⟨hlow, hhigh⟩ : 48 ≤ c.toNat ∧ c.toNat ≤ 57 := by
    simpa [isDigit, Char.le_def, UInt32.le_iff_toNat_le] using h
  simp [isBlank, blankIntervals]
  omega

theorem trimChars_eq_rdropWhile (cs : List Char) :
    trimChars cs = (cs.dropWhile isBlank).rdropWhile isBlank := rfl

theorem trimChars_eq_nil_iff : trimChars cs = [] ↔ ∀ c ∈ cs, isBlank c = true := by
  rw [trimChars_eq_rdropWhile, List.rdropWhile_eq_nil_iff, ← List.dropWhile_eq_nil_iff,
    List.dropWhile_idempotent, List.dropWhile_eq_nil_iff]

theorem trim_eq_empty_iff {s : String} : trim s = "" ↔ blank s = true := by
  rw [trim, blank, List.all_eq_true, ← trimChars_eq_nil_iff]
  exact String.ofList_eq_empty_iff

theorem rdropWhile_append_of_blank (cs : List Char) (htrail : ∀ c ∈ trail, isBlank c = true) :
    (cs ++ trail).rdropWhile isBlank = cs.rdropWhile isBlank := by
  unfold List.rdropWhile
  rw [List.reverse_append,
    List.dropWhile_append_of_pos fun c hc => htrail c (List.mem_reverse.1 hc)]

/-- White space before and after characters makes no difference to what is left of them. -/
theorem trimChars_padded (cs : List Char) (hlead : ∀ c ∈ lead, isBlank c = true)
    (htrail : ∀ c ∈ trail, isBlank c = true) : trimChars (lead ++ cs ++ trail) = trimChars cs := by
  rw [trimChars_eq_rdropWhile, List.append_assoc, List.dropWhile_append_of_pos hlead,
    List.dropWhile_append, trimChars_eq_rdropWhile]
  split
  · rename_i hempty
    rw [List.isEmpty_iff.1 hempty, List.dropWhile_eq_nil_iff.2 htrail]
  · exact rdropWhile_append_of_blank _ htrail

theorem trimChars_trimChars (cs : List Char) : trimChars (trimChars cs) = trimChars cs := by
  have hpre : trimChars cs <+: cs.dropWhile isBlank := List.rdropWhile_prefix _ _
  have hdrop : (trimChars cs).dropWhile isBlank = trimChars cs := by
    refine List.dropWhile_eq_self_iff.2 fun hlt => ?_
    -- what is left at the front is what stood there once leading white space was gone
    have hne : 0 < (cs.dropWhile isBlank).length := hlt.trans_le hpre.length_le
    rw [hpre.getElem hlt]
    exact List.dropWhile_eq_self_iff.1 (List.dropWhile_idempotent _ _) hne
  rw [trimChars_eq_rdropWhile (trimChars cs), hdrop, trimChars_eq_rdropWhile,
    List.rdropWhile_idempotent]

theorem trim_trim (s : String) : trim (trim s) = trim s := by
  rw [trim, trim, String.toList_ofList, trimChars_trimChars]

/-- Where there is no white space, everything is left. -/
theorem trimChars_eq_self (h : ∀ c ∈ cs, isBlank c = false) : trimChars cs = cs := by
  have hstart : ∀ ds : List Char, (∀ c ∈ ds, isBlank c = false) → trimStartChars ds = ds := by
    intro ds hds
    cases ds with
    | nil => rfl
    | cons d ds => rw [trimStartChars, List.dropWhile_cons_of_neg (by simp [hds d])]
  rw [trimChars, hstart cs h, hstart _ fun c hc => h c (List.mem_reverse.1 hc),
    List.reverse_reverse]

/-- Characters are what is left of them, with white space before and after. -/
theorem exists_padding (cs : List Char) :
    ∃ lead trail, (∀ c ∈ lead, isBlank c = true) ∧ (∀ c ∈ trail, isBlank c = true) ∧
      cs = lead ++ trimChars cs ++ trail := by
  refine ⟨cs.takeWhile isBlank, (cs.dropWhile isBlank).rtakeWhile isBlank,
    fun c hc => List.mem_takeWhile_imp hc, fun c hc => List.mem_rtakeWhile_imp hc, ?_⟩
  rw [trimChars_eq_rdropWhile, List.append_assoc, List.rdropWhile_append_rtakeWhile,
    List.takeWhile_append_dropWhile]

end Audience.Text
