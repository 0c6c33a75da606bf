import Audience.Json.Reader
import Audience.Proofs.Fallible
import Audience.Proofs.Fields

/-!
# Values that texts write

A reader yields what the last of its steps yields (`Json.Reader.Yields`). Each field that is read is
put at its place, so every object that a reader makes has its keys in order, and so the value of a
text is sorted (`Json.sorted_of_ofText`).
-/

namespace Audience.Json

namespace Reader

variable {α β : Type} {text : String}

theorem run_eq_ok_iff {read : Reader α} {a : α} :
    run read text = .ok a ↔ ∃ cur, read ⟨text.toList, 0⟩ = .ok (a, cur) := by
  unfold run
  rcases read ⟨text.toList, 0⟩ with fault | ⟨a', cur⟩
  · simp
  · simp

theorem bind_eq_ok_iff {read : Reader α} {next : α → Reader β} {cur cur' : Cursor} {b : β} :
    (read >>= next) cur = .ok (b, cur') ↔
      ∃ a cur₁, read cur = .ok (a, cur₁) ∧ next a cur₁ = .ok (b, cur') := by
  change ((read cur : Except Fault (α × Cursor)) >>= fun p => next p.1 p.2) = _ ↔ _
  rw [Audience.bind_eq_ok_iff]
  exact Prod.exists

/-- Whatever a reader yields, wherever it starts, has the property. -/
def Yields (P : α → Prop) (read : Reader α) : Prop :=
  ∀ cur a cur', read cur = .ok (a, cur') → P a

variable {P : α → Prop} {Q : β → Prop}

theorem Yields.pure {a : α} (h : P a) : Yields P (Pure.pure a) := by
  intro cur a' cur' heq
  obtain ⟨rfl, -⟩ := Prod.mk.inj (Except.ok.inj heq)
  exact h

theorem Yields.bind {read : Reader α} {next : α → Reader β} (h : Yields P read)
    (hnext : ∀ a, P a → Yields Q (next a)) : Yields Q (read >>= next) := by
  intro cur b cur' heq
  obtain ⟨a, cur₁, ha, hb⟩ := bind_eq_ok_iff.1 heq
  exact hnext a (h cur a cur₁ ha) cur₁ b cur' hb

theorem Yields.after {read : Reader α} {next : α → Reader β} (h : ∀ a, Yields Q (next a)) :
    Yields Q (read >>= next) := by
  intro cur b cur' heq
  obtain ⟨a, cur₁, -, hb⟩ := bind_eq_ok_iff.1 heq
  exact h a cur₁ b cur' hb

theorem yields_failAt (fault : SyntaxFault) (offset : Nat) : Yields P (failAt fault offset) := by
  intro cur a cur' heq
  cases heq

theorem yields_failHere (fault : SyntaxFault) : Yields P (failHere fault) :=
  .after fun cur => yields_failAt fault cur.offset

theorem yields_failAhead (fault : SyntaxFault) : Yields P (failAhead fault) :=
  .after fun _ => yields_failAt fault _

/-! ## Keys in order -/

/-- The fields are in key order, and so is every object in their values. -/
def Ordered (fields : Fields Json) : Prop :=
  fields.Pairwise (fun a b => a.1 < b.1) ∧ SortedFields fields

theorem sortedFields_put {k : String} {j : Json} {fields : Fields Json} (hj : Sorted j)
    (h : SortedFields fields) : SortedFields (Fields.put k j fields) := by
  induction fields with
  | nil => exact ⟨hj, h⟩
  | cons member fields ih =>
    obtain ⟨k', j'⟩ := member
    obtain ⟨hj', hrest⟩ := h
    unfold Fields.put
    split
    · exact ⟨hj, hrest⟩
    · split
      · exact ⟨hj, hj', hrest⟩
      · exact ⟨hj', ih hrest⟩

theorem Ordered.put {k : String} {j : Json} {fields : Fields Json} (hj : Sorted j)
    (h : Ordered fields) : Ordered (Fields.put k j fields) := by
  obtain ⟨hkeys, hvalues⟩ := h
  have hput : (Fields.put k j fields).keys.Pairwise (· < ·) :=
    Fields.pairwise_keys_put (List.pairwise_map.2 hkeys)
  exact ⟨List.pairwise_map.1 hput, sortedFields_put hj hvalues⟩

/-- Values, items and fields are read in order, by induction on the fuel that all three share. -/
theorem yields_sorted (fuel : Nat) :
    (∀ depth, Yields Sorted (value depth fuel)) ∧
      (∀ depth first, Yields SortedItems (items depth first fuel)) ∧
      ∀ depth first read, Ordered read → Yields Ordered (fields depth first read fuel) := by
  induction fuel with
  | zero =>
    refine ⟨fun depth => ?_, fun depth first => ?_, fun depth first read _ => ?_⟩
    · exact yields_failHere _
    · exact yields_failHere _
    · exact yields_failHere _
  | succ fuel ih =>
    obtain ⟨hvalue, hitems, hfields⟩ := ih
    refine ⟨fun depth => ?_, fun depth first => ?_, fun depth first read hread => ?_⟩
    · unfold value
      refine .after fun next => ?_
      split
      · exact yields_failAhead _
      · exact .after fun _ => .after fun _ => .pure trivial
      · exact .after fun _ => .after fun _ => .pure trivial
      · exact .after fun _ => .after fun _ => .pure trivial
      · exact .after fun _ => .after fun _ => .pure trivial
      · exact .after fun _ => .after fun _ => .pure trivial
      · split
        · exact yields_failAhead _
        · exact .after fun _ => .bind (hitems _ _) fun items hsorted => .pure hsorted
      · split
        · exact yields_failAhead _
        · refine .after fun _ => .bind (hfields _ _ _ ⟨.nil, trivial⟩) fun fields hsorted => ?_
          exact .pure hsorted
      · split
        · exact .after fun _ => .pure trivial
        · exact yields_failAhead _
    · unfold items
      refine .after fun follows => ?_
      split
      · refine .bind (hvalue depth) fun j hj => .bind (hitems depth false) fun rest hrest => ?_
        exact .pure ⟨hj, hrest⟩
      · exact .after fun _ => .pure trivial
    · unfold fields
      refine .after fun follows => ?_
      split
      · refine .after fun k => .after fun _ => .bind (hvalue depth) fun j hj => ?_
        exact hfields depth false _ (hread.put hj)
      · exact .after fun _ => .pure hread

end Reader

/-- The value that a text writes is sorted. -/
theorem sorted_of_ofText {text : String} {v : Json} (h : ofText? text = .ok v) : v.Sorted := by
  obtain ⟨cur, hv⟩ := Reader.run_eq_ok_iff.1 h
  have hnested : Reader.Yields Sorted (Reader.nested 0) :=
    .after fun cur => (Reader.yields_sorted _).1 _
  have hall : Reader.Yields Sorted (do
      let j ← Reader.nested 0
      Reader.theEnd
      return j) :=
    .bind hnested fun j hj => .after fun _ => .pure hj
  exact hall _ _ _ hv

end Audience.Json
