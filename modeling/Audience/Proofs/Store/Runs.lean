import Audience.Proofs.Preparation
import Audience.Proofs.Store.Changes

/-!
# A store reflects its history

`Store.Reflects` says that a store holds what its history says, in the order of arrival. A new store
reflects the history without events, and a call takes a store that reflects some history to one that
reflects the events of the call as well (`Reflects.change`). So after any sequence of `Request`s,
made through any handles, each store reflects the requests that were made through its own handles
(`Stores.history`).
-/

namespace Audience

namespace Store

/-! ## Events -/

/-- A store holds what its history says: under each name that is present what it was last loaded
with, in the order in which the names arrived. -/
structure Reflects (events : List Event) (s : Store) : Prop where
  nodup : s.names.Nodup
  keyed : ∀ e ∈ s.entries, e.2.name = e.1
  present : ∀ name, name ∈ s.names ↔ Present events name
  latest : ∀ name p, s.get? name = some p ↔
    ∃ segment, LastLoaded events name segment ∧ Predicate.ofSegment segment = .ok p
  ordered : s.names.Pairwise (ArrivedBefore events)

variable {events : List Event} {e : Event} {s : Store} {name : String} {segment : Segment}
  {p : Predicate}

theorem Reflects.nil : Reflects [] empty where
  nodup := List.nodup_nil
  keyed := fun e he => (by cases he)
  present := fun name => iff_of_false List.not_mem_nil not_present_nil
  latest := fun name p => by
    refine iff_of_false (fun h => by cases h) ?_
    rintro ⟨segment, h, -⟩
    exact not_present_nil ⟨segment, h⟩
  ordered := List.Pairwise.nil

/-- Names that are not dropped stay in the order of their arrival. -/
theorem ArrivedBefore.append {first second : String} (h : ArrivedBefore events first second)
    (hfirst : ¬ e.Drops first) (hsecond : ¬ e.Drops second) :
    ArrivedBefore (events ++ [e]) first second := by
  obtain ⟨i, j, hi, hj, hlt⟩ := h
  exact ⟨i, j, arrivedAt_append.2 (.inr ⟨hi, hfirst⟩), arrivedAt_append.2 (.inr ⟨hj, hsecond⟩), hlt⟩

/-- A name that was absent arrives after those that are present. -/
theorem arrivedBefore_of_loads {first : String} (hfirst : Present events first)
    (habsent : ¬ Present events name) (hloads : e.Loads name) (hdrops : ¬ e.Drops first) :
    ArrivedBefore (events ++ [e]) first name := by
  obtain ⟨i, hi⟩ := present_iff_exists_arrivedAt.1 hfirst
  exact ⟨i, events.length, arrivedAt_append.2 (.inr ⟨hi, hdrops⟩),
    arrivedAt_append.2 (.inl ⟨rfl, hloads, habsent⟩), hi.lt_length⟩

theorem name_of_ofSegment (h : Predicate.ofSegment segment = .ok p) : p.name = segment.name :=
  congrArg (fun s => s.name) (Segment.prepares_of_ofSegment h).segment

theorem Reflects.insert (h : Reflects events s) (hp : Predicate.ofSegment segment = .ok p) :
    Reflects (events ++ [.loaded segment]) (s.insert p) := by
  have hname := name_of_ofSegment hp
  refine ⟨nodup_names_insert h.nodup, fun e he => ?_, fun n => ?_, fun n q => ?_, ?_⟩
  · rcases mem_putEntry he with rfl | he
    · rfl
    · exact h.keyed e he
  · rw [mem_names_insert, present_append, h.present n, hname]
    exact or_congr eq_comm (and_iff_left id).symm
  · simp only [get?_insert, hname, lastLoaded_append_loaded]
    split_ifs with hn
    · rw [Option.some_inj, exists_eq_left, hp, Except.ok.injEq]
    · exact h.latest n q
  · -- the names that were there keep their order, a new one arrives after them
    have hold : s.names.Pairwise (ArrivedBefore (events ++ [.loaded segment])) :=
      h.ordered.imp fun hbefore => hbefore.append id id
    by_cases hmem : p.name ∈ s.names
    · rwa [names_insert_of_mem hmem]
    · rw [names_insert_of_not_mem hmem]
      refine List.pairwise_append.2 ⟨hold, List.pairwise_singleton _ _, fun first hfirst n hn => ?_⟩
      rw [List.mem_singleton.1 hn]
      have habsent : ¬ Present events p.name := mt (h.present p.name).2 hmem
      exact arrivedBefore_of_loads ((h.present first).1 hfirst) habsent hname.symm id

theorem Reflects.erase (h : Reflects events s) (name : String) :
    Reflects (events ++ [.removed name]) (s.erase name) := by
  refine ⟨?_, fun e he => ?_, fun n => ?_, fun n q => ?_, ?_⟩
  · rw [names_erase]
    exact h.nodup.filter _
  · exact h.keyed e (List.mem_of_mem_filter he)
  · rw [mem_names_erase, present_append, h.present n]
    exact (and_congr_right fun _ => not_congr eq_comm).trans (or_iff_right id).symm
  · simp only [get?_erase, lastLoaded_append_removed]
    split_ifs with hn
    · simp [hn]
    · simp [hn, h.latest n q]
  · have hkept : ∀ n ∈ s.names.filter (· ≠ name), ¬ (Event.removed name).Drops n := by
      intro n hn hdrops
      exact of_decide_eq_true (List.mem_filter.1 hn).2 hdrops.symm
    rw [names_erase]
    refine (h.ordered.filter _).imp_of_mem fun hfirst hsecond hbefore => ?_
    exact hbefore.append (hkept _ hfirst) (hkept _ hsecond)

theorem Reflects.clear (events : List Event) : Reflects (events ++ [.cleared]) empty where
  nodup := List.nodup_nil
  keyed := fun e he => (by cases he)
  present := fun name => by
    refine iff_of_false List.not_mem_nil ?_
    rintro ⟨segment, h⟩
    exact not_lastLoaded_append_cleared h
  latest := fun name p => by
    refine iff_of_false (fun h => by cases h) ?_
    rintro ⟨segment, h, -⟩
    exact not_lastLoaded_append_cleared h
  ordered := List.Pairwise.nil

theorem Reflects.insertAll {segments : List Segment} {ps : List Predicate} (h : Reflects events s)
    (hps : List.Forall₂ (fun segment p => Predicate.ofSegment segment = .ok p) segments ps) :
    Reflects (events ++ segments.map .loaded) (s.insertAll ps) := by
  induction hps generalizing events s with
  | nil => rwa [List.map_nil, List.append_nil]
  | cons hp _ ih =>
    rw [List.map_cons, List.append_cons]
    exact ih (h.insert hp)

/-! ## Calls -/

variable {c : Change} {out : Except Error (List String) × Store}

/-- A call adds its events to what a store reflects. -/
theorem Reflects.change (h : Reflects events s) (hdoes : c.Does s out) :
    Reflects (events ++ c.events) out.2 := by
  cases hdoes with
  | loaded hload hne hready =>
    rw [hload.events]
    exact h.insertAll (mapM_eq_ok_iff.1 hready)
  | refused hload hnone =>
    rw [hload.events, hnone, List.map_nil, List.append_nil]
    exact h
  | @removed name hc hname =>
    subst hc
    exact h.erase name
  | @missing name hc hname =>
    subst hc
    have herase := h.erase name
    rwa [erase_of_not_mem hname] at herase
  | cleared hc =>
    subst hc
    exact .clear events

/-- Whether a call succeeds can be told from the history. -/
theorem Reflects.succeeds_iff (h : Reflects events s) (hdoes : c.Does s out) :
    (∃ names, out.1 = .ok names) ↔ c.Succeeds events := by
  cases hdoes with
  | @loaded names ps hload hne hready =>
    exact iff_of_true ⟨names, rfl⟩ ((hload.succeeds events).2 hne)
  | refused hload hnone =>
    refine iff_of_false ?_ fun hsucceeds => (hload.succeeds events).1 hsucceeds hnone
    rintro ⟨names, h⟩
    cases h
  | @removed name hc hname =>
    subst hc
    exact iff_of_true ⟨[], rfl⟩ ((h.present name).1 hname)
  | @missing name hc hname =>
    subst hc
    refine iff_of_false ?_ (mt (h.present name).2 hname)
    rintro ⟨names, h⟩
    cases h
  | cleared hc =>
    subst hc
    exact iff_of_true ⟨[], rfl⟩ trivial

/-- What calls on a new store leave of it, whether they succeed or fail. -/
def after (changes : List Change) : Store :=
  changes.foldl (fun s c => (c.action.on s).2) empty

theorem Reflects.foldl (h : Reflects events s) (changes : List Change) :
    Reflects (events ++ changes.flatMap Change.events)
      (changes.foldl (fun s c => (c.action.on s).2) s) := by
  induction changes generalizing events s with
  | nil => rwa [List.flatMap_nil, List.append_nil]
  | cons c changes ih =>
    rw [List.flatMap_cons, ← List.append_assoc]
    exact ih (h.change (c.does s))

/-- A store reflects the calls that were made on it since it was new. -/
theorem reflects_after (changes : List Change) :
    Reflects (changes.flatMap Change.events) (after changes) :=
  Reflects.nil.foldl changes

end Store

/-! ## Requests -/

namespace Stores

/-- A call that is made through a handle. -/
structure Request where
  handle : Handle
  change : Store.Change

/-- Carries requests out in turn, whether they succeed or fail. -/
def run (w : Stores) (requests : List Request) : Stores :=
  requests.foldl (fun w q => (w.perform q.handle q.change.action).2) w

/-- What has happened to the store of a handle: the events of the requests made through it or
through another handle with its place. -/
def history (h : Handle) (requests : List Request) : List Store.Event :=
  (requests.filter fun q => q.handle.place = h.place).flatMap (·.change.events)

variable {w w' : Stores} {h k : Handle} {engine : Engine}

theorem content_perform {α : Type} (a : Store.Action α) (hk : k.place = h.place)
    (hplace : h.place < w.contents.length) :
    (w.perform k a).2.content h = (a.on (w.content h)).2 := by
  unfold perform content
  rw [hk, List.getD_eq_getElem?_getD, List.getElem?_set_self hplace, Option.getD_some]

theorem content_perform_of_ne {α : Type} (a : Store.Action α) (hk : k.place ≠ h.place) :
    (w.perform k a).2.content h = w.content h := by
  unfold perform content
  rw [List.getD_eq_getElem?_getD, List.getElem?_set_ne hk, ← List.getD_eq_getElem?_getD]

theorem length_perform {α : Type} (a : Store.Action α) :
    (w.perform k a).2.contents.length = w.contents.length :=
  List.length_set

theorem perform_eq_self {α : Type} {a : Store.Action α}
    (h : (a.on (w.content k)).2 = w.content k) : (w.perform k a).2 = w := by
  unfold perform
  dsimp only
  rw [h]
  obtain ⟨contents⟩ := w
  refine congrArg Stores.mk (List.ext_getElem? fun i => ?_)
  rw [List.getElem?_set]
  split_ifs with hi hlt
  · subst hi
    rw [content, List.getD_eq_getElem?_getD, List.getElem?_eq_getElem hlt, Option.getD_some]
  · rw [← hi, List.getElem?_eq_none (Nat.le_of_not_lt hlt)]
  · rfl

/-- Requests take a store from its history so far to one that has their events as well. -/
theorem reflects_run {events : List Store.Event} (hplace : h.place < w.contents.length)
    (hw : Store.Reflects events (w.content h)) (requests : List Request) :
    Store.Reflects (events ++ history h requests) ((w.run requests).content h) := by
  induction requests generalizing w events with
  | nil => rwa [history, List.filter_nil, List.flatMap_nil, List.append_nil]
  | cons q requests ih =>
    have hlength : h.place < (w.perform q.handle q.change.action).2.contents.length := by
      rwa [length_perform]
    by_cases hq : q.handle.place = h.place
    · have hstep := ih hlength (by
        rw [content_perform _ hq hplace]
        exact hw.change (q.change.does _))
      rwa [history, List.filter_cons_of_pos (by simpa using hq), List.flatMap_cons,
        ← List.append_assoc]
    · have hstep := ih hlength (by
        rw [content_perform_of_ne _ hq]
        exact hw)
      rwa [history, List.filter_cons_of_neg (by simpa using hq)]

theorem content_create (w : Stores) (s : Store) (engine : Engine) :
    (w.create s engine).2.content (w.create s engine).1 = s := by
  unfold create content
  rw [List.getD_eq_getElem?_getD, List.getElem?_concat_length, Option.getD_some]

/-- A new store, after requests through any handles: it reflects those that were made through its
handle and the clones of that, a further call succeeds as their events let it, and a call that fails
changes nothing. -/
theorem content_reflects_history (hnew : w.create .empty engine = (h, w')) (hk : k.place = h.place)
    (requests : List Request) :
    Store.Reflects (history h requests) ((w'.run requests).content k) ∧
      ∀ c : Store.Change,
        ((∃ names, ((w'.run requests).perform k c.action).1 = .ok names) ↔
          c.Succeeds (history h requests)) ∧
        ∀ e, ((w'.run requests).perform k c.action).1 = .error e →
          ((w'.run requests).perform k c.action).2 = w'.run requests := by
  have hcontent : ∀ v : Stores, v.content k = v.content h := fun v => by
    rw [content, content, hk]
  have hplace : h.place < w'.contents.length := by
    obtain ⟨rfl, rfl⟩ := Prod.mk.inj hnew
    simp
  have hempty : w'.content h = .empty := by
    have hcreate := content_create w .empty engine
    rwa [hnew] at hcreate
  have hstart : Store.Reflects [] (w'.content h) := by
    rw [hempty]
    exact .nil
  have hreflects : Store.Reflects (history h requests) ((w'.run requests).content k) := by
    rw [hcontent]
    exact reflects_run hplace hstart requests
  refine ⟨hreflects, fun c => ⟨hreflects.succeeds_iff (c.does _), fun e he => ?_⟩⟩
  exact perform_eq_self ((c.does _).eq_self he)

/-- Requests that load the sample, take it out through a clone, and load it again. -/
def sampleRequests (h : Handle) : List Request :=
  [⟨h, .load .sample⟩, ⟨h.clone, .remove "minors"⟩, ⟨h, .load .sample⟩]

theorem loads_sample : (Store.Change.load .sample).loads = [.sample] := by
  have hready : Predicate.ofSegments [.sample] = .ok [.sample] := by
    rw [Store.ofSegments_singleton, Predicate.ofSegment_sample]
    rfl
  exact Store.accepted_of_ofSegments_ok hready

theorem history_sampleRequests (h : Handle) :
    history h (sampleRequests h) = [.loaded .sample, .removed "minors", .loaded .sample] := by
  simp [history, sampleRequests, Handle.clone, Store.Change.events, loads_sample]

/-- The clone finds the sample that was loaded last. -/
theorem sample_kept_for_clone :
    create ⟨[]⟩ .empty .standard = (⟨0, .standard⟩, ⟨[.empty]⟩) ∧
      (Handle.clone ⟨0, .standard⟩).place = 0 ∧
      ((run ⟨[.empty]⟩ (sampleRequests ⟨0, .standard⟩)).content
        (Handle.clone ⟨0, .standard⟩)).get? "minors" = some .sample := by
  have hnew : create ⟨[]⟩ .empty .standard = (⟨0, .standard⟩, ⟨[.empty]⟩) := rfl
  have hclone : (Handle.clone ⟨0, .standard⟩).place = (Handle.mk 0 .standard).place := rfl
  have hreflects := (content_reflects_history hnew hclone (sampleRequests ⟨0, .standard⟩)).1
  refine ⟨hnew, hclone, (hreflects.latest "minors" .sample).2 ⟨.sample, ⟨rfl, ?_⟩, ?_⟩⟩
  · exact ⟨[.loaded .sample, .removed "minors"], [], history_sampleRequests _,
      fun e he => (by cases he)⟩
  · exact Predicate.ofSegment_sample

end Stores

end Audience
