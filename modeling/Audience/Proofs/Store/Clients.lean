import Audience.Proofs.Store.Runs

/-!
# Clients with names of their own

What a call writes is told by its events (`Change.snd_on`), and what it answers depends on the store
only through the names that it touches (`Change.fst_on_congr`). So a call leaves a store as it is
under the names that it does not touch, and does the same on two stores that have the same under
those that it touches.

Two `Client`s of one store take `Turn`s in some order. As long as no name is touched by both, each
of them is answered as if it were alone with the store (`Stores.alike`), and finds the store as it
would be then (`Stores.clients_undisturbed`).
-/

namespace Audience

namespace Store

variable {s s' : Store} {name : String} {segment : Segment} {keep : String → Bool}

/-! ## What an event writes -/

namespace Event

/-- The event loads a name or takes it out. -/
def Touches (name : String) (e : Event) : Prop :=
  e.Loads name ∨ e.Drops name

instance (name : String) (e : Event) : Decidable (e.Touches name) :=
  match e with
  | loaded segment => inferInstanceAs (Decidable (segment.name = name ∨ False))
  | removed name' => inferInstanceAs (Decidable (False ∨ name' = name))
  | cleared => inferInstanceAs (Decidable (False ∨ True))

/-- What the event makes of a store. -/
def write : Event → Store → Store
  | loaded segment, s =>
    match Predicate.ofSegment segment with
    | .ok p => s.insert p
    | .error _ => s
  | removed name, s => s.erase name
  | cleared, _ => empty

variable {e : Event}

theorem write_loaded {p : Predicate} (h : Predicate.ofSegment segment = .ok p) :
    (loaded segment).write s = s.insert p := by
  rw [write, h]

theorem get?_write (h : ¬ e.Touches name) : (e.write s).get? name = s.get? name := by
  cases e with
  | loaded segment =>
    rcases hp : Predicate.ofSegment segment with e | p
    · rw [write, hp]
    · have hne : name ≠ p.name := fun hn => h (.inl (by rw [hn, name_of_ofSegment hp]; rfl))
      rw [write_loaded hp, get?_insert, if_neg hne]
  | removed name' =>
    have hne : name ≠ name' := fun hn => h (.inr hn.symm)
    rw [write, get?_erase, if_neg hne]
  | cleared => exact absurd (.inr trivial) h

theorem nodup_write (h : s.names.Nodup) : (e.write s).names.Nodup := by
  cases e with
  | loaded segment =>
    rcases hp : Predicate.ofSegment segment with e | p
    · rwa [write, hp]
    · rw [write_loaded hp]
      exact nodup_names_insert h
  | removed name =>
    rw [write, names_erase]
    exact h.filter _
  | cleared => exact List.nodup_nil

theorem restrict_write (h : ∀ name, e.Touches name → keep name = true) :
    (e.write s).restrict keep = e.write (s.restrict keep) := by
  cases e with
  | loaded segment =>
    rcases hp : Predicate.ofSegment segment with e | p
    · rw [write, write, hp]
    · have hkeep : keep p.name = true := h p.name (.inl (name_of_ofSegment hp).symm)
      rw [write_loaded hp, write_loaded hp, restrict_insert_of_pos hkeep]
  | removed name => exact restrict_erase
  | cleared => rfl

theorem restrict_write_of_not_touches (h : ∀ name, e.Touches name → ¬ keep name = true) :
    (e.write s).restrict keep = s.restrict keep := by
  cases e with
  | loaded segment =>
    rcases hp : Predicate.ofSegment segment with e | p
    · rw [write, hp]
    · rw [write_loaded hp]
      exact restrict_insert_of_neg (h p.name (.inl (name_of_ofSegment hp).symm))
  | removed name => exact restrict_erase_of_neg (h name (.inr rfl))
  | cleared =>
    have hnone : ∀ name, ¬ keep name = true := fun name => h name (.inr trivial)
    rw [restrict_eq_empty hnone, restrict_eq_empty hnone]

end Event

/-! ## Events in turn -/

/-- What events in turn make of a store. -/
def writeAll (s : Store) (events : List Event) : Store :=
  events.foldl (fun s e => e.write s) s

variable {events : List Event}

theorem writeAll_append (s : Store) (before after : List Event) :
    s.writeAll (before ++ after) = (s.writeAll before).writeAll after :=
  List.foldl_append

theorem writeAll_loaded {segments : List Segment} {ps : List Predicate}
    (h : List.Forall₂ (fun segment p => Predicate.ofSegment segment = .ok p) segments ps) :
    s.writeAll (segments.map .loaded) = s.insertAll ps := by
  induction h generalizing s with
  | nil => rfl
  | cons hp _ ih =>
    rw [List.map_cons, writeAll, List.foldl_cons, Event.write_loaded hp]
    exact ih

theorem get?_writeAll (h : ∀ e ∈ events, ¬ e.Touches name) :
    (s.writeAll events).get? name = s.get? name := by
  induction events generalizing s with
  | nil => rfl
  | cons e events ih =>
    have hrest := ih (s := e.write s) fun e' he' => h e' (List.mem_cons_of_mem _ he')
    exact hrest.trans (Event.get?_write (h e List.mem_cons_self))

theorem nodup_writeAll (h : s.names.Nodup) : (s.writeAll events).names.Nodup := by
  induction events generalizing s with
  | nil => exact h
  | cons e events ih => exact ih (Event.nodup_write h)

theorem restrict_writeAll (h : ∀ e ∈ events, ∀ name, e.Touches name → keep name = true) :
    (s.writeAll events).restrict keep = (s.restrict keep).writeAll events := by
  induction events generalizing s with
  | nil => rfl
  | cons e events ih =>
    have hrest := ih (s := e.write s) fun e' he' => h e' (List.mem_cons_of_mem _ he')
    rw [Event.restrict_write (h e List.mem_cons_self)] at hrest
    exact hrest

theorem restrict_writeAll_of_not_touches
    (h : ∀ e ∈ events, ∀ name, e.Touches name → ¬ keep name = true) :
    (s.writeAll events).restrict keep = s.restrict keep := by
  induction events generalizing s with
  | nil => rfl
  | cons e events ih =>
    have hrest := ih (s := e.write s) fun e' he' => h e' (List.mem_cons_of_mem _ he')
    exact hrest.trans (Event.restrict_write_of_not_touches (h e List.mem_cons_self))

/-- A store has what its names were last loaded with, whatever it held before. -/
theorem get?_writeAll_of_lastLoaded {p : Predicate} (h : LastLoaded events name segment)
    (hp : Predicate.ofSegment segment = .ok p) : (s.writeAll events).get? name = some p := by
  obtain ⟨hname, before, after, rfl, hafter⟩ := h
  have hrest : ∀ e ∈ after, ¬ e.Touches name := fun e he => not_or.2 (hafter e he)
  have hput : name = p.name := by rw [name_of_ofSegment hp, hname]
  rw [writeAll_append]
  change (((Event.loaded segment).write (s.writeAll before)).writeAll after).get? name = some p
  rw [get?_writeAll hrest, Event.write_loaded hp, get?_insert, if_pos hput]

/-! ## Calls -/

variable {c : Change} {out : Except Error (List String) × Store}

theorem Change.Does.snd_eq (h : c.Does s out) : out.2 = s.writeAll c.events := by
  cases h with
  | loaded hload hne hready => rw [hload.events, writeAll_loaded (mapM_eq_ok_iff.1 hready)]
  | refused hload hnone => rw [hload.events, hnone]; rfl
  | removed hc hname => rw [hc]; rfl
  | missing hc hname =>
    rw [hc]
    exact (erase_of_not_mem hname).symm
  | cleared hc => rw [hc]; rfl

/-- What a call loads can be made ready. -/
theorem Change.Does.ofSegment_of_mem (h : c.Does s out) (hmem : .loaded segment ∈ c.events) :
    ∃ p, Predicate.ofSegment segment = .ok p := by
  cases h with
  | loaded hload hne hready =>
    rw [hload.events, List.mem_map_of_injective fun _ _ => Event.loaded.inj] at hmem
    obtain ⟨p, -, hp⟩ := exists_right_of_mem (mapM_eq_ok_iff.1 hready) hmem
    exact ⟨p, hp⟩
  | refused hload hnone =>
    rw [hload.events, hnone] at hmem
    cases hmem
  | removed hc hname =>
    rw [hc] at hmem
    cases List.mem_singleton.1 hmem
  | missing hc hname =>
    rw [hc] at hmem
    cases List.mem_singleton.1 hmem
  | cleared hc =>
    rw [hc] at hmem
    cases List.mem_singleton.1 hmem

/-- A call writes its events, whether it succeeds or fails. -/
theorem Change.snd_on (c : Change) (s : Store) : (c.action.on s).2 = s.writeAll c.events :=
  (c.does s).snd_eq

/-- The call loads a name or takes it out. A call to load that is refused touches no name. -/
def Change.Touches (name : String) (c : Change) : Prop :=
  ∃ e ∈ c.events, e.Touches name

instance (name : String) (c : Change) : Decidable (c.Touches name) :=
  inferInstanceAs (Decidable (∃ e ∈ c.events, e.Touches name))

/-- What a call answers depends on whether the names that it touches are there, if on anything. -/
theorem Change.fst_on_congr (h : ∀ name, c.Touches name → s.has name = s'.has name) :
    (c.action.on s).1 = (c.action.on s').1 := by
  cases c with
  | load segment =>
    simp only [action, Action.on_bind, on_load]
    cases Predicate.ofSegment segment <;> rfl
  | loadText text =>
    simp only [action, Action.on_bind, on_loadText]
    cases Predicate.ofText text <;> rfl
  | loadAll segments =>
    simp only [action, on_loadAll]
    rcases segments with _ | ⟨segment, segments⟩
    · rfl
    · cases Predicate.ofSegments (segment :: segments) <;> rfl
  | remove name =>
    have hhas : s.has name = s'.has name :=
      h name ⟨.removed name, List.mem_singleton_self _, .inr rfl⟩
    simp only [action, Action.on_bind, on_remove, hhas]
    split_ifs <;> rfl
  | clear => rfl

theorem get?_eq_of_restrict (h : s.restrict keep = s'.restrict keep) (hkeep : keep name = true) :
    s.get? name = s'.get? name := by
  rw [← get?_restrict hkeep, h, get?_restrict hkeep]

end Store

/-! ## Two clients -/

namespace Stores

/-- One of two that share a store. -/
inductive Client where
  | first
  | second
deriving DecidableEq

namespace Client

def other : Client → Client
  | first => second
  | second => first

/-- The handle that a client holds: the second has a clone of that of the first. -/
def handle (h : Handle) : Client → Handle
  | first => h
  | second => h.clone

theorem eq_other_iff {client client' : Client} : client' = client.other ↔ client' ≠ client := by
  cases client <;> cases client' <;> simp [other]

theorem content_handle (w : Stores) (h : Handle) (client : Client) :
    w.content (client.handle h) = w.content h := by
  cases client <;> rfl

end Client

/-- A call that a client makes. -/
structure Turn where
  client : Client
  change : Store.Change

/-- The turns of one client, which it takes when it is alone. -/
def own (client : Client) (turns : List Turn) : List Turn :=
  turns.filter fun t => t.client = client

/-- What turns leave of all stores. -/
def play (w : Stores) (h : Handle) (turns : List Turn) : Stores :=
  w.run (turns.map fun t => ⟨t.client.handle h, t.change⟩)

/-- What one client is answered in the course of turns. -/
def answersTo (client : Client) (h : Handle) :
    Stores → List Turn → List (Except Error (List String))
  | _, [] => []
  | w, t :: turns =>
    let out := w.perform (t.client.handle h) t.change.action
    if t.client = client then out.1 :: answersTo client h out.2 turns
    else answersTo client h out.2 turns

/-- A client loads a name in one of its turns or takes it out. -/
def TouchedBy (client : Client) (turns : List Turn) (name : String) : Prop :=
  ∃ t ∈ turns, t.client = client ∧ t.change.Touches name

instance (client : Client) (turns : List Turn) (name : String) :
    Decidable (TouchedBy client turns name) :=
  inferInstanceAs (Decidable (∃ t ∈ turns, t.client = client ∧ t.change.Touches name))

variable {w w' : Stores} {h : Handle} {client : Client} {t : Turn} {turns : List Turn}
  {keep : String → Bool}

/-! ## One turn -/

theorem answersTo_cons_pos (ht : t.client = client) :
    answersTo client h w (t :: turns) =
      (w.perform (t.client.handle h) t.change.action).1 ::
        answersTo client h (w.perform (t.client.handle h) t.change.action).2 turns :=
  if_pos ht

theorem answersTo_cons_neg (ht : t.client ≠ client) :
    answersTo client h w (t :: turns) =
      answersTo client h (w.perform (t.client.handle h) t.change.action).2 turns :=
  if_neg ht

theorem content_turn (hplace : h.place < w.contents.length) :
    (w.perform (t.client.handle h) t.change.action).2.content h =
      (w.content h).writeAll t.change.events := by
  have hsame : (t.client.handle h).place = h.place := by cases t.client <;> rfl
  rw [content_perform _ hsame hplace, Store.Change.snd_on]

/-- A turn that touches the names asked for only does the same on stores that have the same under
these names. -/
theorem turn_alike (hplace : h.place < w.contents.length) (hplace' : h.place < w'.contents.length)
    (hsame : (w.content h).restrict keep = (w'.content h).restrict keep)
    (htouches : ∀ name, t.change.Touches name → keep name = true) :
    (w.perform (t.client.handle h) t.change.action).1 =
        (w'.perform (t.client.handle h) t.change.action).1 ∧
      ((w.perform (t.client.handle h) t.change.action).2.content h).restrict keep =
        ((w'.perform (t.client.handle h) t.change.action).2.content h).restrict keep := by
  constructor
  · change (t.change.action.on (w.content _)).1 = (t.change.action.on (w'.content _)).1
    rw [Client.content_handle, Client.content_handle]
    exact Store.Change.fst_on_congr fun name hname =>
      congrArg Option.isSome (Store.get?_eq_of_restrict hsame (htouches name hname))
  · have hwrites : ∀ e ∈ t.change.events, ∀ name, e.Touches name → keep name = true :=
      fun e he name hname => htouches name ⟨e, he, hname⟩
    rw [content_turn hplace, content_turn hplace', Store.restrict_writeAll hwrites,
      Store.restrict_writeAll hwrites, hsame]

theorem turn_outside (hplace : h.place < w.contents.length)
    (htouches : ∀ name, t.change.Touches name → ¬ keep name = true) :
    ((w.perform (t.client.handle h) t.change.action).2.content h).restrict keep =
      (w.content h).restrict keep := by
  rw [content_turn hplace]
  exact Store.restrict_writeAll_of_not_touches fun e he name hname => htouches name ⟨e, he, hname⟩

/-! ## All turns -/

theorem content_play (hplace : h.place < w.contents.length) (turns : List Turn) :
    (w.play h turns).content h =
      (w.content h).writeAll (turns.flatMap fun t => t.change.events) := by
  induction turns generalizing w with
  | nil => rfl
  | cons t turns ih =>
    rw [List.flatMap_cons, Store.writeAll_append, ← content_turn hplace]
    exact ih (by rwa [length_perform])

theorem TouchedBy.cons {name : String} (h : TouchedBy client turns name) :
    TouchedBy client (t :: turns) name := by
  obtain ⟨t', ht', htouches⟩ := h
  exact ⟨t', List.mem_cons_of_mem _ ht', htouches⟩

/-- A client that touches the names asked for only, while the other touches none of them, is
answered as if it were alone with a store that has the same under these names, and leaves the same
there. -/
theorem alike (hplace : h.place < w.contents.length) (hplace' : h.place < w'.contents.length)
    (hsame : (w.content h).restrict keep = (w'.content h).restrict keep)
    (hown : ∀ name, TouchedBy client turns name → keep name = true)
    (hother : ∀ name, TouchedBy client.other turns name → ¬ keep name = true) :
    answersTo client h w turns = answersTo client h w' (own client turns) ∧
      ((w.play h turns).content h).restrict keep =
        ((w'.play h (own client turns)).content h).restrict keep := by
  induction turns generalizing w w' with
  | nil => exact ⟨rfl, hsame⟩
  | cons t turns ih =>
    have hlength := (length_perform (w := w) (k := t.client.handle h) t.change.action).symm ▸ hplace
    have hown' : ∀ name, TouchedBy client turns name → keep name = true :=
      fun name hname => hown name hname.cons
    have hother' : ∀ name, TouchedBy client.other turns name → ¬ keep name = true :=
      fun name hname => hother name hname.cons
    by_cases hclient : t.client = client
    · have htouches : ∀ name, t.change.Touches name → keep name = true :=
        fun name hname => hown name ⟨t, List.mem_cons_self, hclient, hname⟩
      have hlength' := (length_perform (w := w') (k := t.client.handle h) t.change.action).symm ▸
        hplace'
      obtain ⟨hanswer, hafter⟩ := turn_alike hplace hplace' hsame htouches
      obtain ⟨hanswers, hrest⟩ := ih hlength hlength' hafter hown' hother'
      rw [own, List.filter_cons_of_pos (by simpa using hclient), answersTo_cons_pos hclient,
        answersTo_cons_pos hclient, hanswer]
      exact ⟨congrArg _ hanswers, hrest⟩
    · -- the turn of the other client, who has none of the names
      have htouches : ∀ name, t.change.Touches name → ¬ keep name = true :=
        fun name hname => hother name ⟨t, List.mem_cons_self, Client.eq_other_iff.2 hclient, hname⟩
      obtain ⟨hanswers, hrest⟩ :=
        ih hlength hplace' ((turn_outside hplace htouches).trans hsame) hown' hother'
      rw [own, List.filter_cons_of_neg (by simpa using hclient), answersTo_cons_neg hclient]
      exact ⟨hanswers, hrest⟩

/-! ## Each client as if alone -/

/-- The events of one client's calls. -/
def eventsOf (client : Client) (turns : List Turn) : List Store.Event :=
  (own client turns).flatMap fun t => t.change.events

/-- A client is answered as if it were alone with the store. Under the names that the other does not
touch the store has what it has when the client is alone, in the same order, and what the client has
loaded last is there. -/
structure Undisturbed (w : Stores) (h : Handle) (turns : List Turn) (client : Client) : Prop where
  answers : answersTo client h w turns = answersTo client h w (own client turns)
  found : ∀ name, ¬ TouchedBy client.other turns name →
    ((w.play h turns).content h).get? name = ((w.play h (own client turns)).content h).get? name
  order : ((w.play h turns).content h).names.filter (fun n => ¬ TouchedBy client.other turns n) =
    ((w.play h (own client turns)).content h).names.filter
      (fun n => ¬ TouchedBy client.other turns n)
  loaded : ∀ name segment, Store.LastLoaded (eventsOf client turns) name segment →
    ∃ p, Predicate.ofSegment segment = .ok p ∧ ((w.play h turns).content h).get? name = some p

theorem touchedBy_of_mem_eventsOf {e : Store.Event} {name : String} (he : e ∈ eventsOf client turns)
    (hname : e.Touches name) : TouchedBy client turns name := by
  obtain ⟨t, ht, he⟩ := List.mem_flatMap.1 he
  obtain ⟨ht, hclient⟩ := List.mem_filter.1 ht
  exact ⟨t, ht, of_decide_eq_true hclient, e, he, hname⟩

theorem Undisturbed.of_apart (hplace : h.place < w.contents.length)
    (hapart : ∀ name, TouchedBy client turns name → ¬ TouchedBy client.other turns name) :
    Undisturbed w h turns client := by
  have hown : ∀ name, TouchedBy client turns name →
      decide (¬ TouchedBy client.other turns name) = true :=
    fun name hname => decide_eq_true (hapart name hname)
  have hother : ∀ name, TouchedBy client.other turns name →
      ¬ decide (¬ TouchedBy client.other turns name) = true :=
    fun name hname hkeep => of_decide_eq_true hkeep hname
  obtain ⟨hanswers, hcontent⟩ := alike hplace hplace rfl hown hother
  have hfound : ∀ name, ¬ TouchedBy client.other turns name →
      ((w.play h turns).content h).get? name =
        ((w.play h (own client turns)).content h).get? name :=
    fun name hname => Store.get?_eq_of_restrict hcontent (decide_eq_true hname)
  refine ⟨hanswers, hfound, ?_, fun name segment hlast => ?_⟩
  · rw [← Store.names_restrict, ← Store.names_restrict, hcontent]
  · obtain ⟨hname, before, after, hevents, -⟩ := id hlast
    have hmem : Store.Event.loaded segment ∈ eventsOf client turns := by
      rw [hevents]
      exact List.mem_append_right _ List.mem_cons_self
    obtain ⟨t, -, ht⟩ := List.mem_flatMap.1 hmem
    obtain ⟨p, hp⟩ := (t.change.does .empty).ofSegment_of_mem ht
    have htouched := touchedBy_of_mem_eventsOf hmem (.inl hname)
    refine ⟨p, hp, (hfound name (hapart name htouched)).trans ?_⟩
    rw [content_play hplace]
    exact Store.get?_writeAll_of_lastLoaded hlast hp

theorem get?_play_of_untouched {name : String} (hplace : h.place < w.contents.length)
    (huntouched : ∀ client, ¬ TouchedBy client turns name) :
    ((w.play h turns).content h).get? name = (w.content h).get? name := by
  rw [content_play hplace]
  refine Store.get?_writeAll fun e he hname => ?_
  obtain ⟨t, ht, he⟩ := List.mem_flatMap.1 he
  exact huntouched t.client ⟨t, ht, rfl, e, he, hname⟩

/-- Two clients of one store that touch no name in common take turns in any order. Each of them is
undisturbed by the other, names that neither touches keep what they had, and no name is there
twice. -/
theorem clients_undisturbed (hplace : h.place < w.contents.length)
    (hapart : ∀ name, TouchedBy .first turns name → ¬ TouchedBy .second turns name) :
    (∀ client, Undisturbed w h turns client) ∧
      (∀ name, (∀ client, ¬ TouchedBy client turns name) →
        ((w.play h turns).content h).get? name = (w.content h).get? name) ∧
      ((w.content h).names.Nodup → ((w.play h turns).content h).names.Nodup) := by
  refine ⟨fun client => ?_, fun name => get?_play_of_untouched hplace, fun hnodup => ?_⟩
  · cases client with
    | first => exact .of_apart hplace hapart
    | second => exact .of_apart hplace fun name hsecond hfirst => hapart name hfirst hsecond
  · rw [content_play hplace]
    exact Store.nodup_writeAll hnodup

/-- One client loads the sample, before the other takes out a name that is not there. -/
def sampleTurns : List Turn :=
  [⟨.first, .load .sample⟩, ⟨.second, .remove "adults"⟩]

theorem eq_of_touchedBy_sampleTurns {name : String} (htouched : TouchedBy client sampleTurns name) :
    name = match client with | .first => "minors" | .second => "adults" := by
  obtain ⟨t, ht, rfl, e, he, hname⟩ := htouched
  rcases List.mem_pair.1 ht with rfl | rfl
  · have hevents : (Store.Change.load .sample).events = [.loaded .sample] :=
      congrArg (List.map Store.Event.loaded) loads_sample
    obtain rfl := List.mem_singleton.1 (hevents ▸ he)
    exact (hname.resolve_right id).symm
  · obtain rfl := List.mem_singleton.1 he
    exact (hname.resolve_left id).symm

/-- The name that is not there does not keep the sample from being found. -/
theorem sample_kept_beside_other_client :
    (0 < (Stores.mk [.empty]).contents.length ∧
      ∀ name, TouchedBy .first sampleTurns name → ¬ TouchedBy .second sampleTurns name) ∧
      ((play ⟨[.empty]⟩ ⟨0, .standard⟩ sampleTurns).content ⟨0, .standard⟩).get? "minors" =
        some .sample ∧
      answersTo .second ⟨0, .standard⟩ ⟨[.empty]⟩ sampleTurns =
        [.error (.segmentNotFound "adults")] := by
  have hplace : (Handle.mk 0 .standard).place < (Stores.mk [.empty]).contents.length := Nat.one_pos
  have hapart :
      ∀ name, TouchedBy .first sampleTurns name → ¬ TouchedBy .second sampleTurns name := by
    intro name hfirst hsecond
    have hboth : "minors" = "adults" :=
      (eq_of_touchedBy_sampleTurns hfirst).symm.trans (eq_of_touchedBy_sampleTurns hsecond)
    exact absurd hboth (by decide)
  have hundisturbed := (clients_undisturbed hplace hapart).1
  have hevents : eventsOf .first sampleTurns = [.loaded .sample] := by
    simp [eventsOf, own, sampleTurns, Store.Change.events, loads_sample]
  have hlast : Store.LastLoaded (eventsOf .first sampleTurns) "minors" .sample :=
    ⟨rfl, [], [], hevents, fun e he => (by cases he)⟩
  obtain ⟨p, hp, hget⟩ := (hundisturbed .first).loaded "minors" .sample hlast
  obtain rfl : Predicate.sample = p := Except.ok.inj (Predicate.ofSegment_sample.symm.trans hp)
  exact ⟨⟨hplace, hapart⟩, hget, (hundisturbed .second).answers⟩

end Stores

end Audience
