import Mathlib.Data.List.Forall2

/-!
# Computations that may fail

A chain of steps succeeds if each step does, and otherwise fails as its first failing step does.
`mapM_eq_ok_iff` and `mapM_eq_error_iff` say this of a step that is taken for every item of a list.
The items and their results then correspond one by one (`List.Forall₂`).
-/

namespace Audience

section Except

variable {ε ε' α β : Type}

theorem bind_eq_ok_iff {x : Except ε α} {f : α → Except ε β} {b : β} :
    (x >>= f) = .ok b ↔ ∃ a, x = .ok a ∧ f a = .ok b := by
  cases x with
  | error e => simp [bind, Except.bind]
  | ok a => simp [bind, Except.bind]

theorem bind_eq_error_iff {x : Except ε α} {f : α → Except ε β} {e : ε} :
    (x >>= f) = .error e ↔ x = .error e ∨ ∃ a, x = .ok a ∧ f a = .error e := by
  cases x with
  | error e' => simp [bind, Except.bind]
  | ok a => simp [bind, Except.bind]

/-- What comes after a step and always succeeds does not matter to whether the chain fails. -/
theorem bind_eq_error_iff_of_ok {x : Except ε α} {f : α → Except ε β}
    (hf : ∀ a, ∃ b, f a = .ok b) {e : ε} : (x >>= f) = .error e ↔ x = .error e := by
  rw [bind_eq_error_iff, or_iff_left]
  rintro ⟨a, -, ha⟩
  obtain ⟨b, hb⟩ := hf a
  cases hb.symm.trans ha

theorem mapError_eq_ok_iff {x : Except ε α} {f : ε → ε'} {a : α} :
    x.mapError f = .ok a ↔ x = .ok a := by
  cases x <;> simp [Except.mapError]

theorem mapError_eq_error_iff {x : Except ε α} {f : ε → ε'} {e' : ε'} :
    x.mapError f = .error e' ↔ ∃ e, x = .error e ∧ f e = e' := by
  cases x <;> simp [Except.mapError]

/-- All steps succeed with these results. -/
theorem mapM_eq_ok_iff {f : α → Except ε β} {as : List α} {bs : List β} :
    as.mapM f = .ok bs ↔ List.Forall₂ (fun a b => f a = .ok b) as bs := by
  induction as generalizing bs with
  | nil => simp [pure, Except.pure, eq_comm]
  | cons a as ih =>
    rw [List.mapM_cons, bind_eq_ok_iff, List.forall₂_cons_left_iff]
    constructor
    · rintro ⟨b, hb, h⟩
      obtain ⟨bs', hbs, h⟩ := bind_eq_ok_iff.1 h
      exact ⟨b, bs', hb, ih.1 hbs, (Except.ok.inj h).symm⟩
    · rintro ⟨b, bs', hb, hbs, rfl⟩
      exact ⟨b, hb, bind_eq_ok_iff.2 ⟨bs', ih.2 hbs, rfl⟩⟩

/-- A step fails, and those before it succeed. -/
theorem mapM_eq_error_iff {f : α → Except ε β} {as : List α} {e : ε} :
    as.mapM f = .error e ↔ ∃ before a after, as = before ++ a :: after ∧
      (∀ a' ∈ before, ∃ b, f a' = .ok b) ∧ f a = .error e := by
  induction as with
  | nil => simp [pure, Except.pure]
  | cons a as ih =>
    have tail (b : β) : (as.mapM f >>= fun bs => pure (b :: bs)) = .error e ↔
        as.mapM f = .error e :=
      bind_eq_error_iff_of_ok fun bs => ⟨b :: bs, rfl⟩
    simp only [List.mapM_cons, bind_eq_error_iff, tail, ih]
    constructor
    · rintro (h | ⟨b, hb, before, a', after, rfl, hbefore, ha'⟩)
      · exact ⟨[], a, as, rfl, by simp, h⟩
      · refine ⟨a :: before, a', after, rfl, ?_, ha'⟩
        intro a₀ h₀
        rcases List.mem_cons.1 h₀ with rfl | h₀
        · exact ⟨b, hb⟩
        · exact hbefore a₀ h₀
    · rintro ⟨before, a', after, h, hbefore, ha'⟩
      rcases before with _ | ⟨a₀, before⟩
      · obtain ⟨rfl, -⟩ := List.cons.inj h
        exact Or.inl ha'
      · obtain ⟨rfl, rfl⟩ := List.cons.inj h
        obtain ⟨b, hb⟩ := hbefore a List.mem_cons_self
        exact Or.inr ⟨b, hb, before, a', after, rfl,
          fun a₁ h₁ => hbefore a₁ (List.mem_cons_of_mem _ h₁), ha'⟩

/-- Where a step fails exactly on the items that are found, the first of these is told. -/
theorem mapM_eq_error_iff_find? {f : α → Except ε β} {found : α → Bool} {told : α → ε}
    (h : ∀ a e, f a = .error e ↔ found a = true ∧ e = told a) {as : List α} {e : ε} :
    as.mapM f = .error e ↔ ∃ a, as.find? found = some a ∧ e = told a := by
  have hok : ∀ a, (∃ b, f a = .ok b) ↔ found a = false := by
    intro a
    rcases hf : f a with e' | b
    · simp [((h a e').1 hf).1]
    · have hfound : found a ≠ true := fun hfound => by
        cases hf.symm.trans ((h a (told a)).2 ⟨hfound, rfl⟩)
      simp [Bool.eq_false_iff.2 hfound]
  simp only [mapM_eq_error_iff, List.find?_eq_some_iff_append, hok, h, Bool.not_eq_true']
  constructor
  · rintro ⟨before, a, after, has, hbefore, hfound, he⟩
    exact ⟨a, ⟨hfound, before, after, has, hbefore⟩, he⟩
  · rintro ⟨a, ⟨hfound, before, after, has, hbefore⟩, he⟩
    exact ⟨before, a, after, has, hbefore, hfound, he⟩

theorem toOption_bind (x : Except ε α) (f : α → Except ε β) :
    (x >>= f).toOption = x.toOption.bind fun a => (f a).toOption := by
  cases x <;> rfl

theorem toOption_mapM (f : α → Except ε β) (as : List α) :
    (as.mapM f).toOption = as.mapM fun a => (f a).toOption := by
  induction as with
  | nil => rfl
  | cons a as ih =>
    rw [List.mapM_cons, List.mapM_cons, toOption_bind]
    refine congrArg _ (funext fun b => ?_)
    rw [toOption_bind, ih]
    rfl

theorem toOption_eq_some_iff {x : Except ε α} {a : α} : x.toOption = some a ↔ x = .ok a := by
  cases x <;> simp [Except.toOption]

/-- Chains look alike if their first steps do, and if the rest does after results that look alike. -/
theorem map_bind_congr {γ δ : Type} {view : α → γ} {view' : β → δ} {x x' : Except ε α}
    {f f' : α → Except ε β} (h : x'.map view = x.map view)
    (hf : ∀ a a', view a' = view a → (f' a').map view' = (f a).map view') :
    (x' >>= f').map view' = (x >>= f).map view' := by
  rcases x with e | a
  · rcases x' with e' | a'
    · obtain rfl := Except.error.inj h
      rfl
    · cases h
  · rcases x' with e' | a'
    · cases h
    · exact hf a a' (Except.ok.inj h)

theorem map_bind_congr_right {δ : Type} {view : β → δ} {x : Except ε α} {f f' : α → Except ε β}
    (hf : ∀ a, (f' a).map view = (f a).map view) : (x >>= f').map view = (x >>= f).map view := by
  cases x with
  | error e => rfl
  | ok a => exact hf a

end Except

section Forall₂

variable {α β γ : Type} {R : α → β → Prop} {as : List α} {bs : List β}

theorem exists_right_of_mem (h : List.Forall₂ R as bs) {a : α} (ha : a ∈ as) :
    ∃ b ∈ bs, R a b := by
  induction h with
  | nil => cases ha
  | cons hr _ ih =>
    rcases List.mem_cons.1 ha with rfl | ha
    · exact ⟨_, List.mem_cons_self, hr⟩
    · obtain ⟨b, hb, hr⟩ := ih ha
      exact ⟨b, List.mem_cons_of_mem _ hb, hr⟩

theorem exists_right_of_getElem? (h : List.Forall₂ R as bs) {i : Nat} {a : α}
    (ha : as[i]? = some a) : ∃ b, bs[i]? = some b ∧ R a b := by
  obtain ⟨hi, rfl⟩ := List.getElem?_eq_some_iff.1 ha
  have hi' : i < bs.length := h.length_eq ▸ hi
  exact ⟨bs[i], List.getElem?_eq_getElem hi', h.get hi hi'⟩

theorem exists_left_of_mem (h : List.Forall₂ R as bs) {b : β} (hb : b ∈ bs) :
    ∃ a ∈ as, R a b :=
  exists_right_of_mem h.flip hb

theorem forall₂_comp {S : β → γ → Prop} {cs : List γ} (h : List.Forall₂ R as bs)
    (h' : List.Forall₂ S bs cs) : List.Forall₂ (fun a c => ∃ b ∈ bs, R a b ∧ S b c) as cs := by
  induction h generalizing cs with
  | nil =>
    cases h'
    exact .nil
  | cons hr _ ih =>
    cases h' with
    | cons hs h' =>
      refine .cons ⟨_, List.mem_cons_self, hr, hs⟩ ((ih h').imp ?_)
      rintro a c ⟨b, hb, hrs⟩
      exact ⟨b, List.mem_cons_of_mem _ hb, hrs⟩

theorem countP_eq_of_forall₂ {p : α → Bool} {q : β → Bool} (h : List.Forall₂ R as bs)
    (hpq : ∀ a b, R a b → (p a = true ↔ q b = true)) : as.countP p = bs.countP q := by
  rw [List.countP_eq_length_filter, List.countP_eq_length_filter]
  exact (List.rel_filter (fun a b hr => hpq a b hr) h).length_eq

/-- Steps that agree item by item agree on the lists. -/
theorem mapM_congr_of_forall₂ {m : Type → Type} [Monad m] [LawfulMonad m] {f : α → m γ}
    {f' : β → m γ} (h : List.Forall₂ (fun a b => f a = f' b) as bs) : as.mapM f = bs.mapM f' := by
  induction h with
  | nil => rfl
  | cons h _ ih => rw [List.mapM_cons, List.mapM_cons, h, ih]

variable {ε σ : Type} {view : β → γ}

theorem map_mapM_congr {f f' : α → Except ε β} {as as' : List α}
    (h : List.Forall₂ (fun a a' => (f' a').map view = (f a).map view) as as') :
    (as'.mapM f').map (List.map view) = (as.mapM f).map (List.map view) := by
  induction h with
  | nil => rfl
  | cons h _ ih =>
    rw [List.mapM_cons, List.mapM_cons]
    refine map_bind_congr h fun b b' hb => map_bind_congr ih fun bs bs' hbs => ?_
    exact congrArg Except.ok (congrArg₂ List.cons hb hbs)

theorem map_foldlM_congr {step step' : σ → α → Except ε σ} {view : σ → γ} {as as' : List α}
    (h : List.Forall₂ (fun a a' => ∀ s s', view s' = view s →
      (step' s' a').map view = (step s a).map view) as as') {s s' : σ} (hs : view s' = view s) :
    (as'.foldlM step' s').map view = (as.foldlM step s).map view := by
  induction h generalizing s s' with
  | nil => exact congrArg Except.ok hs
  | cons h _ ih => exact map_bind_congr (h s s' hs) fun _ _ hs => ih hs

end Forall₂

end Audience
