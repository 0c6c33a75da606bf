import Audience.Path
import Audience.Proofs.Trimming
import Mathlib.Data.List.Chain
import Mathlib.Tactic.SplitIfs

/-!
# How paths are spelled

A path is made of parts: dots, runs, and brackets with or without quotes. Between brackets with
quotes stands any text without that quote, between others any text without a closing bracket that
does not begin with a quote, and two runs never stand side by side. `Path.Spelled` says so, without
reading from left to right.

What is read are the steps of the parts (`steps?_eq_some_iff`): one part is read as its step and
reading goes on after it (`steps?_append`), provided that a run is not continued there. So reading
comes to the end or to a bracket that is not read (`exists_comesTo_final`), and nothing is read in
the second case (`steps?_eq_none_iff`).
-/

namespace Audience.Path

/-- A part of a path. -/
inductive Part where
  | dot
  | run (text : List Char)
  | quoted (quote : Char) (text : List Char)
  | bare (text : List Char)
deriving DecidableEq, Repr

namespace Part

/-- The characters of a part. -/
def chars : Part → List Char
  | dot => ['.']
  | run text => text
  | quoted quote text => '[' :: quote :: (text ++ [quote, ']'])
  | bare text => '[' :: (text ++ [']'])

theorem quoted_append (quote : Char) (text rest : List Char) :
    (quoted quote text).chars ++ rest = '[' :: quote :: (text ++ quote :: ']' :: rest) := by
  simp [chars]

theorem bare_append (text rest : List Char) :
    (bare text).chars ++ rest = '[' :: (text ++ ']' :: rest) := by
  simp [chars]

/-- The step that a part is; a dot is none, and white space around a text without quotes is
dropped. -/
def step? : Part → Option Step
  | dot => none
  | run text => some (.key (String.ofList text))
  | quoted _ text => some (.key (String.ofList text))
  | bare text => some (.index (String.ofList (Text.trimChars text)))

/-- Whether a part is a run. -/
def isRun : Part → Bool
  | run _ => true
  | _ => false

/-- What may stand in a part. -/
inductive Legal : Part → Prop
  | dot : Legal dot
  | run {text : List Char} (hne : text ≠ []) (h : ∀ c ∈ text, isPlain c = true) : Legal (run text)
  | quoted {quote : Char} {text : List Char} (hquote : quote = '\'' ∨ quote = '"')
      (h : quote ∉ text) : Legal (quoted quote text)
  | bare {text : List Char} (hquote : ∀ c ∈ text.head?, c ≠ '\'' ∧ c ≠ '"') (h : ']' ∉ text) :
      Legal (bare text)

theorem ne_of_isBlank {c : Char} (h : Text.isBlank c = true) : c ≠ ']' ∧ c ≠ '\'' ∧ c ≠ '"' := by
  refine ⟨?_, ?_, ?_⟩ <;> rintro rfl <;> revert h <;> decide

/-- Brackets without quotes are a step with some text exactly if the text, which trimming leaves as
it is, stands there with white space before and after it; a quote at its front is kept from the
bracket by that. -/
theorem legal_bare_iff {cs text : List Char} :
    Legal (bare cs) ∧ (bare cs).step? = some (.index (String.ofList text)) ↔ ∃ lead trail,
      cs = lead ++ text ++ trail ∧ (∀ c ∈ lead, Text.isBlank c = true) ∧
        (∀ c ∈ trail, Text.isBlank c = true) ∧ Text.trimChars text = text ∧ ']' ∉ text ∧
        ∀ c ∈ text.head?, c = '\'' ∨ c = '"' → lead ≠ [] := by
  constructor
  · rintro ⟨⟨⟩, hstep⟩
    rename_i hquote hclose
    obtain rfl : Text.trimChars cs = text :=
      String.ofList_injective (Step.index.inj (Option.some.inj hstep))
    obtain ⟨lead, trail, hlead, htrail, hcs⟩ := Text.exists_padding cs
    refine ⟨lead, trail, hcs, hlead, htrail, Text.trimChars_trimChars cs,
      fun hmem => hclose ?_, fun c hc hq hnil => ?_⟩
    · rw [hcs]
      exact List.mem_append_left _ (List.mem_append_right _ hmem)
    · have hhead : c ∈ cs.head? := by
        rw [hcs, hnil, List.nil_append, List.head?_append, hc]
        rfl
      exact hq.elim (hquote c hhead).1 (hquote c hhead).2
  · rintro ⟨lead, trail, rfl, hlead, htrail, htrim, hclose, hquote⟩
    refine ⟨.bare (fun c hc => ?_) fun hmem => ?_, ?_⟩
    · cases lead with
      | cons d lead =>
        obtain rfl := Option.some.inj hc
        exact (ne_of_isBlank (hlead d List.mem_cons_self)).2
      | nil =>
        cases text with
        | cons d text =>
          obtain rfl := Option.some.inj hc
          exact not_or.1 fun hq => hquote d rfl hq rfl
        | nil => exact (ne_of_isBlank (htrail c (List.mem_of_mem_head? hc))).2
    · rcases List.mem_append.1 hmem with hmem | hmem
      · rcases List.mem_append.1 hmem with hmem | hmem
        · exact (ne_of_isBlank (hlead _ hmem)).1 rfl
        · exact hclose hmem
      · exact (ne_of_isBlank (htrail _ hmem)).1 rfl
    · rw [step?, Text.trimChars_padded text hlead htrail, htrim]

end Part

/-- Parts that make up characters, of which no two runs stand side by side: a run goes on until there
is a dot, an opening bracket or nothing. -/
structure Spelled (parts : List Part) (cs : List Char) : Prop where
  chars : parts.flatMap Part.chars = cs
  legal : ∀ part ∈ parts, part.Legal
  apart : parts.IsChain fun a b => ¬ (a.isRun = true ∧ b.isRun = true)

/-! ## Reading one part -/

theorem upTo?_append {c : Char} {inner : List Char} (h : c ∉ inner) (rest : List Char) :
    upTo? c (inner ++ c :: rest) = some (inner, rest) := by
  induction inner with
  | nil => simp [upTo?]
  | cons d ds ih =>
    obtain ⟨hd, hds⟩ := not_or.1 (mt List.mem_cons.2 h)
    simp [upTo?, Ne.symm hd, ih hds]

theorem upTo?_eq_some_iff {c : Char} {cs inner rest : List Char} :
    upTo? c cs = some (inner, rest) ↔ c ∉ inner ∧ cs = inner ++ c :: rest := by
  refine ⟨fun h => ?_, fun ⟨h, hcs⟩ => hcs ▸ upTo?_append h rest⟩
  induction cs generalizing inner with
  | nil => cases h
  | cons d ds ih =>
    by_cases hd : d = c
    · simp only [upTo?, hd, if_true, Option.some.injEq, Prod.mk.injEq] at h
      obtain ⟨rfl, rfl⟩ := h
      exact ⟨List.not_mem_nil, by rw [hd, List.nil_append]⟩
    · simp only [upTo?, hd, if_false, Option.map_eq_some_iff, Prod.mk.injEq] at h
      obtain ⟨⟨inner', rest'⟩, hrest, rfl, rfl⟩ := h
      obtain ⟨hnot, rfl⟩ := ih hrest
      exact ⟨mt List.mem_cons.1 (not_or.2 ⟨Ne.symm hd, hnot⟩), rfl⟩

theorem upTo?_eq_none_iff {c : Char} {cs : List Char} : upTo? c cs = none ↔ c ∉ cs := by
  constructor
  · intro h hmem
    obtain ⟨inner, rest, rfl, hinner⟩ := List.eq_append_cons_of_mem hmem
    rw [upTo?_append hinner] at h
    cases h
  · intro h
    rw [Option.eq_none_iff_forall_ne_some]
    rintro ⟨inner, rest⟩ hread
    obtain ⟨-, rfl⟩ := upTo?_eq_some_iff.1 hread
    exact h (List.mem_append_right _ List.mem_cons_self)

theorem bracket?_quoted {quote : Char} (hquote : quote = '\'' ∨ quote = '"') (cs : List Char) :
    bracket? (quote :: cs) = bracket?.quoted quote cs := by
  rcases hquote with rfl | rfl <;> rfl

theorem bracket?_bare {cs : List Char} (hquote : ∀ c ∈ cs.head?, c ≠ '\'' ∧ c ≠ '"') :
    bracket? cs = (upTo? ']' cs).map fun p =>
      (.index (String.ofList (Text.trimChars p.1)), p.2) := by
  unfold bracket?
  split
  · exact absurd rfl (hquote _ rfl).1
  · exact absurd rfl (hquote _ rfl).2
  · rfl

theorem quote_or_not (cs : List Char) :
    (∃ quote more, cs = quote :: more ∧ (quote = '\'' ∨ quote = '"')) ∨
      ∀ c ∈ cs.head?, c ≠ '\'' ∧ c ≠ '"' := by
  cases cs with
  | nil => exact .inr fun c hc => by cases hc
  | cons d ds =>
    by_cases hquote : d = '\'' ∨ d = '"'
    · exact .inl ⟨d, ds, rfl, hquote⟩
    · refine .inr fun c hc => ?_
      obtain rfl := Option.some.inj hc
      exact not_or.1 hquote

/-- What is read after an opening bracket is a part in brackets. -/
theorem exists_part_of_bracket? {cs rest : List Char} {step : Step}
    (h : bracket? cs = some (step, rest)) : ∃ part : Part, part.Legal ∧ part.isRun = false ∧
      '[' :: cs = part.chars ++ rest ∧ part.step? = some step := by
  rcases quote_or_not cs with ⟨quote, more, rfl, hquote⟩ | hbare
  · rw [bracket?_quoted hquote, bracket?.quoted] at h
    split at h
    · rename_i inner rest' hinner
      obtain ⟨hnot, rfl⟩ := upTo?_eq_some_iff.1 hinner
      obtain ⟨rfl, rfl⟩ := Prod.mk.inj (Option.some.inj h)
      exact ⟨.quoted quote inner, .quoted hquote hnot, rfl, by simp [Part.chars], rfl⟩
    · cases h
  · rw [bracket?_bare hbare, Option.map_eq_some_iff] at h
    obtain ⟨⟨inner, rest'⟩, hinner, h⟩ := h
    obtain ⟨hnot, rfl⟩ := upTo?_eq_some_iff.1 hinner
    obtain ⟨rfl, rfl⟩ := Prod.mk.inj h
    refine ⟨.bare inner, .bare (fun c hc => hbare c ?_) hnot, rfl, by simp [Part.chars], rfl⟩
    rw [List.head?_append, hc]
    rfl

theorem steps?_bracket (cs : List Char) :
    steps? ('[' :: cs) = (bracket? cs).bind fun x => (steps? x.2).map (x.1 :: ·) := by
  rw [steps?]
  split <;> rename_i heq <;> rw [heq] <;> rfl

theorem isPlain_iff {c : Char} : isPlain c = true ↔ c ≠ '.' ∧ c ≠ '[' := by
  simp [isPlain]

theorem steps?_plain {c : Char} (h : isPlain c = true) (cs : List Char) :
    steps? (c :: cs) = (steps? (cs.dropWhile isPlain)).map
      (.key (String.ofList (c :: cs.takeWhile isPlain)) :: ·) := by
  rw [steps?]
  · rintro rfl
    cases h
  · rintro rfl
    cases h

/-- No quote comes after the opening bracket of a text without quotes, also where it is empty. -/
theorem head?_bare {text : List Char} (h : ∀ c ∈ text.head?, c ≠ '\'' ∧ c ≠ '"')
    (rest : List Char) : ∀ c ∈ (text ++ ']' :: rest).head?, c ≠ '\'' ∧ c ≠ '"' := by
  intro c hc
  cases text with
  | nil =>
    obtain rfl := Option.some.inj hc
    decide
  | cons d ds => exact h c hc

/-- A run is taken up to its end if it is not continued there. -/
theorem span_run {text rest : List Char} (h : ∀ c ∈ text, isPlain c = true)
    (hrest : ∀ c ∈ rest.head?, isPlain c = false) :
    (text ++ rest).takeWhile isPlain = text ∧ (text ++ rest).dropWhile isPlain = rest := by
  have hstop : rest.takeWhile isPlain = [] ∧ rest.dropWhile isPlain = rest := by
    cases rest with
    | nil => exact ⟨rfl, rfl⟩
    | cons c cs => simp [hrest c rfl]
  rw [List.takeWhile_append_of_pos h, List.dropWhile_append_of_pos h, hstop.1, hstop.2,
    List.append_nil]
  exact ⟨rfl, rfl⟩

/-- A part is read as its step and reading goes on after it. -/
theorem steps?_append {part : Part} (h : part.Legal) {rest : List Char}
    (hrest : part.isRun = true → ∀ c ∈ rest.head?, isPlain c = false) :
    steps? (part.chars ++ rest) = (steps? rest).map (part.step?.toList ++ ·) := by
  cases h with
  | dot => simp [Part.chars, Part.step?, steps?]
  | @run text hne h =>
    obtain ⟨c, cs, rfl⟩ := List.exists_cons_of_ne_nil hne
    obtain ⟨hc, hcs⟩ := List.forall_mem_cons.1 h
    obtain ⟨htake, hdrop⟩ := span_run hcs (hrest rfl)
    rw [Part.chars, List.cons_append, steps?_plain hc, htake, hdrop]
    rfl
  | @quoted quote text hquote h =>
    have hread : bracket? (quote :: (text ++ quote :: ']' :: rest)) =
        some (.key (String.ofList text), rest) := by
      rw [bracket?_quoted hquote, bracket?.quoted, upTo?_append h]
      rfl
    simp [Part.chars, Part.step?, steps?_bracket, hread]
  | @bare text hquote h =>
    have hread : bracket? (text ++ ']' :: rest) =
        some (.index (String.ofList (Text.trimChars text)), rest) := by
      rw [bracket?_bare (head?_bare hquote rest), upTo?_append h, Option.map_some]
    simp [Part.chars, Part.step?, steps?_bracket, hread]

/-! ## Reading all parts -/

/-- A part begins with a character of a run exactly if it is one. -/
theorem Part.Legal.exists_head {part : Part} (h : part.Legal) :
    ∃ c cs, part.chars = c :: cs ∧ (isPlain c = true ↔ part.isRun = true) := by
  cases h with
  | dot => exact ⟨_, _, rfl, by decide⟩
  | @run text hne h =>
    obtain ⟨c, cs, rfl⟩ := List.exists_cons_of_ne_nil hne
    exact ⟨c, cs, rfl, fun _ => rfl, fun _ => h c List.mem_cons_self⟩
  | quoted hquote h => exact ⟨'[', _, rfl, by simp [isPlain, Part.isRun]⟩
  | bare hquote h => exact ⟨'[', _, rfl, by simp [isPlain, Part.isRun]⟩

variable {part : Part} {parts : List Part} {cs : List Char}

theorem spelled_nil_iff : Spelled [] cs ↔ cs = [] := by
  constructor
  · intro h
    exact h.chars.symm
  · rintro rfl
    exact ⟨rfl, fun part hpart => (by cases hpart), .nil⟩

/-- A first part is legal, and a run is not continued after it. -/
theorem spelled_cons_iff : Spelled (part :: parts) cs ↔ ∃ rest, cs = part.chars ++ rest ∧
    part.Legal ∧ (part.isRun = true → ∀ c ∈ rest.head?, isPlain c = false) ∧
      Spelled parts rest := by
  constructor
  · rintro ⟨rfl, hlegal, hapart⟩
    obtain ⟨hpart, hparts⟩ := List.forall_mem_cons.1 hlegal
    obtain ⟨hnext, hapart⟩ := List.isChain_cons.1 hapart
    -- what comes after a run begins as the next part does, and that is no run
    refine ⟨parts.flatMap Part.chars, List.flatMap_cons, hpart, fun hrun c hc => ?_,
      rfl, hparts, hapart⟩
    cases parts with
    | nil => cases hc
    | cons next parts =>
      obtain ⟨d, ds, hchars, hplain⟩ := (hparts next List.mem_cons_self).exists_head
      rw [List.flatMap_cons, hchars] at hc
      obtain rfl := Option.some.inj hc
      exact Bool.eq_false_iff.2 fun hd => hnext next rfl ⟨hrun, hplain.1 hd⟩
  · rintro ⟨rest, rfl, hpart, hrest, rfl, hparts, hapart⟩
    refine ⟨List.flatMap_cons, List.forall_mem_cons.2 ⟨hpart, hparts⟩,
      List.isChain_cons.2 ⟨fun next hnext hruns => ?_, hapart⟩⟩
    obtain ⟨parts', rfl⟩ := List.head?_eq_some_iff.1 hnext
    obtain ⟨d, ds, hchars, hplain⟩ := (hparts next List.mem_cons_self).exists_head
    have hd : isPlain d = false := hrest hruns.1 d (by rw [List.flatMap_cons, hchars]; rfl)
    exact Bool.false_ne_true (hd.symm.trans (hplain.2 hruns.2))

/-- Reading goes on after what parts spell, provided that a run is not continued there. -/
theorem Spelled.steps?_append (h : Spelled parts cs) {rest : List Char}
    (hrest : ∀ c ∈ rest.head?, isPlain c = false) :
    steps? (cs ++ rest) = (steps? rest).map (parts.filterMap Part.step? ++ ·) := by
  induction parts generalizing cs with
  | nil =>
    obtain rfl := spelled_nil_iff.1 h
    exact Option.map_id'.symm
  | cons part parts ih =>
    obtain ⟨more, rfl, hpart, hmore, hparts⟩ := spelled_cons_iff.1 h
    have hnext : part.isRun = true → ∀ c ∈ (more ++ rest).head?, isPlain c = false := by
      intro hrun c hc
      cases more with
      | nil => exact hrest c hc
      | cons d ds => exact hmore hrun c hc
    rw [List.append_assoc, Path.steps?_append hpart hnext, ih hparts, Option.map_map,
      List.filterMap_cons]
    cases part.step? <;> rfl

/-- What parts spell is read as their steps. -/
theorem Spelled.steps?_eq (h : Spelled parts cs) :
    steps? cs = some (parts.filterMap Part.step?) := by
  have hread : steps? (cs ++ []) = (steps? []).map (parts.filterMap Part.step? ++ ·) :=
    h.steps?_append fun c hc => by cases hc
  rwa [List.append_nil, steps?, Option.map_some, List.append_nil] at hread

/-! ## How far reading comes -/

/-- Reading comes to the rest of the characters: parts spell what stands before it. -/
def ComesTo (cs rest : List Char) : Prop :=
  ∃ parts lead, cs = lead ++ rest ∧ Spelled parts lead

/-- What reading cannot go past: the end, or a bracket that is not read. -/
inductive Final : List Char → Prop
  | nil : Final []
  | bracket {rest : List Char} (h : bracket? rest = none) : Final ('[' :: rest)

theorem comesTo_self (cs : List Char) : ComesTo cs cs :=
  ⟨[], [], rfl, spelled_nil_iff.2 rfl⟩

theorem comesTo_nil_iff : ComesTo cs [] ↔ ∃ parts, Spelled parts cs := by
  simp [ComesTo]

/-- Reading comes as far from a first part as it comes from what is after it. -/
theorem ComesTo.cons {after rest : List Char} (h : ComesTo after rest) (hpart : part.Legal)
    (hafter : part.isRun = true → ∀ c ∈ after.head?, isPlain c = false) :
    ComesTo (part.chars ++ after) rest := by
  obtain ⟨parts, lead, rfl, hparts⟩ := h
  refine ⟨part :: parts, part.chars ++ lead, (List.append_assoc ..).symm,
    spelled_cons_iff.2 ⟨lead, rfl, hpart, fun hrun c hc => hafter hrun c ?_, hparts⟩⟩
  rw [List.head?_append, hc]
  rfl

/-- Reading comes to the end or to a bracket that is not read. -/
theorem exists_comesTo_final (cs : List Char) : ∃ rest, ComesTo cs rest ∧ Final rest := by
  -- along the recursion of the reader, which takes a whole part at a time
  induction cs using steps?.induct with
  | case1 => exact ⟨[], comesTo_self [], .nil⟩
  | case2 cs ih =>
    obtain ⟨final, hcomes, hfinal⟩ := ih
    exact ⟨final, hcomes.cons .dot (fun hrun => by cases hrun), hfinal⟩
  | case3 cs step rest hbracket ih =>
    obtain ⟨final, hcomes, hfinal⟩ := ih
    obtain ⟨part, hpart, hrun, hchars, -⟩ := exists_part_of_bracket? hbracket
    rw [hchars]
    exact ⟨final, hcomes.cons hpart (fun hrun' => by cases hrun.symm.trans hrun'), hfinal⟩
  | case4 cs hbracket => exact ⟨'[' :: cs, comesTo_self _, .bracket hbracket⟩
  | case5 c cs hdot hopen ih =>
    obtain ⟨final, hcomes, hfinal⟩ := ih
    have hc : isPlain c = true := isPlain_iff.2 ⟨hdot, hopen⟩
    have hrun : Part.Legal (.run (c :: cs.takeWhile isPlain)) :=
      .run (List.cons_ne_nil _ _)
        (List.forall_mem_cons.2 ⟨hc, fun d hd => List.mem_takeWhile_imp hd⟩)
    have hchars : c :: cs =
        (Part.run (c :: cs.takeWhile isPlain)).chars ++ cs.dropWhile isPlain := by
      rw [Part.chars, List.cons_append, List.takeWhile_append_dropWhile]
    rw [hchars]
    refine ⟨final, hcomes.cons hrun (fun _ d hd => ?_), hfinal⟩
    -- the run was taken as far as it goes
    have hstop := List.head?_dropWhile_not isPlain cs
    rwa [Option.mem_def.1 hd] at hstop

/-- Nothing is read exactly if reading comes to a bracket that is not read. -/
theorem steps?_eq_none_iff :
    steps? cs = none ↔ ∃ rest, ComesTo cs ('[' :: rest) ∧ bracket? rest = none := by
  constructor
  · intro h
    obtain ⟨final, hcomes, hfinal⟩ := exists_comesTo_final cs
    cases hfinal with
    | nil =>
      obtain ⟨parts, hparts⟩ := comesTo_nil_iff.1 hcomes
      cases hparts.steps?_eq.symm.trans h
    | bracket hbracket => exact ⟨_, hcomes, hbracket⟩
  · rintro ⟨rest, ⟨parts, lead, rfl, hparts⟩, hbracket⟩
    have hopen : ∀ c ∈ ('[' :: rest).head?, isPlain c = false := by
      rintro c ⟨⟩
      rfl
    rw [hparts.steps?_append hopen, steps?_bracket, hbracket]
    rfl

/-- What is read is spelled by some parts. -/
theorem exists_spelled {steps : List Step} (h : steps? cs = some steps) :
    ∃ parts, Spelled parts cs ∧ parts.filterMap Part.step? = steps := by
  obtain ⟨final, hcomes, hfinal⟩ := exists_comesTo_final cs
  cases hfinal with
  | nil =>
    obtain ⟨parts, hparts⟩ := comesTo_nil_iff.1 hcomes
    exact ⟨parts, hparts, Option.some.inj (hparts.steps?_eq.symm.trans h)⟩
  | bracket hbracket => cases (steps?_eq_none_iff.2 ⟨_, hcomes, hbracket⟩).symm.trans h

/-- The steps that are read are those of the parts that spell the characters. -/
theorem steps?_eq_some_iff {steps : List Step} :
    steps? cs = some steps ↔
      ∃ parts, Spelled parts cs ∧ parts.filterMap Part.step? = steps := by
  constructor
  · exact exists_spelled
  · rintro ⟨parts, hparts, rfl⟩
    exact hparts.steps?_eq

/-- A path has the steps of the parts that spell it, if there are any. -/
theorem parse?_eq_some_iff {path : String} {steps : List Step} :
    parse? path = some steps ↔ steps ≠ [] ∧
      ∃ parts, Spelled parts path.toList ∧ parts.filterMap Part.step? = steps := by
  rw [← steps?_eq_some_iff, parse?]
  split
  · rename_i hnone
    rw [hnone]
    simp
  · rename_i hsome
    constructor
    · intro h
      exact ⟨fun hsteps => hsome (hsteps ▸ h), h⟩
    · exact And.right

end Audience.Path
