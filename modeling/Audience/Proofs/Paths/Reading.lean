import Audience.Proofs.Paths.Spelling

/-!
# How paths are read

The parts that spell a path are settled by it (`Path.Spelled.unique`), since each of them tells by
itself where it ends (`Path.Part.Legal.unique`).

A path is read exactly if parts spell it that are not all dots, and as the steps of those parts
(`Path.reads_exactly`). It is not read for three causes: reading comes to a bracket that is never
closed (`Path.Unclosed`), or to one whose closing quote is not followed at once by the closing
bracket (`Path.Loose`), or the path has nothing but dots.
-/

namespace Audience.Path

/-! ## One way to take characters apart -/

section Unique

variable {part part' : Part} {parts parts' : List Part} {cs rest rest' : List Char}

theorem isRun_eq_of_append_eq (h : part.Legal) (h' : part'.Legal)
    (heq : part.chars ++ rest = part'.chars ++ rest') : part.isRun = part'.isRun := by
  obtain ⟨c, cs, hchars, hplain⟩ := h.exists_head
  obtain ⟨c', cs', hchars', hplain'⟩ := h'.exists_head
  rw [hchars, hchars'] at heq
  obtain rfl : c = c' := (List.cons.inj heq).1
  exact Bool.eq_iff_iff.2 (hplain.symm.trans hplain')

/-- A bracket with quotes and one without are told apart by the character after the opening one. -/
theorem quoted_append_ne_bare_append {quote : Char} {text text' : List Char}
    (hquote : quote = '\'' ∨ quote = '"') (h : ∀ c ∈ text'.head?, c ≠ '\'' ∧ c ≠ '"') :
    (Part.quoted quote text).chars ++ rest ≠ (Part.bare text').chars ++ rest' := by
  intro heq
  rw [Part.quoted_append, Part.bare_append, List.cons.injEq] at heq
  have hne := head?_bare h rest' quote (by rw [← heq.2]; rfl)
  exact hquote.elim hne.1 hne.2

/-- A part ends where its characters say, whatever comes after it, if that does not continue a
run. -/
theorem Part.Legal.unique (h : part.Legal) (h' : part'.Legal)
    (hrest : part.isRun = true → ∀ c ∈ rest.head?, isPlain c = false)
    (hrest' : part'.isRun = true → ∀ c ∈ rest'.head?, isPlain c = false)
    (heq : part.chars ++ rest = part'.chars ++ rest') : part = part' ∧ rest = rest' := by
  have hruns := isRun_eq_of_append_eq h h' heq
  cases h with
  | dot =>
    cases h' with
    | dot => exact ⟨rfl, (List.cons.inj heq).2⟩
    | run => cases hruns
    | quoted | bare => simp [Part.chars] at heq
  | run hne hplain =>
    cases h' with
    | run hne' hplain' =>
      obtain ⟨htake, hdrop⟩ := span_run hplain (hrest rfl)
      obtain ⟨htake', hdrop'⟩ := span_run hplain' (hrest' rfl)
      rw [Part.chars, Part.chars] at heq
      rw [heq] at htake hdrop
      rw [← htake, ← hdrop, htake', hdrop']
      exact ⟨rfl, rfl⟩
    | dot | quoted | bare => cases hruns
  | @quoted quote text hquote hmem =>
    cases h' with
    | dot => simp [Part.chars] at heq
    | run => cases hruns
    | quoted hquote' hmem' =>
      rw [quoted_append, quoted_append, List.cons.injEq, List.cons.injEq] at heq
      obtain ⟨-, rfl, heq⟩ := heq
      have hread := congrArg (upTo? quote) heq
      rw [upTo?_append hmem, upTo?_append hmem'] at hread
      cases hread
      exact ⟨rfl, rfl⟩
    | bare hquote' hmem' => exact absurd heq (quoted_append_ne_bare_append hquote hquote')
  | bare hquote hmem =>
    cases h' with
    | dot => simp [Part.chars] at heq
    | run => cases hruns
    | quoted hquote' hmem' => exact absurd heq.symm (quoted_append_ne_bare_append hquote' hquote)
    | bare hquote' hmem' =>
      rw [bare_append, bare_append, List.cons.injEq] at heq
      have hread := congrArg (upTo? ']') heq.2
      rw [upTo?_append hmem, upTo?_append hmem'] at hread
      cases hread
      exact ⟨rfl, rfl⟩

theorem eq_nil_of_spelled_nil (h : Spelled parts []) : parts = [] := by
  cases parts with
  | nil => rfl
  | cons part parts =>
    obtain ⟨rest, hchars, hpart, -, -⟩ := spelled_cons_iff.1 h
    obtain ⟨c, cs, hhead, -⟩ := hpart.exists_head
    rw [hhead] at hchars
    cases hchars

/-- Characters are spelled by at most one list of parts. -/
theorem Spelled.unique (h : Spelled parts cs) (h' : Spelled parts' cs) : parts = parts' := by
  induction parts generalizing parts' cs with
  | nil =>
    obtain rfl := spelled_nil_iff.1 h
    exact (eq_nil_of_spelled_nil h').symm
  | cons part parts ih =>
    cases parts' with
    | nil =>
      obtain rfl := spelled_nil_iff.1 h'
      exact eq_nil_of_spelled_nil h
    | cons part' parts' =>
      obtain ⟨rest, rfl, hpart, hrest, hparts⟩ := spelled_cons_iff.1 h
      obtain ⟨rest', heq, hpart', hrest', hparts'⟩ := spelled_cons_iff.1 h'
      obtain ⟨rfl, rfl⟩ := hpart.unique hpart' hrest hrest' heq
      rw [ih hparts hparts']

end Unique

/-! ## Brackets that are not read -/

/-- What stands after an opening bracket that is never closed: a quote that does not end, or a text
without quotes and without a closing bracket. -/
inductive Unclosed : List Char → Prop
  | quoted {quote : Char} {text : List Char} (hquote : quote = '\'' ∨ quote = '"')
      (h : quote ∉ text) : Unclosed (quote :: text)
  | bare {text : List Char} (hquote : ∀ c ∈ text.head?, c ≠ '\'' ∧ c ≠ '"') (h : ']' ∉ text) :
      Unclosed text

/-- What stands after an opening bracket whose closing quote is not followed at once by a closing
bracket. -/
inductive Loose : List Char → Prop
  | mk {quote : Char} {text rest : List Char} (hquote : quote = '\'' ∨ quote = '"')
      (h : quote ∉ text) (hrest : rest.head? ≠ some ']') : Loose (quote :: (text ++ quote :: rest))

/-- A bracket is not read exactly if it is never closed, or not at once after its closing quote. -/
theorem bracket?_eq_none_iff {cs : List Char} : bracket? cs = none ↔ Unclosed cs ∨ Loose cs := by
  constructor
  · intro h
    rcases quote_or_not cs with ⟨quote, more, rfl, hquote⟩ | hbare
    · rw [bracket?_quoted hquote, bracket?.quoted] at h
      cases hread : upTo? quote more with
      | none => exact .inl (.quoted hquote (upTo?_eq_none_iff.1 hread))
      | some read =>
        obtain ⟨text, rest⟩ := read
        obtain ⟨hmem, rfl⟩ := upTo?_eq_some_iff.1 hread
        refine .inr (.mk hquote hmem fun hclosed => ?_)
        obtain ⟨more, rfl⟩ := List.head?_eq_some_iff.1 hclosed
        rw [hread] at h
        cases h
    · rw [bracket?_bare hbare, Option.map_eq_none_iff, upTo?_eq_none_iff] at h
      exact .inl (.bare hbare h)
  · rintro ((⟨hquote, hmem⟩ | ⟨hquote, hmem⟩) | ⟨hquote, hmem, hrest⟩)
    · rw [bracket?_quoted hquote, bracket?.quoted, upTo?_eq_none_iff.2 hmem]
    · rw [bracket?_bare hquote, upTo?_eq_none_iff.2 hmem, Option.map_none]
    · rw [bracket?_quoted hquote, bracket?.quoted, upTo?_append hmem]
      split
      · rename_i hread
        cases hread
        exact absurd rfl hrest
      · rfl

/-! ## Paths that are read -/

theorem Part.step?_eq_none_iff {part : Part} : part.step? = none ↔ part = .dot := by
  cases part <;> simp [step?]

theorem filterMap_step?_ne_nil_iff {parts : List Part} :
    parts.filterMap Part.step? ≠ [] ↔ ∃ part ∈ parts, part ≠ .dot := by
  simp [List.filterMap_eq_nil_iff, Part.step?_eq_none_iff]

/-- Characters have no steps exactly if they are dots. -/
theorem steps?_eq_some_nil_iff {cs : List Char} :
    steps? cs = some [] ↔ ∀ c ∈ cs, c = '.' := by
  induction cs using steps?.induct with
  | case1 => simp [steps?]
  | case2 cs ih => simp [steps?, ih]
  | case3 cs step rest hbracket ih => simp [steps?_bracket, hbracket]
  | case4 cs hbracket => simp [steps?_bracket, hbracket]
  | case5 c cs hdot hopen ih =>
    refine iff_of_false ?_ fun h => hdot (h c List.mem_cons_self)
    rw [steps?_plain (isPlain_iff.2 ⟨hdot, hopen⟩), Option.map_eq_some_iff]
    rintro ⟨steps, -, hsteps⟩
    cases hsteps

theorem parse?_eq_none_iff {path : String} :
    parse? path = none ↔ steps? path.toList = none ∨ steps? path.toList = some [] := by
  rw [parse?]
  split
  · rename_i hnil
    simp [hnil]
  · rename_i hne
    exact (or_iff_left fun h => hne h).symm

/-- How a path is read: the parts that spell it are settled, it has their steps if they are not all
dots, and it is not read if a bracket is never closed, or not at once after its closing quote, or
there is nothing but dots. -/
structure ReadExactly (path : String) : Prop where
  unique : ∀ parts parts', Spelled parts path.toList → Spelled parts' path.toList → parts = parts'
  some_iff : ∀ steps, parse? path = some steps ↔ ∃ parts, Spelled parts path.toList ∧
    (∃ part ∈ parts, part ≠ .dot) ∧ steps = parts.filterMap Part.step?
  none_iff : parse? path = none ↔
    (∃ rest, ComesTo path.toList ('[' :: rest) ∧ Unclosed rest) ∨
      (∃ rest, ComesTo path.toList ('[' :: rest) ∧ Loose rest) ∨ ∀ c ∈ path.toList, c = '.'
  ne_nil : parse? path ≠ some []

/-- Every path is read as the parts say that spell it, of which there is one list at most, or it is
not read for one of three causes. -/
theorem reads_exactly (path : String) : ReadExactly path where
  unique _ _ h h' := h.unique h'
  some_iff steps := by
    rw [parse?_eq_some_iff]
    constructor
    · rintro ⟨hne, parts, hparts, rfl⟩
      exact ⟨parts, hparts, filterMap_step?_ne_nil_iff.1 hne, rfl⟩
    · rintro ⟨parts, hparts, hpart, rfl⟩
      exact ⟨filterMap_step?_ne_nil_iff.2 hpart, parts, hparts, rfl⟩
  none_iff := by
    simp only [parse?_eq_none_iff, steps?_eq_none_iff, steps?_eq_some_nil_iff,
      bracket?_eq_none_iff, and_or_left, exists_or, or_assoc]
  ne_nil h := (parse?_eq_some_iff.1 h).1 rfl

/-- A path with a closing bracket and a quote in a run, and brackets of both kinds, one of them
empty; and one for each cause of not being read. -/
theorem sample_reads :
    parse? ".a]'['x.\"]'][ +0 ].[]" = some [.key "a]'", .key "x.\"]", .index "+0", .index ""] ∧
      parse? "a['b]" = none ∧ parse? "a['b'c]" = none ∧ parse? "..." = none := by
  have hlead : Spelled [.run ['a']] ['a'] :=
    spelled_cons_iff.2 ⟨[], rfl, .run (by decide) (by simp [isPlain]),
      (fun _ c hc => by cases hc), spelled_nil_iff.2 rfl⟩
  refine ⟨((reads_exactly _).some_iff _).2 ?_, (reads_exactly _).none_iff.2 (.inl ?_),
    (reads_exactly _).none_iff.2 (.inr (.inl ?_)), (reads_exactly _).none_iff.2 (.inr (.inr ?_))⟩
  · refine ⟨[.dot, .run ['a', ']', '\''], .quoted '\'' ['x', '.', '"', ']'],
      .bare [' ', '+', '0', ' '], .dot, .bare []], ⟨by decide +kernel, ?_, by simp [Part.isRun]⟩,
      ⟨.bare [], by decide, by decide⟩, by decide +kernel⟩
    simp only [List.forall_mem_cons, List.not_mem_nil, false_implies, implies_true, and_true]
    exact ⟨.dot, .run (by decide) (by simp [isPlain]), .quoted (.inl rfl) (by decide),
      .bare (by simp) (by decide), .dot, .bare (by simp) (by decide)⟩
  · exact ⟨['\'', 'b', ']'], ⟨[.run ['a']], ['a'], by decide +kernel, hlead⟩,
      .quoted (.inl rfl) (by decide)⟩
  · exact ⟨['\'', 'b', '\'', 'c', ']'], ⟨[.run ['a']], ['a'], by decide +kernel, hlead⟩,
      @Loose.mk '\'' ['b'] ['c', ']'] (.inl rfl) (by decide) (by decide)⟩
  · have hdots : "...".toList = ['.', '.', '.'] := by decide +kernel
    simp [hdots]

end Audience.Path
