import Audience.CommandLine.Basic
import Audience.Proofs.Documents.Outcomes

/-!
# What the program evaluates

A list of segments and a single one are evaluated in ways of their own. Of either, something is made
ready or refused first, which neither `all` nor a trace has a say in (`evaluateList_eq`,
`evaluateSingle_eq`). What is made ready of a single segment is what the list of it alone holds
(`held_singleton`), and the rest is told by reports: `resultTold` finds the result in the documents
of the reports, since the document of an outcome tells its kind.
-/

namespace Audience

/-! ## Documents of reports -/

instance : DecidablePred Json.LooksLikeSegment :=
  fun j => inferInstanceAs (Decidable (j.has "name" = true ∧ j.has "conditions" = true))

theorem Outcome.decide_looksLikeSegment (o : Outcome) :
    decide o.toJson.LooksLikeSegment = o.segment?.isSome := by
  rw [Bool.eq_iff_iff, decide_eq_true_iff, looksLikeSegment_iff]
  cases o <;> simp [segment?]

/-- The documents of matches are those that look like segments. -/
theorem Outcome.filter_looksLikeSegment (os : List Outcome) :
    (os.map toJson).filter (fun j => j.LooksLikeSegment) =
      (os.filterMap segment?).map Segment.toJson := by
  induction os with
  | nil => rfl
  | cons o os ih =>
    rw [List.map_cons, List.filter_cons, decide_looksLikeSegment, ih]
    cases o <;> rfl

theorem Outcome.failure?_eq_some_iff {o : Outcome} {f : Failure} :
    o.failure? = some f ↔ o = .failed f := by
  cases o <;> simp [failure?]

namespace Report

theorem field?_outcome (report : Report) :
    report.toJson.field? "outcome" = some report.outcome.toJson := by
  simp [toJson, Json.ofFields, Json.field?, Json.fields?, Fields.ofList, Fields.get?_put]

theorem field?_segmentName (report : Report) :
    report.toJson.field? "segment_name" = some (.string report.segmentName) := by
  simp [toJson, Json.ofFields, Json.field?, Json.fields?, Fields.ofList, Fields.get?_put]

/-- The outcomes that documents of reports tell. -/
theorem filterMap_field?_outcome (reports : List Report) :
    (reports.map toJson).filterMap (·.field? "outcome") =
      (reports.map outcome).map Outcome.toJson := by
  simp only [List.filterMap_map, List.map_map, Function.comp_def, field?_outcome,
    List.filterMap_eq_map']

end Report

namespace CommandLine

/-! ## What is made ready -/

/-- The store of a list of segments, or why there is none. -/
def held (items : List Json) : Except Failure Store := do
  let segments ← (items.mapM Segment.ofJson).mapError fun fault =>
    ⟨"分群配置格式错误", [(Json.Error.ofMismatch fault).message]⟩
  (Store.ofSegments segments).mapError (.ofError "分群编译失败")

/-- The result for a list. -/
def listResult (s : Store) (r : Record) (all : Bool) : Json :=
  if all then .array ((s.selectAll .standard r).map Segment.toJson)
  else (s.selectFirst .standard r).toJson

/-- The result for a single segment. -/
def singleResult (p : Predicate) (r : Record) (all : Bool) : Json :=
  if all then .array ((p.outcome .standard r).segment?.toList.map Segment.toJson)
  else (p.outcome .standard r).toJson

variable {items : List Json} {j state : Json} {r : Record} {all traced : Bool} {s : Store}
  {p : Predicate}

theorem listResult_all :
    listResult s r true = .array ((s.selectAll .standard r).map Segment.toJson) := rfl

theorem listResult_one : listResult s r false = (s.selectFirst .standard r).toJson := rfl

theorem singleResult_all :
    singleResult p r true = .array ((p.outcome .standard r).segment?.toList.map Segment.toJson) :=
  rfl

theorem singleResult_one : singleResult p r false = (p.outcome .standard r).toJson := rfl

theorem evaluateList_eq (items : List Json) (r : Record) (all traced : Bool) :
    evaluateList items r all traced = (held items).map fun s =>
      output traced (listResult s r all) (s.reportAll ⟨.standard, traced⟩ r) := by
  unfold evaluateList held Store.ofSegments
  rcases items.mapM Segment.ofJson with fault | segments
  · rfl
  · simp only [Except.mapError, bind, Except.bind]
    rcases (Store.loadAll segments).on .empty with ⟨e | names, s⟩ <;> rfl

theorem evaluateSingle_eq (j : Json) (r : Record) (all traced : Bool) :
    evaluateSingle j r all traced =
      ((Predicate.ofJson j).mapError (Failure.ofError "分群编译失败")).map fun p =>
        output traced (singleResult p r all) [p.report .standard traced r] := by
  unfold evaluateSingle
  cases Predicate.ofJson j <;> rfl

theorem held_eq_ok_iff :
    held items = .ok s ↔
      ∃ segments, items.mapM Segment.ofJson = .ok segments ∧ Store.ofSegments segments = .ok s := by
  unfold held
  simp only [bind_eq_ok_iff, mapError_eq_ok_iff]

/-- The list of one segment holds what the segment is made into. -/
theorem held_singleton :
    held [j] = .ok s ↔ ∃ p, Predicate.ofJson j = .ok p ∧ s = ⟨[(p.name, p)]⟩ := by
  rw [held_eq_ok_iff]
  constructor
  · -- one segment was read, and one predicate made of it
    rintro ⟨segments, hsegments, hs⟩
    obtain ⟨segment, rest, hsegment, hrest, rfl⟩ :=
      List.forall₂_cons_left_iff.1 (mapM_eq_ok_iff.1 hsegments)
    obtain rfl := List.forall₂_nil_left_iff.1 hrest
    obtain ⟨-, ps, hps, rfl⟩ := Store.ofSegments_eq_ok_iff.1 hs
    obtain ⟨p, rest, hp, hrest, rfl⟩ := List.forall₂_cons_left_iff.1 (mapM_eq_ok_iff.1 hps)
    obtain rfl := List.forall₂_nil_left_iff.1 hrest
    refine ⟨p, ?_, rfl⟩
    rw [Predicate.ofJson, hsegment]
    exact hp
  · rintro ⟨p, hp, rfl⟩
    obtain ⟨segment, hsegment, hp⟩ := bind_eq_ok_iff.1 hp
    have hready : List.Forall₂ (fun s p => Predicate.ofSegment s = .ok p) [segment] [p] :=
      .cons hp .nil
    refine ⟨[segment], mapM_eq_ok_iff.2 (.cons (mapError_eq_ok_iff.1 hsegment) .nil), ?_⟩
    exact Store.ofSegments_eq_ok_iff.2 ⟨List.cons_ne_nil _ _, [p], mapM_eq_ok_iff.2 hready, rfl⟩

theorem evaluate_of_not_array (h : ∀ items, j ≠ .array items) :
    evaluate j state all traced = evaluateSingle j (.resolve state none) all traced := by
  cases j with
  | array items => exact absurd rfl (h items)
  | _ => rfl

/-! ## A segment and the list of it -/

theorem selectAll_standard :
    s.selectAll .standard r =
      s.predicates.filterMap fun p => (p.outcome .standard r).segment? := by
  rw [Store.selectAll, Engine.standard]

theorem filterMap_segment?_singleton {compare : Comparison} :
    [p].filterMap (fun p => (p.outcome compare r).segment?) =
      (p.outcome compare r).segment?.toList := by
  cases h : (p.outcome compare r).segment? <;> simp [h]

theorem selectAll_singleton {name : String} :
    Store.selectAll ⟨[(name, p)]⟩ .standard r = (p.outcome .standard r).segment?.toList := by
  rw [selectAll_standard]
  exact filterMap_segment?_singleton

theorem selectFirst_singleton {name : String} (h : ∀ f, p.outcome .standard r ≠ .failed f) :
    Store.selectFirst ⟨[(name, p)]⟩ .standard r = p.outcome .standard r := by
  rw [Store.selectFirst_eq_match, selectAll_singleton]
  cases ho : p.outcome .standard r with
  | failed f => exact absurd ho (h f)
  | _ => rfl

theorem selectFirst_singleton_of_failed {name : String} {f : Audience.Failure}
    (h : p.outcome .standard r = .failed f) :
    Store.selectFirst ⟨[(name, p)]⟩ .standard r = .notMatched := by
  rw [Store.selectFirst_eq_match, selectAll_singleton, h]
  rfl

/-- A value that is not a list, beside the list of it alone: both are evaluated or neither is. They
come to the same, with reports or without, unless one match is asked for and the evaluation fails:
then the value itself has the failure for its result, and the list has `false`. -/
structure LikeItsList (j state : Json) (traced : Bool) : Prop where
  ready : ∀ all, (∃ out, evaluate j state all traced = .ok out) ↔ ∃ p, Predicate.ofJson j = .ok p
  fails : ∀ all, (∃ e, evaluate j state all traced = .error e) ↔
    ∃ e, evaluate (.array [j]) state all traced = .error e
  all : ∀ p, Predicate.ofJson j = .ok p →
    evaluate j state true traced = evaluate (.array [j]) state true traced
  one : ∀ p, Predicate.ofJson j = .ok p →
    (∀ f, p.outcome .standard (.resolve state none) ≠ .failed f) →
    evaluate j state false traced = evaluate (.array [j]) state false traced
  failed : ∀ p f, Predicate.ofJson j = .ok p →
    p.outcome .standard (.resolve state none) = .failed f →
    ∃ reports, evaluate j state false traced = .ok (output traced f.toJson reports) ∧
      evaluate (.array [j]) state false traced = .ok (output traced (.boolean false) reports)

theorem evaluate_eq_ok_of_ofJson (hj : ∀ items, j ≠ .array items) (hp : Predicate.ofJson j = .ok p)
    (state : Json) (all traced : Bool) :
    evaluate j state all traced = .ok (output traced (singleResult p (.resolve state none) all)
      [p.report .standard traced (.resolve state none)]) := by
  rw [evaluate_of_not_array hj, evaluateSingle_eq, hp]
  rfl

theorem evaluate_eq_ok_of_held (hs : held items = .ok s) (state : Json) (all traced : Bool) :
    evaluate (.array items) state all traced =
      .ok (output traced (listResult s (.resolve state none) all)
        (s.predicates.map fun p => p.report .standard traced (.resolve state none))) := by
  change evaluateList items (.resolve state none) all traced = _
  rw [evaluateList_eq, hs]
  rfl

theorem LikeItsList.of_ok (hj : ∀ items, j ≠ .array items) (hp : Predicate.ofJson j = .ok p) :
    LikeItsList j state traced := by
  have hsingle := evaluate_eq_ok_of_ofJson hj hp state
  have hlist (all : Bool) : evaluate (.array [j]) state all traced =
      .ok (output traced (listResult ⟨[(p.name, p)]⟩ (.resolve state none) all)
        [p.report .standard traced (.resolve state none)]) :=
    evaluate_eq_ok_of_held (held_singleton.2 ⟨p, hp, rfl⟩) state all traced
  refine ⟨fun all => ?_, fun all => ?_, fun q hq => ?_, fun q hq hnot => ?_,
    fun q f hq hfailed => ?_⟩
  · exact iff_of_true ⟨_, hsingle all traced⟩ ⟨p, hp⟩
  · rw [hsingle, hlist]
    exact iff_of_false (fun ⟨e, h⟩ => by cases h) (fun ⟨e, h⟩ => by cases h)
  · rw [hsingle, hlist, listResult_all, selectAll_singleton]
    rfl
  · obtain rfl := Except.ok.inj (hp.symm.trans hq)
    rw [hsingle, hlist, listResult_one, selectFirst_singleton hnot]
    rfl
  · obtain rfl := Except.ok.inj (hp.symm.trans hq)
    refine ⟨[p.report .standard traced (.resolve state none)], ?_, ?_⟩
    · rw [hsingle, singleResult_one, hfailed]
      rfl
    · rw [hlist, listResult_one, selectFirst_singleton_of_failed hfailed]
      rfl

theorem LikeItsList.of_error {e : Error} (hj : ∀ items, j ≠ .array items)
    (he : Predicate.ofJson j = .error e) : LikeItsList j state traced := by
  have hnone : ∀ p, Predicate.ofJson j ≠ .ok p := fun p hp => by cases he.symm.trans hp
  have hsingle (all : Bool) : ∃ e, evaluate j state all traced = .error e := by
    rw [evaluate_of_not_array hj, evaluateSingle_eq, he]
    exact ⟨_, rfl⟩
  have hlist (all : Bool) : ∃ e, evaluate (.array [j]) state all traced = .error e := by
    change ∃ e, evaluateList [j] _ all traced = .error e
    rw [evaluateList_eq]
    rcases hs : held [j] with e | s
    · exact ⟨e, rfl⟩
    · obtain ⟨p, hp, -⟩ := held_singleton.1 hs
      exact absurd hp (hnone p)
  refine ⟨fun all => ?_, fun all => iff_of_true (hsingle all) (hlist all),
    fun p hp => absurd hp (hnone p), fun p hp => absurd hp (hnone p),
    fun p f hp => absurd hp (hnone p)⟩
  obtain ⟨e, he⟩ := hsingle all
  rw [he]
  exact iff_of_false (fun ⟨out, h⟩ => by cases h) (fun ⟨p, hp⟩ => hnone p hp)

/-! ## Evaluating with a trace -/

/-- The outcomes that documents of reports tell. -/
def outcomesTold (reports : List Json) : List Json :=
  reports.filterMap (·.field? "outcome")

/-- Those of them that are matches. -/
def matchesTold (reports : List Json) : List Json :=
  (outcomesTold reports).filter fun j => j.LooksLikeSegment

/-- The result that documents of reports tell: all outcomes that match, or else the first of these
where a list was evaluated, and the only outcome where it was a single segment. -/
def resultTold (listed all : Bool) (reports : List Json) : Json :=
  if all then .array (matchesTold reports)
  else if listed then (matchesTold reports).headD (.boolean false)
  else (outcomesTold reports).headD .null

theorem resultTold_all {listed : Bool} {reports : List Json} :
    resultTold listed true reports = .array (matchesTold reports) := rfl

theorem resultTold_list {reports : List Json} :
    resultTold true false reports = (matchesTold reports).headD (.boolean false) := rfl

theorem resultTold_one {reports : List Json} :
    resultTold false false reports = (outcomesTold reports).headD .null := rfl

/-- With a trace the program fails as it does without one, and otherwise it adds reports to the
result. There is one for each name of a segment, in the order in which the names come up, and they
tell the result. -/
structure TracedAlike (segments state : Json) (all : Bool) : Prop where
  error : ∀ e, evaluate segments state all true = .error e ↔
    evaluate segments state all false = .error e
  output : ∀ result, evaluate segments state all false = .ok result →
    ∃ reports read, evaluate segments state all true =
        .ok (.ofFields [("result", result), ("reports", .array reports)]) ∧
      Store.segmentsOfJson segments = .ok read ∧
      reports.map (·.field? "segment_name") =
        (read.map (·.name)).eraseDups.map (fun name => some (.string name)) ∧
      result = resultTold segments.items?.isSome all reports

section Reports

variable {ps : List Predicate}

/-- The documents of the reports on predicates. -/
def reportsOn (ps : List Predicate) (r : Record) : List Json :=
  (ps.map fun p => p.report .standard true r).map Report.toJson

theorem map_field?_reportsOn :
    (reportsOn ps r).map (·.field? "segment_name") =
      (ps.map Predicate.name).map (fun name => some (.string name)) := by
  simp only [reportsOn, List.map_map, Function.comp_def, Report.field?_segmentName]
  rfl

theorem outcomesTold_reportsOn :
    outcomesTold (reportsOn ps r) = (ps.map fun p => p.outcome .standard r).map Outcome.toJson := by
  rw [outcomesTold, reportsOn, Report.filterMap_field?_outcome]
  exact congrArg (List.map Outcome.toJson) List.map_map

theorem matchesTold_reportsOn :
    matchesTold (reportsOn ps r) =
      (ps.filterMap fun p => (p.outcome .standard r).segment?).map Segment.toJson := by
  rw [matchesTold, outcomesTold_reportsOn, Outcome.filter_looksLikeSegment, List.filterMap_map]
  rfl

/-- The reports on what a list holds tell the result for the list. -/
theorem resultTold_of_list :
    resultTold true all (reportsOn s.predicates r) = listResult s r all := by
  cases all with
  | true =>
    rw [resultTold_all, matchesTold_reportsOn, listResult_all, selectAll_standard]
  | false =>
    rw [resultTold_list, matchesTold_reportsOn, listResult_one, Store.selectFirst_eq_match,
      selectAll_standard]
    rcases s.predicates.filterMap _ with _ | ⟨segment, rest⟩ <;> rfl

theorem resultTold_of_single :
    resultTold false all (reportsOn [p] r) = singleResult p r all := by
  cases all with
  | true =>
    rw [resultTold_all, matchesTold_reportsOn, filterMap_segment?_singleton, singleResult_all]
  | false =>
    rw [resultTold_one, outcomesTold_reportsOn, singleResult_one]
    rfl

theorem segmentsOfJson_of_ofJson {segment : Segment} (hj : ∀ items, j ≠ .array items)
    (h : Segment.ofJson j = .ok segment) : Store.segmentsOfJson j = .ok [segment] := by
  cases j with
  | array items => exact absurd rfl (hj items)
  | object fields =>
    change (Segment.ofJson (.object fields)).map _ = _
    rw [h]
    rfl
  | _ => cases h

theorem TracedAlike.of_refused {segments : Json} (f : Failure)
    (h : ∀ traced, evaluate segments state all traced = .error f) :
    TracedAlike segments state all := by
  refine ⟨fun f' => by rw [h, h], fun result hresult => ?_⟩
  cases (h false).symm.trans hresult

/-- What is evaluated comes down to predicates that are reported on. -/
theorem TracedAlike.of_reports {segments result : Json} {read : List Segment}
    (h : ∀ traced, evaluate segments state all traced =
      .ok (CommandLine.output traced result (ps.map fun p => p.report .standard traced r)))
    (hread : Store.segmentsOfJson segments = .ok read)
    (hnames : ps.map Predicate.name = (read.map (·.name)).eraseDups)
    (htold : resultTold segments.items?.isSome all (reportsOn ps r) = result) :
    TracedAlike segments state all := by
  have huntraced : evaluate segments state all false = .ok result := h false
  have htraced : evaluate segments state all true =
      .ok (.ofFields [("result", result), ("reports", .array (reportsOn ps r))]) := h true
  refine ⟨fun e => ?_, fun result' hresult => ?_⟩
  · rw [htraced, huntraced]
    exact iff_of_false (fun h => by cases h) (fun h => by cases h)
  · obtain rfl := Except.ok.inj (huntraced.symm.trans hresult)
    refine ⟨reportsOn ps r, read, htraced, hread, ?_, htold.symm⟩
    rw [map_field?_reportsOn, hnames]

theorem TracedAlike.of_list (items : List Json) (state : Json) (all : Bool) :
    TracedAlike (.array items) state all := by
  rcases hs : held items with e | s
  · refine .of_refused e fun traced => ?_
    change evaluateList items _ all traced = .error e
    rw [evaluateList_eq, hs]
    rfl
  · obtain ⟨segments, hsegments, hstore⟩ := held_eq_ok_iff.1 hs
    have hkeyed := (Store.reflects_of_ofSegments hstore).keyed
    refine .of_reports (evaluate_eq_ok_of_held hs state all) hsegments ?_ resultTold_of_list
    rw [Store.map_name_predicates hkeyed, Store.names_of_ofSegments_eq_ok hstore]

theorem TracedAlike.of_single (hj : ∀ items, j ≠ .array items) (state : Json) (all : Bool) :
    TracedAlike j state all := by
  rcases hp : Predicate.ofJson j with e | p
  · refine .of_refused (.ofError "分群编译失败" e) fun traced => ?_
    rw [evaluate_of_not_array hj, evaluateSingle_eq, hp]
    rfl
  · obtain ⟨segment, hsegment, hready⟩ := bind_eq_ok_iff.1 hp
    have hread := segmentsOfJson_of_ofJson hj (mapError_eq_ok_iff.1 hsegment)
    have hlisted : j.items?.isSome = false := by
      cases j with
      | array items => exact absurd rfl (hj items)
      | _ => rfl
    have hevaluated (traced : Bool) : evaluate j state all traced =
        .ok (CommandLine.output traced (singleResult p (.resolve state none) all)
          ([p].map fun p => p.report .standard traced (.resolve state none))) :=
      evaluate_eq_ok_of_ofJson hj hp state all traced
    refine .of_reports hevaluated hread ?_ ?_
    · rw [List.map_singleton, Store.name_of_ofSegment hready]
      rfl
    · rw [hlisted]
      exact resultTold_of_single

end Reports

/-- A segment and the list of it alone are evaluated alike, and a trace adds reports that tell the
result. -/
theorem evaluate_alike (state : Json) :
    (∀ j traced, (∀ items, j ≠ .array items) → LikeItsList j state traced) ∧
      ∀ segments all, TracedAlike segments state all := by
  refine ⟨fun j traced hj => ?_, fun segments all => ?_⟩
  · rcases hp : Predicate.ofJson j with e | p
    · exact .of_error hj hp
    · exact .of_ok hj hp
  · cases segments with
    | array items => exact .of_list items state all
    | _ => exact .of_single (fun items h => by cases h) state all

/-- Without its first variable the sample fails, and is passed over in a list. -/
theorem sample_without_variables :
    (∀ items, Segment.sampleDocument ≠ .array items) ∧
      ∃ reports, evaluate Segment.sampleDocument .null false true =
          .ok (output true (Audience.Failure.ofError (.missingVariable "age")).toJson reports) ∧
        evaluate (.array [Segment.sampleDocument]) .null false true =
          .ok (output true (.boolean false) reports) := by
  have hsingle : ∀ items, Segment.sampleDocument ≠ .array items := fun items h => by cases h
  have hfailure : (Store.samplePredicate.outcome .standard (.resolve .null none)).failure? =
      some (.ofError (.missingVariable "age")) := by decide +kernel
  have hfailed : Store.samplePredicate.outcome .standard (.resolve .null none) =
      .failed (.ofError (.missingVariable "age")) := Outcome.failure?_eq_some_iff.1 hfailure
  exact ⟨hsingle, ((evaluate_alike .null).1 _ true hsingle).failed _ _
    Store.ofJson_sampleDocument hfailed⟩

end CommandLine

end Audience
