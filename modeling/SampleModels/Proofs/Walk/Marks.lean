import SampleModels.Proofs.Walk.Outcome

/-!
# The marks of a walk

Visits and events of a walk in one list, in the order in which they come. A walk logs the events up
to the first visit at fault. The warning that a member's value asks for belongs to its visit: it is
logged between the check of the key and the claim of a name, so a fault of the check comes first.
-/

namespace SampleModels.Inference

/-- The value is an array that holds items of another kind than its first. -/
def isMixed : Json → Bool
  | .array (first :: rest) => !(first :: rest).all fun item => item.kind = first.kind
  | _ => false

/-- The warning that the value of a member asks for, if arrays are inspected. -/
def warning? (inspect : Bool) (name : String) (location : Pointer) (value : Json) :
    Option Log.Event :=
  if inspect && isMixed value then some (.kindsDiffer name location) else none

/-- The events logged at a visit at fault: none where the key itself is refused, and the warning
where no name can be claimed. -/
def Visit.lastEvents (v : Visit) (warning? : Option Log.Event) : List Log.Event :=
  if v.defect? = some .controlCharacter then [] else warning?.toList

/-- What a walk comes by. -/
inductive Mark where
  | visit (v : Visit) (warning? : Option Log.Event)
  | event (e : Log.Event)

namespace Mark

def visit? : Mark → Option Visit
  | .visit v _ => some v
  | .event _ => none

/-- The events logged at a mark that the walk gets past. -/
def events : Mark → List Log.Event
  | .visit _ warning? => warning?.toList
  | .event e => [e]

def acts : Mark → List Act
  | .visit v warning? =>
    .check v.key v.location :: warning?.toList.map .log ++
      if v.entered then [.issue v.parent v.key v.location] else []
  | .event e => [.log e]

@[simp] theorem visit?_visit (v : Visit) (warning? : Option Log.Event) :
    (visit v warning?).visit? = some v := rfl

@[simp] theorem visit?_event (e : Log.Event) : (event e).visit? = none := rfl

end Mark

mutual

/-- The marks at the members of the object at `location`, which becomes the model `name`. -/
def marks (inspect : Bool) (name : String) (location : Pointer) :
    List (String × Json) → List Mark
  | [] => []
  | (key, value) :: rest =>
    .visit ⟨name, key, location.child key, (entered? inspect (location.child key) value).isSome⟩
        (warning? inspect name (location.child key) value) ::
      marksAt inspect (nestedName name key) (location.child key) value ++
      .event (.field name key (fieldType inspect (nestedName name key) value).declaration) ::
        marks inspect name location rest

/-- The marks at the object entered at a member, if there is one. -/
def marksAt (inspect : Bool) (name : String) (location : Pointer) : Json → List Mark
  | .object below =>
    marks inspect name location below ++
      [.event (builtEvent (outline inspect name location below))]
  | .array (.object below :: _) =>
    if inspect then
      marks inspect name (location.element 0) below ++
        [.event (builtEvent (outline inspect name (location.element 0) below))]
    else []
  | _ => []

end

/-- The marks of a whole walk, once the name of the root is issued. -/
def sampleMarks (inspect : Bool) (name : String) (document : Json) : List Mark :=
  (match document with
  | .object members => marks inspect name .root members
  | _ => []) ++ [.event (builtEvent (sampleOutline inspect name document))]

theorem marks_cons (inspect : Bool) (name key : String) (location : Pointer) (value : Json)
    (rest : List (String × Json)) :
    marks inspect name location ((key, value) :: rest) =
      .visit ⟨name, key, location.child key, (entered? inspect (location.child key) value).isSome⟩
          (warning? inspect name (location.child key) value) ::
        marksAt inspect (nestedName name key) (location.child key) value ++
        .event (.field name key (fieldType inspect (nestedName name key) value).declaration) ::
          marks inspect name location rest := by
  rw [marks]

theorem marksAt_eq (inspect : Bool) (name : String) (location : Pointer) (value : Json) :
    marksAt inspect name location value =
      match entered? inspect location value with
      | none => []
      | some (place, below) =>
        marks inspect name place below ++
          [.event (builtEvent (outline inspect name place below))] := by
  cases value with
  | object below => rfl
  | array items =>
    cases items with
    | nil => rfl
    | cons first rest => cases first <;> cases inspect <;> rfl
  | _ => rfl

theorem warnings_eq (inspect : Bool) (name : String) (location : Pointer) (value : Json) :
    warnings inspect name location value =
      (warning? inspect name location value).toList.map .log := by
  unfold warnings warning? isMixed
  split
  · next first rest =>
    have hany : (rest.any fun item => item.kind ≠ first.kind) =
        !(first :: rest).all fun item => item.kind = first.kind := by
      simp [List.not_all_eq_any_not]
    rw [hany]
    split <;> rfl
  · simp

theorem plan_eq_flatMap (inspect : Bool) (name : String) (location : Pointer)
    (members : List (String × Json)) :
    plan inspect name location members =
      (marks inspect name location members).flatMap Mark.acts := by
  induction members using members_induction inspect generalizing name location with
  | nil => rfl
  | cons key value rest inside ih =>
    rw [plan_cons, marks_cons, planAt_eq, marksAt_eq, warnings_eq, ih]
    cases h : entered? inspect (location.child key) value with
    | none => simp [Mark.acts]
    | some entry =>
      obtain ⟨place, below⟩ := entry
      simp [Mark.acts, enterActs, inside _ _ _ h]

theorem samplePlan_eq_flatMap (inspect : Bool) (name : String) (document : Json) :
    samplePlan inspect name document = (sampleMarks inspect name document).flatMap Mark.acts := by
  cases document with
  | object members =>
    simp only [samplePlan, sampleMarks, plan_eq_flatMap, List.flatMap_append]
    rfl
  | _ => rfl

theorem visits_marks (inspect : Bool) (name : String) (location : Pointer)
    (members : List (String × Json)) :
    (marks inspect name location members).filterMap Mark.visit? =
      visits inspect name location members := by
  induction members using members_induction inspect generalizing name location with
  | nil => rfl
  | cons key value rest inside ih =>
    rw [marks_cons, visits_cons, marksAt_eq, visitsAt_eq]
    cases h : entered? inspect (location.child key) value with
    | none => simp [List.filterMap_cons, ih]
    | some entry =>
      obtain ⟨place, below⟩ := entry
      simp [List.filterMap_cons, ih, inside _ _ _ h]

theorem visits_sampleMarks (inspect : Bool) (name : String) (document : Json) :
    (sampleMarks inspect name document).filterMap Mark.visit? =
      sampleVisits inspect name document := by
  cases document with
  | object members => simp [sampleMarks, sampleVisits, visits_marks]
  | _ => rfl

theorem Visit.defect?_eq_controlCharacter_iff (v : Visit) :
    v.defect? = some .controlCharacter ↔ v.key.toList.any Text.isControl := by
  unfold Visit.defect?
  by_cases hc : v.key.toList.any Text.isControl
  · simp [hc]
  · cases v.entered <;> by_cases hk : v.key = "" <;> by_cases hi : isIdentifier v.typeName <;>
      simp [hc, hk, hi]

private theorem perform_warning (warning? : Option Log.Event) (acts : List Act)
    (names : IssuedNames) :
    perform (warning?.toList.map .log ++ acts) names =
      (warning?.toList ++ (perform acts names).1, (perform acts names).2) := by
  cases warning? with
  | none => rfl
  | some e =>
    simp only [Option.toList_some, List.map_cons, List.map_nil, List.cons_append, List.nil_append,
      perform_cons, bind, Scan.andThen, Act.perform, Scan.log]

/-- A visit checks its key, logs its warning, and claims its name, in this order. -/
theorem perform_visit (v : Visit) (warning? : Option Log.Event) (names : IssuedNames) :
    perform (Mark.visit v warning?).acts names =
      (v.lastEvents warning?, (v.serve names).map fun after => ((), after)) := by
  simp only [Visit.lastEvents, Visit.defect?_eq_controlCharacter_iff]
  by_cases hc : v.key.toList.any Text.isControl
  · simp [Mark.acts, Act.perform, Scan.check, checkKey, Visit.serve, hc, bind, Scan.andThen,
      Except.bind, Except.map]
  · have hcheck : checkKey v.key v.location = .ok () := by simp [checkKey, hc]
    rw [Mark.acts, List.cons_append, perform_cons]
    simp only [bind, Scan.andThen, Act.perform, Scan.check, hcheck, Except.map, perform_warning,
      List.nil_append, hc, Visit.serve, Except.bind]
    cases v.entered with
    | false => simp [pure, Scan.result]
    | true => cases hd : names.derive v.parent v.key v.location <;>
        simp [Act.perform, Scan.deriveName, hd, bind, Scan.andThen, pure, Scan.result]

theorem Visit.lastEvents_of_serve {v : Visit} {names after : IssuedNames}
    (h : v.serve names = .ok after) (warning? : Option Log.Event) :
    v.lastEvents warning? = warning?.toList := by
  have hd : v.defect? ≠ some .controlCharacter := by
    intro hd
    simp [Visit.serve_eq, Visit.fault?, hd] at h
  rw [Visit.lastEvents, if_neg hd]

/-- A run whose visits are all served logs all its events. -/
theorem perform_marks_of_ok {ms : List Mark} {names after : IssuedNames}
    (h : (ms.filterMap Mark.visit?).foldlM Visit.serve names = .ok after) :
    perform (ms.flatMap Mark.acts) names = (ms.flatMap Mark.events, .ok ((), after)) := by
  induction ms generalizing names with
  | nil =>
    cases h
    rfl
  | cons mark ms ih =>
    rw [List.flatMap_cons, List.flatMap_cons, perform_append]
    simp only [bind, Scan.andThen]
    cases mark with
    | event e =>
      have hrest := ih (by simpa [List.filterMap_cons] using h)
      simp [Mark.acts, Mark.events, Act.perform, Scan.log, bind, Scan.andThen, pure, Scan.result,
        hrest]
    | visit v warning? =>
      rw [List.filterMap_cons, Mark.visit?_visit, List.foldlM_cons] at h
      obtain ⟨served, hs, h⟩ := bind_eq_ok_iff.mp h
      have hrest := ih h
      simp [perform_visit, hs, Visit.lastEvents_of_serve hs, Except.map, hrest, Mark.events]

/-- A run logs the events before the first visit that is not served, and those of that visit. -/
theorem perform_marks_of_error {before after : List Mark} {v : Visit} {names served : IssuedNames}
    {fault : Fault} (warning? : Option Log.Event)
    (hb : (before.filterMap Mark.visit?).foldlM Visit.serve names = .ok served)
    (hv : v.serve served = .error fault) :
    perform ((before ++ .visit v warning? :: after).flatMap Mark.acts) names =
      (before.flatMap Mark.events ++ v.lastEvents warning?, .error fault) := by
  rw [List.flatMap_append, List.flatMap_cons, perform_append, perform_append]
  simp only [bind, Scan.andThen, perform_marks_of_ok hb, perform_visit, hv, Except.map]

theorem exists_mark_of_visits_eq {ms : List Mark} {visited after : List Visit} {v : Visit}
    (h : ms.filterMap Mark.visit? = visited ++ v :: after) :
    ∃ before warning? rest, ms = before ++ .visit v warning? :: rest ∧
      before.filterMap Mark.visit? = visited := by
  obtain ⟨front, back, rfl, hfront, hback⟩ := List.filterMap_eq_append_iff.mp h
  obtain ⟨between, mark, rest, rfl, hbetween, hmark, -⟩ := List.filterMap_eq_cons_iff.mp hback
  cases mark with
  | event e => cases hmark
  | visit w warning? =>
    cases hmark
    refine ⟨front ++ between, warning?, rest, by simp, ?_⟩
    rw [List.filterMap_append, hfront, List.filterMap_eq_nil_iff.mpr hbetween, List.append_nil]

/-- Inference logs what the marks of its walk log, once the name of the root is issued. -/
theorem fst_inferLogged (document : Json) (rootName : String) (settings : Settings) :
    (inferLogged document rootName settings).1 =
      if isIdentifier rootName then
        (perform ((sampleMarks settings.inspectArrays rootName document).flatMap Mark.acts)
          (registry rootName [])).1
      else [] := by
  unfold inferLogged
  rw [claimRoot_none]
  by_cases hi : isIdentifier rootName
  · simp only [hi, if_true, sample_eq, samplePlan_eq_flatMap, bind, Scan.andThen]
    rcases perform ((sampleMarks settings.inspectArrays rootName document).flatMap Mark.acts)
      (registry rootName []) with ⟨events, fault | after⟩
    · rfl
    · exact List.append_nil events
  · simp [hi]

/-- The log of inference that succeeds. -/
theorem log_of_ok {document : Json} {rootName : String} {settings : Settings} {m : Model}
    (h : infer document rootName settings = .ok m) :
    (inferLogged document rootName settings).1 =
      (sampleMarks settings.inspectArrays rootName document).flatMap Mark.events := by
  obtain ⟨hi, hc, -⟩ := (infer_eq_ok_iff document rootName settings m).mp h
  have hs := (serve_visits_ok_iff rootName _ _).mpr ⟨hc, rfl⟩
  rw [← visits_sampleMarks] at hs
  rw [fst_inferLogged, if_pos hi, perform_marks_of_ok hs]

/-- The log of inference that fails at a member. -/
theorem log_of_error {document : Json} {rootName : String} {settings : Settings} {fault : Fault}
    (hi : isIdentifier rootName) (h : infer document rootName settings = .error fault) :
    ∃ before v warning? after,
      sampleMarks settings.inspectArrays rootName document =
        before ++ .visit v warning? :: after ∧
      Clean rootName (before.filterMap Mark.visit?) ∧
      v.fault? (claims rootName (before.filterMap Mark.visit?)) = some fault ∧
      (inferLogged document rootName settings).1 =
        before.flatMap Mark.events ++ v.lastEvents warning? := by
  have hv := (infer_eq_error_iff document rootName settings fault).mp h
  rw [if_pos hi] at hv
  obtain ⟨visited, v, rest, hvisits, hclean, hfault⟩ := hv
  rw [← visits_sampleMarks] at hvisits
  obtain ⟨before, warning?, after, hmarks, rfl⟩ := exists_mark_of_visits_eq hvisits
  refine ⟨before, v, warning?, after, hmarks, hclean, hfault, ?_⟩
  have hb := (serve_visits_ok_iff rootName _ _).mpr ⟨hclean, rfl⟩
  have hs : v.serve (registry rootName (before.filterMap Mark.visit?)) = .error fault := by
    rw [serve_registry hclean, hfault]
  rw [fst_inferLogged, if_pos hi, hmarks, perform_marks_of_error warning? hb hs]

end SampleModels.Inference
