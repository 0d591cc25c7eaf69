import SampleModels.Proofs.Walk.Plan

/-!
# The members visited by a walk

The members of all objects entered, in the order of the document, and what is wrong with them.
Whether a member is at fault depends on its key, on whether an object is entered there, and on the
names claimed before it. Issuing names along the visits comes to the same as walking the sample.
-/

namespace SampleModels.Inference

/-- A member visited on the walk: the model it belongs to, its key, its place, and whether an
object is entered there, which becomes a model of its own. -/
structure Visit where
  parent : String
  key : String
  location : Pointer
  entered : Bool

mutual

/-- The members visited inside the object at `location`, each before those inside it. -/
def visits (inspect : Bool) (name : String) (location : Pointer) :
    List (String × Json) → List Visit
  | [] => []
  | (key, value) :: rest =>
    ⟨name, key, location.child key, (entered? inspect (location.child key) value).isSome⟩ ::
      visitsAt inspect (nestedName name key) (location.child key) value ++
      visits inspect name location rest

/-- The members visited inside the object entered at a member, if there is one. -/
def visitsAt (inspect : Bool) (name : String) (location : Pointer) : Json → List Visit
  | .object below => visits inspect name location below
  | .array (.object below :: _) =>
    if inspect then visits inspect name (location.element 0) below else []
  | _ => []

end

def sampleVisits (inspect : Bool) (name : String) : Json → List Visit
  | .object members => visits inspect name .root members
  | _ => []

theorem visits_cons (inspect : Bool) (name key : String) (location : Pointer) (value : Json)
    (rest : List (String × Json)) :
    visits inspect name location ((key, value) :: rest) =
      ⟨name, key, location.child key, (entered? inspect (location.child key) value).isSome⟩ ::
        visitsAt inspect (nestedName name key) (location.child key) value ++
        visits inspect name location rest := by
  rw [visits]

theorem visitsAt_eq (inspect : Bool) (name : String) (location : Pointer) (value : Json) :
    visitsAt inspect name location value =
      match entered? inspect location value with
      | none => []
      | some (place, below) => visits inspect name place below := by
  cases value with
  | object below => rfl
  | array items =>
    cases items with
    | nil => rfl
    | cons first rest => cases first <;> cases inspect <;> rfl
  | _ => rfl

namespace Visit

def typeName (v : Visit) : String := nestedName v.parent v.key

/-- The name claimed at the member, with the place it is claimed for. -/
def claim? (v : Visit) : Option (String × Pointer) :=
  if v.entered then some (v.typeName, v.location) else none

/-- What is wrong with the member's key by itself: of the checks it fails, the first. -/
def defect? (v : Visit) : Option KeyDefect :=
  if v.key.toList.any Text.isControl then some .controlCharacter
  else if !v.entered then none
  else if v.key = "" then some .empty
  else if isIdentifier v.typeName then none
  else some .notIdentifier

theorem defect?_eq_none_iff (v : Visit) :
    v.defect? = none ↔ v.key.toList.any Text.isControl = false ∧
      (v.entered → v.key ≠ "" ∧ isIdentifier v.typeName) := by
  unfold defect?
  by_cases hc : v.key.toList.any Text.isControl
  · simp [hc]
  · cases v.entered <;> by_cases hk : v.key = "" <;> simp [hc, hk]

/-- The fault of the member after the names already claimed. -/
def fault? (claimed : List (String × Pointer)) (v : Visit) : Option Fault :=
  match v.defect? with
  | some defect => some (.invalidFieldKey v.location v.key defect)
  | none => v.claim?.bind fun (name, location) =>
    (claimed.lookup name).map fun first => .typeNameCollision name first location

end Visit

def Act.serve (names : IssuedNames) : Act → Except Fault IssuedNames
  | .check key location => (checkKey key location).map fun _ => names
  | .issue parent key location => (names.derive parent key location).map Prod.snd
  | .log _ => .ok names

def Visit.serve (names : IssuedNames) (v : Visit) : Except Fault IssuedNames := do
  checkKey v.key v.location
  if v.entered then (names.derive v.parent v.key v.location).map Prod.snd else .ok names

theorem snd_perform (acts : List Act) (names : IssuedNames) :
    (perform acts names).2 = (acts.foldlM Act.serve names).map fun after => ((), after) := by
  induction acts generalizing names with
  | nil => rfl
  | cons act acts ih =>
    rw [perform_cons, List.foldlM_cons]
    simp only [bind, Scan.andThen]
    have hact : (act.perform names).2 = (Act.serve names act).map fun after => ((), after) := by
      cases act with
      | check key location =>
        simp only [Act.perform, Scan.check, Act.serve]
        cases checkKey key location <;> rfl
      | issue parent key location =>
        simp only [Act.perform, Scan.deriveName, Act.serve, bind, Scan.andThen]
        cases names.derive parent key location <;> rfl
      | log event => rfl
    rcases hp : act.perform names with ⟨events, outcome⟩
    rw [hp] at hact
    cases hs : Act.serve names act with
    | error fault =>
      simp only [hs, Except.map] at hact
      simp [hact, Except.bind, Except.map]
    | ok after =>
      simp only [hs, Except.map] at hact
      simp [hact, Except.bind, ih]

private theorem serve_warnings (inspect : Bool) (name : String) (location : Pointer) (value : Json)
    (names : IssuedNames) :
    (warnings inspect name location value).foldlM Act.serve names = .ok names := by
  unfold warnings
  split
  · split <;> rfl
  · rfl

/-- The acts serve names as the visits do: both check a key, issue a name where an object is
entered, and stop at the first failure. -/
theorem serve_plan (inspect : Bool) (name : String) (location : Pointer)
    (members : List (String × Json)) (names : IssuedNames) :
    (plan inspect name location members).foldlM Act.serve names =
      (visits inspect name location members).foldlM Visit.serve names := by
  induction members using members_induction inspect generalizing name location names with
  | nil => rfl
  | cons key value rest inside ih =>
    rw [plan_cons, visits_cons, planAt_eq, visitsAt_eq]
    simp only [List.cons_append, List.append_assoc, List.foldlM_cons, List.foldlM_append,
      serve_warnings, Visit.serve, Act.serve]
    cases checkKey key (location.child key) with
    | error fault => rfl
    | ok checked =>
      cases h : entered? inspect (location.child key) value with
      | none => exact ih name location names
      | some entry =>
        obtain ⟨place, below⟩ := entry
        have hin := inside _ _ _ h
        simp only [enterActs, List.cons_append, List.foldlM_cons, List.foldlM_append, Act.serve,
          Option.isSome_some, if_true, bind, Except.bind, Except.map]
        cases names.derive name key (location.child key) with
        | error fault => rfl
        | ok issued =>
          simp only [hin]
          cases (visits inspect (nestedName name key) place below).foldlM Visit.serve issued.2 with
          | error fault => rfl
          | ok after => exact ih name location after

theorem serve_samplePlan (inspect : Bool) (name : String) (document : Json)
    (names : IssuedNames) :
    (samplePlan inspect name document).foldlM Act.serve names =
      (sampleVisits inspect name document).foldlM Visit.serve names := by
  cases document with
  | object below =>
    rw [samplePlan, List.foldlM_append, serve_plan]
    exact bind_pure _
  | _ => rfl

/-- The outcome of a walk: that of visiting the members, with the outline as the result. -/
theorem snd_sample (settings : Settings) (name : String) (document : Json)
    (names : IssuedNames) :
    (sample settings name document names).2 =
      ((sampleVisits settings.inspectArrays name document).foldlM Visit.serve names).map
        fun after => (sampleOutline settings.inspectArrays name document, after) := by
  rw [sample_eq, ← serve_samplePlan]
  have hp := snd_perform (samplePlan settings.inspectArrays name document) names
  simp only [bind, Scan.andThen]
  rcases h : perform (samplePlan settings.inspectArrays name document) names with ⟨events, outcome⟩
  rw [h] at hp
  cases hs : (samplePlan settings.inspectArrays name document).foldlM Act.serve names with
  | error fault =>
    rw [hs] at hp
    cases hp
    rfl
  | ok after =>
    rw [hs] at hp
    cases hp
    rfl

end SampleModels.Inference
