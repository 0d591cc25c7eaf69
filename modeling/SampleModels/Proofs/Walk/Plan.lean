import SampleModels.Proofs.Walk.Outline

/-!
# The plan of a walk

Everything that the walk checks, issues and logs, in order, is known before any name is issued: a
name depends on its parent and its key alone. The walk is this list of acts, performed until one of
them fails, with the outline of the sample as its result.
-/

namespace SampleModels

namespace Scan

instance : LawfulMonad Scan := LawfulMonad.mk' Scan
  (fun x => by
    funext names
    rcases h : x names with ⟨events, _ | ⟨a, after⟩⟩ <;> simp [Functor.map, andThen, result, h])
  (fun a next => by
    funext names
    simp [bind, pure, andThen, result])
  (fun x f g => by
    funext names
    rcases hx : x names with ⟨events, _ | ⟨a, after⟩⟩
    · simp [bind, andThen, hx]
    · rcases hf : f a after with ⟨more, _ | ⟨b, last⟩⟩ <;> simp [bind, andThen, hx, hf])

end Scan

namespace Inference

/-- What the walk does on the way, apart from putting models together. -/
inductive Act where
  | check (key : String) (location : Pointer)
  | issue (parent key : String) (location : Pointer)
  | log (event : Log.Event)

def Act.perform : Act → Scan Unit
  | .check key location => Scan.check (checkKey key location)
  | .issue parent key location => do
    let _ ← Scan.deriveName parent key location
    return
  | .log event => Scan.log event

def perform (acts : List Act) : Scan Unit := acts.forM Act.perform

@[simp] theorem perform_nil : perform [] = pure () := rfl

@[simp] theorem perform_cons (act : Act) (acts : List Act) :
    perform (act :: acts) = (act.perform >>= fun _ => perform acts) := rfl

@[simp] theorem perform_append (acts more : List Act) :
    perform (acts ++ more) = (perform acts >>= fun _ => perform more) := List.forM_append

/-- The warning that an inspected array holds items of another kind than its first. -/
def warnings (inspect : Bool) (name : String) (location : Pointer) : Json → List Act
  | .array (first :: rest) =>
    if inspect && rest.any fun item => item.kind ≠ first.kind then
      [.log (.kindsDiffer name location)]
    else []
  | _ => []

def builtEvent (m : Model) : Log.Event :=
  .built m.typeName m.location m.fields.length m.children.length

/-- The acts at an object that becomes the model `m`, around those at its members. -/
def enterActs (name key : String) (location : Pointer) (m : Model) (inside : List Act) :
    List Act :=
  .issue name key location :: inside ++ [.log (builtEvent m)]

mutual

/-- The acts at the members of the object at `location`, which becomes the model `name`. -/
def plan (inspect : Bool) (name : String) (location : Pointer) : List (String × Json) → List Act
  | [] => []
  | (key, value) :: rest =>
    .check key (location.child key) :: warnings inspect name (location.child key) value ++
      planAt inspect name key (location.child key) value ++
      .log (.field name key (fieldType inspect (nestedName name key) value).declaration) ::
        plan inspect name location rest

/-- The acts at the object entered at a member, if there is one. -/
def planAt (inspect : Bool) (name key : String) (location : Pointer) : Json → List Act
  | .object below =>
    enterActs name key location (outline inspect (nestedName name key) location below)
      (plan inspect (nestedName name key) location below)
  | .array (.object below :: _) =>
    if inspect then
      enterActs name key location
        (outline inspect (nestedName name key) (location.element 0) below)
        (plan inspect (nestedName name key) (location.element 0) below)
    else []
  | _ => []

end

theorem plan_cons (inspect : Bool) (name key : String) (location : Pointer) (value : Json)
    (rest : List (String × Json)) :
    plan inspect name location ((key, value) :: rest) =
      .check key (location.child key) :: warnings inspect name (location.child key) value ++
        planAt inspect name key (location.child key) value ++
        .log (.field name key (fieldType inspect (nestedName name key) value).declaration) ::
          plan inspect name location rest := by
  rw [plan]

theorem planAt_eq (inspect : Bool) (name key : String) (location : Pointer) (value : Json) :
    planAt inspect name key location value =
      match entered? inspect location value with
      | none => []
      | some (place, below) =>
        enterActs name key location (outline inspect (nestedName name key) place below)
          (plan inspect (nestedName name key) place below) := by
  cases value with
  | object below => rfl
  | array items =>
    cases items with
    | nil => rfl
    | cons first rest => cases first <;> cases inspect <;> rfl
  | _ => rfl

def partOf (inspect : Bool) (name key : String) (location : Pointer) (value : Json) : Part :=
  ⟨⟨key, fieldType inspect (nestedName name key) value⟩,
    Field.statement? ⟨key, fieldType inspect (nestedName name key) value⟩,
    innerAt inspect (nestedName name key) location value⟩

def partsOf (inspect : Bool) (name : String) (location : Pointer)
    (members : List (String × Json)) : List Part :=
  members.map fun (key, value) => partOf inspect name key (location.child key) value

private theorem fields_partsOf (inspect : Bool) (name : String) (location : Pointer)
    (members : List (String × Json)) :
    (partsOf inspect name location members).map Part.field = fieldsOf inspect name members := by
  simp [partsOf, fieldsOf, partOf]

private theorem statements_partsOf (inspect : Bool) (name : String) (location : Pointer)
    (members : List (String × Json)) :
    (partsOf inspect name location members).filterMap Part.statement? =
      (fieldsOf inspect name members).filterMap Field.statement? := by
  simp only [partsOf, fieldsOf, partOf, List.filterMap_map]
  rfl

private theorem children_partsOf (inspect : Bool) (name : String) (location : Pointer)
    (members : List (String × Json)) :
    (partsOf inspect name location members).filterMap Part.child? =
      inner inspect name location members := by
  induction members with
  | nil => rw [inner]; rfl
  | cons member rest ih =>
    obtain ⟨key, value⟩ := member
    rw [inner_cons, ← ih]
    cases h : innerAt inspect (nestedName name key) (location.child key) value <;>
      simp [partsOf, partOf, h]

private theorem deriveName_eq (parent key : String) (location : Pointer) :
    Scan.deriveName parent key location = do
      (Act.issue parent key location).perform
      return nestedName parent key := by
  funext names
  simp only [Act.perform, Scan.deriveName, bind, Scan.andThen, pure, Scan.result]
  cases h : names.derive parent key location with
  | error fault => rfl
  | ok issued =>
    obtain ⟨name, after⟩ := issued
    simp [IssuedNames.fst_of_derive h]

theorem assemble_eq (inspect : Bool) (name : String) (location : Pointer)
    (members : List (String × Json)) (acts : List Act) :
    assemble name location (do
        perform acts
        return partsOf inspect name location members) = do
      perform (acts ++ [.log (builtEvent (outline inspect name location members))])
      return outline inspect name location members := by
  have hl : (partsOf inspect name location members).length =
      (fieldsOf inspect name members).length := by
    rw [← fields_partsOf inspect name location, List.length_map]
  simp [assemble, fields_partsOf, statements_partsOf, children_partsOf, outline, modelOf,
    builtEvent, Act.perform, hl]

/-- Entering an object performs its acts, if walking its members performs theirs. -/
private theorem enter_eq {settings : Settings} {name key : String} {location place : Pointer}
    {below : List (String × Json)}
    (inside : ∀ name, members settings name place below = do
      perform (plan settings.inspectArrays name place below)
      return partsOf settings.inspectArrays name place below)
    (part : String → Model → Part) :
    (do
      let typeName ← Scan.deriveName name key location
      let child ← assemble typeName place (members settings typeName place below)
      return part typeName child) = do
      perform (enterActs name key location
        (outline settings.inspectArrays (nestedName name key) place below)
        (plan settings.inspectArrays (nestedName name key) place below))
      return part (nestedName name key)
        (outline settings.inspectArrays (nestedName name key) place below) := by
  rw [deriveName_eq, enterActs, List.cons_append, perform_cons]
  simp only [bind_assoc, pure_bind]
  rw [inside, assemble_eq, bind_assoc]
  simp only [pure_bind]

private theorem perform_warnings (name : String) (location : Pointer) (first : Json)
    (rest : List Json) :
    perform (warnings true name location (.array (first :: rest))) =
      warnKinds name location first rest := by
  simp only [warnings, warnKinds, Bool.true_and]
  split <;> simp [Act.perform]

private theorem listOf_eq (settings : Settings) (name key : String) (location : Pointer)
    (first : Json) (rest : List Json) (hs : settings.inspectArrays = true)
    (inside : ∀ place below, entered? true location (.array (first :: rest)) = some (place, below) →
      ∀ name, members settings name place below = do
        perform (plan true name place below)
        return partsOf true name place below) :
    listOf settings name key location first = do
      perform (planAt true name key location (.array (first :: rest)))
      return partOf true name key location (.array (first :: rest)) := by
  cases first with
  | object below =>
    refine (enter_eq (by simpa only [hs] using inside (location.element 0) below rfl)
      fun typeName child => listPart key (.nested typeName) (some child)).trans ?_
    rw [hs]
    rfl
  | _ => rfl

private theorem keptArray_eq (name key : String) (location : Pointer) (first : Json)
    (rest : List Json) :
    planAt false name key location (.array (first :: rest)) = [] ∧
      partOf false name key location (.array (first :: rest)) = keptArray key := by
  cases first <;> exact ⟨rfl, rfl⟩

private theorem member_eq (settings : Settings) (name key : String) (location : Pointer)
    (value : Json)
    (inside : ∀ place below, entered? settings.inspectArrays location value = some (place, below) →
      ∀ name, members settings name place below = do
        perform (plan settings.inspectArrays name place below)
        return partsOf settings.inspectArrays name place below) :
    member settings name key location value = do
      perform (warnings settings.inspectArrays name location value ++
        planAt settings.inspectArrays name key location value)
      return partOf settings.inspectArrays name key location value := by
  cases value with
  | null => rfl
  | bool value => rfl
  | number literal => rfl
  | string value => rfl
  | object below =>
    exact enter_eq (inside location below rfl)
      fun typeName child => ⟨⟨key, .nested typeName⟩, some (.nested key typeName), some child⟩
  | array items =>
    cases items with
    | nil => rfl
    | cons first rest =>
      cases hs : settings.inspectArrays with
      | false =>
        have hk := keptArray_eq name key location first rest
        simp [member, hs, hk, warnings]
      | true =>
        rw [hs] at inside
        simp only [member, Scalar.ofJson?, hs, if_true]
        rw [listOf_eq settings name key location first rest hs inside, ← perform_warnings]
        simp

theorem members_eq (settings : Settings) (name : String) (location : Pointer)
    (ms : List (String × Json)) :
    members settings name location ms = do
      perform (plan settings.inspectArrays name location ms)
      return partsOf settings.inspectArrays name location ms := by
  induction ms using members_induction settings.inspectArrays generalizing name location with
  | nil => rfl
  | cons key value rest inside ih =>
    rw [members, ih name location, plan_cons,
      member_eq settings name key (location.child key) value
        fun place below h name => inside _ place below h name place]
    simp [Act.perform, partsOf, partOf]

/-- The acts of a whole walk, once the name of the root is issued. -/
def samplePlan (inspect : Bool) (name : String) (sample : Json) : List Act :=
  (match sample with
  | .object members => plan inspect name .root members
  | _ => []) ++ [.log (builtEvent (sampleOutline inspect name sample))]

/-- A walk performs its acts in order, and its result is the outline of the sample. -/
theorem sample_eq (settings : Settings) (name : String) (document : Json) :
    sample settings name document = do
      perform (samplePlan settings.inspectArrays name document)
      return sampleOutline settings.inspectArrays name document := by
  cases document with
  | object below => rw [sample, members_eq, assemble_eq]; rfl
  | _ => rfl

end Inference

end SampleModels
