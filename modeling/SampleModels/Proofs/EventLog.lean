import SampleModels.Proofs.ClassNames
import SampleModels.Proofs.Locations
import SampleModels.Proofs.Walk.Marks

/-!
# The event log of an inferred tree

What a walk logs can be told from the tree of models and from the arrays in the sample: the log of
a model goes through its fields, with the log of a child where the field of the child is, and ends
with the event of the model itself. The laws of such logs hold of every tree; that the walk keeps
one is an induction along the walk.
-/

namespace SampleModels

namespace Model

mutual

/-- The model and those below it, each after its children. -/
def postorder : Model → List Model
  | ⟨name, location, fields, initializer, children⟩ =>
    postorderAll children ++ [⟨name, location, fields, initializer, children⟩]

def postorderAll : List Model → List Model
  | [] => []
  | m :: rest => m.postorder ++ postorderAll rest

end

end Model

/-- How many children a field has: one if its type mentions a class. -/
def Field.childCount (field : Field) : Nat := field.type.className?.toList.length

namespace Inference

/-- The event of a field that is done. -/
def fieldEvent (name : String) (field : Field) : Log.Event :=
  .field name field.name field.type.declaration

/-- The warning at a field of the model `name` at `location`. -/
def fieldWarning? (warned : Pointer → Bool) (name : String) (location : Pointer) (field : Field) :
    Option Log.Event :=
  if warned (location.child field.name) then
    some (.kindsDiffer name (location.child field.name))
  else none

/-- The visit of the member that a field was made of. -/
def fieldVisit (name : String) (location : Pointer) (field : Field) : Visit :=
  ⟨name, field.name, location.child field.name, field.type.className?.isSome⟩

/-- The marks at the fields of a model. Those at its children, `inside`, come where the fields are
that the children belong to. -/
def fieldMarks (warned : Pointer → Bool) (name : String) (location : Pointer) :
    List Field → List (List Mark) → List Mark
  | [], inside => inside.flatten
  | field :: fields, inside =>
    .visit (fieldVisit name location field) (fieldWarning? warned name location field) ::
      (inside.take field.childCount).flatten ++
      .event (fieldEvent name field) ::
        fieldMarks warned name location fields (inside.drop field.childCount)

mutual

/-- The marks at the fields of a model and of those below it. -/
def modelMarks (warned : Pointer → Bool) : Model → List Mark
  | ⟨name, location, fields, initializer, children⟩ =>
    fieldMarks warned name location fields (marksOfAll warned children) ++
      [.event (builtEvent ⟨name, location, fields, initializer, children⟩)]

def marksOfAll (warned : Pointer → Bool) : List Model → List (List Mark)
  | [] => []
  | m :: rest => modelMarks warned m :: marksOfAll warned rest

end

/-- The log of a walk that makes the model. -/
def modelLog (warned : Pointer → Bool) (m : Model) : List Log.Event :=
  (modelMarks warned m).flatMap Mark.events

/-- The places that a walk warns of: arrays of mixed kinds, if arrays are inspected. -/
def warnedAt (inspect : Bool) (document : Json) (place : Pointer) : Bool :=
  inspect && (place.resolve? document).any isMixed

/-- On the way to a place each array is left through its first element, which is an object. -/
def Sampled (document : Json) (place : Pointer) : Prop :=
  ∀ (outer : Pointer) token rest items, place.tokens = outer.tokens ++ token :: rest →
    outer.resolve? document = some (.array items) →
    token = "0" ∧ ∃ below others, items = .object below :: others

@[simp] theorem level_fieldEvent (name : String) (field : Field) :
    (fieldEvent name field).level = .trace := rfl

@[simp] theorem level_builtEvent (m : Model) : (builtEvent m).level = .debug := rfl

theorem level_of_fieldWarning? {warned : Pointer → Bool} {name : String} {location : Pointer}
    {field : Field} {e : Log.Event} (h : fieldWarning? warned name location field = some e) :
    e.level = .warn := by
  unfold fieldWarning? at h
  split at h
  · cases h
    rfl
  · cases h

theorem marksOfAll_append (warned : Pointer → Bool) (ms more : List Model) :
    marksOfAll warned (ms ++ more) = marksOfAll warned ms ++ marksOfAll warned more := by
  induction ms with
  | nil => rw [marksOfAll]; rfl
  | cons m rest ih => rw [List.cons_append, marksOfAll, marksOfAll, ih, List.cons_append]

theorem length_marksOfAll (warned : Pointer → Bool) (ms : List Model) :
    (marksOfAll warned ms).length = ms.length := by
  induction ms with
  | nil => rfl
  | cons m rest ih => rw [marksOfAll, List.length_cons, List.length_cons, ih]

/-! ## Laws of the log of a tree -/

section Laws

variable (warned : Pointer → Bool)

private theorem events_fieldMarks_cons (name : String) (location : Pointer) (field : Field)
    (fields : List Field) (inside : List (List Mark)) :
    (fieldMarks warned name location (field :: fields) inside).flatMap Mark.events =
      (fieldWarning? warned name location field).toList ++
        (inside.take field.childCount).flatten.flatMap Mark.events ++
        fieldEvent name field ::
          (fieldMarks warned name location fields (inside.drop field.childCount)).flatMap
            Mark.events := by
  simp [fieldMarks, Mark.events]

private theorem events_take_append_drop (inside : List (List Mark)) (n : Nat) :
    (inside.take n).flatten.flatMap Mark.events ++ (inside.drop n).flatten.flatMap Mark.events =
      inside.flatten.flatMap Mark.events := by
  rw [← List.flatMap_append, ← List.flatten_append, List.take_append_drop]

/-- The events at the fields of a model by themselves, without those of its children. -/
def fieldEvents (name : String) (location : Pointer) (fields : List Field) : List Log.Event :=
  fields.flatMap fun field =>
    (fieldWarning? warned name location field).toList ++ [fieldEvent name field]

/-- The events of a model without those below it. -/
def ownEvents (m : Model) : List Log.Event :=
  fieldEvents warned m.typeName m.location m.fields ++ [builtEvent m]

private theorem modelLog_eq (m : Model) :
    modelLog warned m =
      (fieldMarks warned m.typeName m.location m.fields (marksOfAll warned m.children)).flatMap
        Mark.events ++ [builtEvent m] := by
  cases m
  rw [modelLog, modelMarks, List.flatMap_append]
  rfl

private theorem filter_warning (name : String) (location : Pointer) (field : Field)
    (level : Log.Level) :
    (fieldWarning? warned name location field).toList.filter (·.level = level) =
      if level = .warn then (fieldWarning? warned name location field).toList else [] := by
  cases h : fieldWarning? warned name location field with
  | none => simp
  | some e => by_cases hl : level = .warn <;> simp [level_of_fieldWarning? h, hl, eq_comm]

theorem debug_fieldMarks (name : String) (location : Pointer) (fields : List Field)
    (inside : List (List Mark)) :
    ((fieldMarks warned name location fields inside).flatMap Mark.events).filter
        (·.level = .debug) =
      (inside.flatten.flatMap Mark.events).filter (·.level = .debug) := by
  induction fields generalizing inside with
  | nil => rfl
  | cons field fields ih =>
    rw [events_fieldMarks_cons, List.filter_append, List.filter_append, List.filter_cons, ih,
      filter_warning]
    simp only [level_fieldEvent, reduceCtorEq, decide_false, List.nil_append, Bool.false_eq_true,
      if_false]
    rw [← List.filter_append, events_take_append_drop]

mutual

/-- The models of a tree are built in postorder. -/
theorem debug_modelLog : ∀ m : Model,
    (modelLog warned m).filter (·.level = .debug) = m.postorder.map builtEvent
  | ⟨name, location, fields, initializer, children⟩ => by
    rw [modelLog_eq, List.filter_append, debug_fieldMarks, debug_marksOfAll children,
      Model.postorder, List.map_append]
    rfl

theorem debug_marksOfAll : ∀ ms : List Model,
    ((marksOfAll warned ms).flatten.flatMap Mark.events).filter (·.level = .debug) =
      (Model.postorderAll ms).map builtEvent
  | [] => rfl
  | m :: rest => by
    rw [marksOfAll, List.flatten_cons, List.flatMap_append, List.filter_append,
      debug_marksOfAll rest, Model.postorderAll, List.map_append, ← debug_modelLog m, modelLog]

end

/-- The events of the fields come first when those of the models inside move behind them. -/
theorem events_fieldMarks_perm (name : String) (location : Pointer) (fields : List Field)
    (inside : List (List Mark)) :
    ((fieldMarks warned name location fields inside).flatMap Mark.events).Perm
      (fieldEvents warned name location fields ++ inside.flatten.flatMap Mark.events) := by
  induction fields generalizing inside with
  | nil => exact .refl _
  | cons field fields ih =>
    rw [events_fieldMarks_cons, fieldEvents, List.flatMap_cons, ← fieldEvents,
      ← events_take_append_drop inside field.childCount]
    refine ((ih _).cons _ |>.append_left _).trans ?_
    rw [← List.cons_append, List.append_assoc]
    refine (List.perm_append_comm_assoc _ _ _ |>.append_left _).trans ?_
    simp

mutual

/-- Each model of a tree adds its own events to the log. -/
theorem modelLog_perm : ∀ m : Model,
    (modelLog warned m).Perm (m.preorder.flatMap (ownEvents warned))
  | ⟨name, location, fields, initializer, children⟩ => by
    rw [modelLog_eq, Model.preorder, List.flatMap_cons, ownEvents, List.append_assoc]
    refine ((events_fieldMarks_perm warned name location fields _).append_right _).trans ?_
    rw [List.append_assoc]
    exact (List.perm_append_comm.trans
      ((events_marksOfAll_perm children).append_left _)).append_left _

theorem events_marksOfAll_perm : ∀ ms : List Model,
    ((marksOfAll warned ms).flatten.flatMap Mark.events).Perm
      ((Model.preorderAll ms).flatMap (ownEvents warned))
  | [] => .refl _
  | m :: rest => by
    rw [marksOfAll, List.flatten_cons, List.flatMap_append, Model.preorderAll, List.flatMap_append]
    exact (modelLog_perm m).append (events_marksOfAll_perm rest)

end

theorem trace_ownEvents (m : Model) :
    (ownEvents warned m).filter (·.level = .trace) = m.fields.map (fieldEvent m.typeName) := by
  rw [ownEvents, fieldEvents, List.filter_append, List.filter_flatMap, List.map_eq_flatMap]
  simp [filter_warning]

theorem warn_ownEvents (m : Model) :
    (ownEvents warned m).filter (·.level = .warn) =
      m.fields.filterMap (fieldWarning? warned m.typeName m.location) := by
  rw [ownEvents, fieldEvents, List.filter_append, List.filter_flatMap,
    List.filterMap_eq_flatMap_toList]
  simp [filter_warning]

theorem trace_modelLog (m : Model) :
    ((modelLog warned m).filter (·.level = .trace)).Perm
      (m.preorder.flatMap fun n => n.fields.map (fieldEvent n.typeName)) := by
  have h := (modelLog_perm warned m).filter (·.level = .trace)
  rw [List.filter_flatMap] at h
  simpa only [trace_ownEvents] using h

theorem warn_modelLog (m : Model) :
    ((modelLog warned m).filter (·.level = .warn)).Perm
      (m.preorder.flatMap fun n => n.fields.filterMap
        (fieldWarning? warned n.typeName n.location)) := by
  have h := (modelLog_perm warned m).filter (·.level = .warn)
  rw [List.filter_flatMap] at h
  simpa only [warn_ownEvents] using h

end Laws

/-! ## The log of a walk -/

private theorem childCount_fieldType (inspect : Bool) (key typeName : String) (location : Pointer)
    (value : Json) :
    Field.childCount ⟨key, fieldType inspect typeName value⟩ =
      (innerAt inspect typeName location value).toList.length := by
  rw [Field.childCount, className?_fieldType inspect typeName location, innerAt_eq]
  cases entered? inspect location value <;> rfl

private theorem warning?_eq {inspect : Bool} {name key : String} {location : Pointer}
    {document value : Json} (type : FieldType)
    (h : (location.child key).resolve? document = some value) :
    warning? inspect name (location.child key) value =
      fieldWarning? (warnedAt inspect document) name location ⟨key, type⟩ := by
  rw [warning?, fieldWarning?, warnedAt, h]
  rfl

/-- Where the members stand in the document, the marks at them are those at the fields made of them.
The members of an object entered stand in the document as well, and as many models inside belong to
a field as objects are entered at its member: one or none. -/
theorem marks_eq_fieldMarks {inspect : Bool} {document : Json} (name : String)
    {location : Pointer} {members : List (String × Json)}
    (hm : ∀ key value, (key, value) ∈ members →
      (location.child key).resolve? document = some value ∧ value.WellFormed) :
    marks inspect name location members =
      fieldMarks (warnedAt inspect document) name location (fieldsOf inspect name members)
        (marksOfAll (warnedAt inspect document) (inner inspect name location members)) := by
  induction members using members_induction inspect generalizing name location with
  | nil => rfl
  | cons key value rest inside ih =>
    obtain ⟨hkey, hw⟩ := hm key value List.mem_cons_self
    have hrest := ih name fun k v h => hm k v (List.mem_cons_of_mem _ h)
    have hinside : marksAt inspect (nestedName name key) (location.child key) value =
        (marksOfAll (warnedAt inspect document)
          (innerAt inspect (nestedName name key) (location.child key) value).toList).flatten := by
      rw [marksAt_eq, innerAt_eq]
      cases h : entered? inspect (location.child key) value with
      | none => rfl
      | some entry =>
        obtain ⟨place, below⟩ := entry
        have found : Entry.Found document ⟨nestedName name key, place, below⟩ :=
          ⟨resolve?_of_entered hkey h, wellFormed_of_entered hw h⟩
        have hin := inside _ _ _ h (nestedName name key) fun k v hm => found.resolve?_child hm
        simp [hin, marksOfAll, modelMarks, outline, modelOf]
    have hcount := childCount_fieldType inspect key (nestedName name key) (location.child key) value
    have hentered : (entered? inspect (location.child key) value).isSome =
        (fieldType inspect (nestedName name key) value).className?.isSome := by
      rw [className?_fieldType inspect _ (location.child key), Option.isSome_map]
    have hfields : fieldsOf inspect name ((key, value) :: rest) =
        ⟨key, fieldType inspect (nestedName name key) value⟩ :: fieldsOf inspect name rest := rfl
    rw [marks_cons, hinside, hrest, hfields, fieldMarks, inner_cons, marksOfAll_append, hcount,
      List.take_left' (length_marksOfAll _ _), List.drop_left' (length_marksOfAll _ _),
      warning?_eq (fieldType inspect (nestedName name key) value) hkey, hentered]
    rfl

theorem sampleMarks_eq_modelMarks {document : Json} (inspect : Bool) (name : String)
    (hw : document.WellFormed) :
    sampleMarks inspect name document =
      modelMarks (warnedAt inspect document) (sampleOutline inspect name document) := by
  cases document with
  | object members =>
    have found : Entry.Found (.object members) ⟨name, .root, members⟩ := ⟨rfl, hw⟩
    rw [sampleMarks, marks_eq_fieldMarks name fun k v hm => found.resolve?_child hm]
    rfl
  | _ => rfl

/-! ## The places of the warnings -/

theorem sampled_root (document : Json) : Sampled document .root := by
  intro outer token rest items h
  simp [Pointer.root] at h

/-- An array that is passed on the way to a place one step further on is passed on the way to the
place itself, or it is the value there. -/
theorem Sampled.push {document : Json} {place : Pointer} {segment : Segment}
    (h : Sampled document place)
    (hlast : ∀ items, place.resolve? document = some (.array items) →
      segment.token = "0" ∧ ∃ below others, items = .object below :: others) :
    Sampled document (place.push segment) := by
  intro outer token rest items ht hr
  rcases List.eq_nil_or_concat rest with rfl | ⟨between, last, rfl⟩
  · obtain ⟨hplace, hsegment⟩ := List.append_inj' ht rfl
    have houter : outer = place := congrArg Pointer.mk hplace.symm
    cases hsegment
    exact hlast items (houter ▸ hr)
  · rw [List.concat_eq_append, ← List.cons_append, ← List.append_assoc] at ht
    exact h outer token between items (List.append_inj' ht rfl).1 hr

theorem Entry.Found.sampled_child {document : Json} {o : Entry} (h : o.Found document)
    (hs : Sampled document o.location) (key : String) :
    Sampled document (o.location.child key) := by
  refine hs.push fun items hi => ?_
  rw [h.1] at hi
  cases hi

theorem Entry.Found.sampled_of_enters {inspect : Bool} {document : Json} {o inside : Entry}
    (h : o.Found document) (hs : Sampled document o.location)
    (he : Entry.Enters inspect o inside) : Sampled document inside.location := by
  obtain ⟨key, value, hm, -, he⟩ := he
  have hchild := h.sampled_child hs key
  obtain ⟨hkey, -⟩ := h.resolve?_child hm
  rcases entered?_cases he with ⟨-, hp⟩ | ⟨others, -, rfl, hp⟩
  · exact hp ▸ hchild
  · rw [hp]
    refine hchild.push fun items hi => ?_
    rw [hkey] at hi
    cases hi
    exact ⟨rfl, _, _, rfl⟩

theorem Entry.Found.sampled_of_reaches {inspect : Bool} {document : Json} {o reached : Entry}
    (h : o.Found document) (hs : Sampled document o.location)
    (hr : Entry.Reaches inspect o reached) : Sampled document reached.location := by
  induction hr with
  | refl => exact hs
  | tail hr he ih => exact (h.reaches hr).sampled_of_enters ih he

theorem sampled_field {inspect : Bool} {name : String} {document : Json} {n : Model} {field : Field}
    (hw : document.WellFormed) (hn : n ∈ (sampleOutline inspect name document).preorder)
    (hf : field ∈ n.fields) : Sampled document (n.location.child field.name) := by
  rcases mem_preorder_cases hn with ⟨members, o, rfl, hr, rfl⟩ | ⟨-, note, -, rfl⟩
  · have hroot : Entry.Found (.object members) ⟨name, .root, members⟩ := ⟨rfl, hw⟩
    exact (hroot.reaches hr).sampled_child (hroot.sampled_of_reaches (sampled_root _) hr) field.name
  · cases hf

theorem sampled_of_warning {inspect : Bool} {name model : String} {document : Json}
    {place : Pointer} (hw : document.WellFormed)
    (he : .kindsDiffer model place ∈
      modelLog (warnedAt inspect document) (sampleOutline inspect name document)) :
    Sampled document place := by
  have hmem : .kindsDiffer model place ∈ (modelLog (warnedAt inspect document)
      (sampleOutline inspect name document)).filter (·.level = .warn) := by
    simpa [Log.Event.level] using he
  rw [(warn_modelLog _ _).mem_iff, List.mem_flatMap] at hmem
  obtain ⟨n, hn, hwarning⟩ := hmem
  obtain ⟨field, hf, hwarning⟩ := List.mem_filterMap.mp hwarning
  unfold fieldWarning? at hwarning
  split at hwarning
  · cases hwarning
    exact sampled_field hw hn hf
  · cases hwarning

/-- The log of inference, told from the sample and its tree of models. If inference succeeds, the
log is that of the tree: the models are built in postorder, each field of the tree is told of once,
and the warnings are those of the fields whose values are arrays of mixed kinds, with no array on
the way to them left otherwise than through its first element. If inference fails at a member, the
log ends there. -/
theorem log_traces_walk (document : Json) (rootName : String) (settings : Settings)
    (hw : document.WellFormed) :
    (∀ m, infer document rootName settings = .ok m →
      (inferLogged document rootName settings).1 =
        modelLog (warnedAt settings.inspectArrays document) m ∧
      ((inferLogged document rootName settings).1.filter (·.level = .debug)) =
        m.postorder.map builtEvent ∧
      ((inferLogged document rootName settings).1.filter (·.level = .trace)).Perm
        (m.preorder.flatMap fun n => n.fields.map (fieldEvent n.typeName)) ∧
      ((inferLogged document rootName settings).1.filter (·.level = .warn)).Perm
        (m.preorder.flatMap fun n => n.fields.filterMap
          (fieldWarning? (warnedAt settings.inspectArrays document) n.typeName n.location)) ∧
      ∀ model place, .kindsDiffer model place ∈ (inferLogged document rootName settings).1 →
        Sampled document place) ∧
    (∀ fault, infer document rootName settings = .error fault →
      if isIdentifier rootName then
        ∃ before v warning? after,
          modelMarks (warnedAt settings.inspectArrays document)
              (sampleOutline settings.inspectArrays rootName document) =
            before ++ .visit v warning? :: after ∧
          Clean rootName (before.filterMap Mark.visit?) ∧
          v.fault? (claims rootName (before.filterMap Mark.visit?)) = some fault ∧
          (inferLogged document rootName settings).1 =
            before.flatMap Mark.events ++ v.lastEvents warning?
      else (inferLogged document rootName settings).1 = []) ∧
    (modelMarks (warnedAt settings.inspectArrays document)
        (sampleOutline settings.inspectArrays rootName document)).filterMap Mark.visit? =
      sampleVisits settings.inspectArrays rootName document := by
  have hmarks := sampleMarks_eq_modelMarks settings.inspectArrays rootName hw
  refine ⟨?_, ?_, by rw [← hmarks, visits_sampleMarks]⟩
  · intro m h
    obtain ⟨-, -, rfl⟩ := (infer_eq_ok_iff document rootName settings m).mp h
    have hlog : (inferLogged document rootName settings).1 =
        modelLog (warnedAt settings.inspectArrays document)
          (sampleOutline settings.inspectArrays rootName document) := by
      rw [log_of_ok h, hmarks, modelLog]
    rw [hlog]
    exact ⟨rfl, debug_modelLog _ _, trace_modelLog _ _, warn_modelLog _ _,
      fun model place he => sampled_of_warning hw he⟩
  · intro fault h
    split
    · next hi =>
      rw [← hmarks]
      exact log_of_error hi h
    · next hi => rw [fst_inferLogged, if_neg hi]

theorem log_of_orderSample :
    orderSample.WellFormed ∧ ∃ m, infer orderSample "Order" ⟨true, 4⟩ = .ok m ∧
      ((inferLogged orderSample "Order" ⟨true, 4⟩).1.filter (·.level = .debug)) =
        m.postorder.map builtEvent ∧
      m.postorder.map (fun n => n.location.text) =
        ["/aB", "/a/items/0/b", "/a/items/0", "/a", ""] ∧
      (inferLogged orderSample "Order" ⟨true, 4⟩).1.filter (·.level = .warn) =
        [.kindsDiffer "OrderA" ⟨["a", "items"]⟩] ∧
      Sampled orderSample ⟨["a", "items"]⟩ := by
  have hw := wellFormed_orderSample
  have h : infer orderSample "Order" ⟨true, 4⟩ = .ok (sampleOutline true "Order" orderSample) := rfl
  obtain ⟨-, hdebug, -, -, hsampled⟩ := (log_traces_walk orderSample "Order" ⟨true, 4⟩ hw).1 _ h
  exact ⟨hw, _, h, hdebug, rfl, by decide +kernel, hsampled "OrderA" _ (by decide +kernel)⟩

/-- The name of the second member cannot be derived, and it has been warned of by then. -/
example : (inferLogged (.object [("id", .null), ("", .array [.object [], .null])]) "Order"
    ⟨true, 4⟩).1 = [.field "Order" "id" "AnyObject", .kindsDiffer "Order" ⟨[""]⟩] := by
  decide +kernel

end Inference

end SampleModels
