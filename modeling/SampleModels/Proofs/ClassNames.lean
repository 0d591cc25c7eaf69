import SampleModels.Proofs.Walk.Entries
import SampleModels.Proofs.Walk.Outcome

/-!
# The names of an inferred tree

The names of the models, each once and each an identifier, are those claimed along the walk. Read
back from the tree, the requests for them are all served by a fresh registry.
-/

namespace SampleModels

def FieldType.className? : FieldType → Option String
  | .nested name => some name
  | .list (.nested name) => some name
  | _ => none

/-- The keys of the fields that mention a class, one for each child. -/
def classKeys (fields : List Field) : List String :=
  fields.filterMap fun field => field.type.className?.map fun _ => field.name

namespace Model

mutual

def requests : Model → List IssuedNames.Request
  | ⟨name, location, fields, _, children⟩ => requestsAll name location (classKeys fields) children

/-- The requests for the names of the children found at these keys and of the models below them. -/
def requestsAll (name : String) (location : Pointer) :
    List String → List Model → List IssuedNames.Request
  | key :: keys, m :: rest =>
    .nested name key (location.child key) :: m.requests ++ requestsAll name location keys rest
  | _, _ => []

end

end Model

namespace Inference

theorem className?_fieldType (inspect : Bool) (typeName : String) (location : Pointer)
    (value : Json) :
    (fieldType inspect typeName value).className? =
      (entered? inspect location value).map fun _ => typeName := by
  cases value with
  | array items =>
    cases items with
    | nil => rfl
    | cons first rest => cases first <;> cases inspect <;> rfl
  | _ => rfl

theorem classKeys_cons (inspect : Bool) (name key : String) (location : Pointer) (value : Json)
    (rest : List (String × Json)) :
    classKeys (fieldsOf inspect name ((key, value) :: rest)) =
      ((entered? inspect location value).map fun _ => key).toList ++
        classKeys (fieldsOf inspect name rest) := by
  have h := className?_fieldType inspect (nestedName name key) location value
  cases he : entered? inspect location value <;> simp [classKeys, fieldsOf, h, he]

def Visit.request? (v : Visit) : Option IssuedNames.Request :=
  if v.entered then some (.nested v.parent v.key v.location) else none

theorem requestsAll_inner (inspect : Bool) (name : String) (location : Pointer)
    (members : List (String × Json)) :
    Model.requestsAll name location (classKeys (fieldsOf inspect name members))
      (inner inspect name location members) =
      (visits inspect name location members).filterMap Visit.request? := by
  induction members using members_induction inspect generalizing name location with
  | nil => rfl
  | cons key value rest inside ih =>
    rw [classKeys_cons inspect name key (location.child key), inner_cons, innerAt_eq, visits_cons,
      visitsAt_eq]
    cases h : entered? inspect (location.child key) value with
    | none => simpa [Visit.request?] using ih name location
    | some entry =>
      obtain ⟨place, below⟩ := entry
      have hin := inside _ _ _ h (nestedName name key) place
      simp [Visit.request?, Model.requestsAll, Model.requests, outline, modelOf, ih, hin]

theorem typeNames_inner (inspect : Bool) (name : String) (location : Pointer)
    (members : List (String × Json)) :
    (Model.preorderAll (inner inspect name location members)).map Model.typeName =
      ((visits inspect name location members).filterMap Visit.claim?).map Prod.fst := by
  induction members using members_induction inspect generalizing name location with
  | nil => rfl
  | cons key value rest inside ih =>
    rw [inner_cons, innerAt_eq, visits_cons, visitsAt_eq]
    cases h : entered? inspect (location.child key) value with
    | none => simpa [Visit.claim?] using ih name location
    | some entry =>
      obtain ⟨place, below⟩ := entry
      have hin := inside _ _ _ h (nestedName name key) place
      simp [Visit.claim?, Visit.typeName, Model.preorderAll, Model.preorder_eq, outline, modelOf,
        ih, hin]

theorem typeNames_sampleOutline (inspect : Bool) (name : String) (document : Json) :
    (sampleOutline inspect name document).typeNames =
      (claims name (sampleVisits inspect name document)).map Prod.fst := by
  rw [Model.typeNames, Model.preorder_eq]
  cases document with
  | object members =>
    simp [sampleOutline, sampleVisits, outline, modelOf, claims, typeNames_inner]
  | _ => rfl

theorem requests_sampleOutline (inspect : Bool) (name : String) (document : Json) :
    (sampleOutline inspect name document).requests =
      (sampleVisits inspect name document).filterMap Visit.request? := by
  cases document with
  | object members => exact requestsAll_inner inspect name .root members
  | _ => rfl

private theorem serve_eq_self {v : Visit} {names next : IssuedNames} (he : v.entered = false)
    (h : v.serve names = .ok next) : next = names := by
  simp only [Visit.serve, he, bind, Except.bind] at h
  cases hc : checkKey v.key v.location <;> simp_all

private theorem derive_of_serve {v : Visit} {names next : IssuedNames} (he : v.entered = true)
    (h : v.serve names = .ok next) :
    names.derive v.parent v.key v.location = .ok (v.typeName, next) := by
  simp only [Visit.serve, he, if_true, bind, Except.bind] at h
  cases hc : checkKey v.key v.location with
  | error fault => simp [hc] at h
  | ok checked =>
    cases hd : names.derive v.parent v.key v.location with
    | error fault => simp [hc, hd, Except.map] at h
    | ok issued =>
      obtain ⟨name, after⟩ := issued
      simp only [hc, hd, Except.map, Except.ok.injEq] at h
      rw [IssuedNames.fst_of_derive hd, h, Visit.typeName]

/-- Requests made along visits that succeed are all served. -/
theorem serveAll_requests {visited : List Visit} {names after : IssuedNames}
    (h : visited.foldlM Visit.serve names = .ok after) :
    (names.serveAll (visited.filterMap Visit.request?)).map Prod.fst =
        ((visited.filterMap Visit.claim?).map Prod.fst).map .ok ∧
      ((names.serveAll (visited.filterMap Visit.request?)).getLast?.map Prod.snd).getD names =
        after := by
  induction visited generalizing names with
  | nil =>
    cases h
    exact ⟨rfl, rfl⟩
  | cons v rest ih =>
    rw [List.foldlM_cons] at h
    obtain ⟨next, hs, h⟩ := bind_eq_ok_iff.mp h
    obtain ⟨hn, hl⟩ := ih h
    cases he : v.entered with
    | false =>
      cases serve_eq_self he hs
      have hr : v.request? = none := by simp [Visit.request?, he]
      have hc : v.claim? = none := by simp [Visit.claim?, he]
      rw [List.filterMap_cons_none hr, List.filterMap_cons_none hc]
      exact ⟨hn, hl⟩
    | true =>
      have hr : v.request? = some (.nested v.parent v.key v.location) := by
        simp [Visit.request?, he]
      have hc : v.claim? = some (v.typeName, v.location) := by simp [Visit.claim?, he]
      have hserve : names.serve (.nested v.parent v.key v.location) = (.ok v.typeName, next) := by
        simp only [IssuedNames.serve, derive_of_serve he hs]
      rw [List.filterMap_cons_some hr, List.filterMap_cons_some hc, IssuedNames.serveAll, hserve]
      refine ⟨by simpa using hn, ?_⟩
      rw [List.getLast?_cons, ← hl]
      cases (next.serveAll (rest.filterMap Visit.request?)).getLast? <;> rfl

/-- The children of a model are named after it and the keys they are found at. -/
theorem typeNames_children (inspect : Bool) (o : Entry) :
    (o.model inspect).children.map Model.typeName =
      (classKeys (o.model inspect).fields).map (nestedName o.name) := by
  obtain ⟨name, location, members⟩ := o
  simp only [Entry.model, outline, modelOf]
  induction members with
  | nil => rfl
  | cons member rest ih =>
    obtain ⟨key, value⟩ := member
    rw [classKeys_cons inspect name key (location.child key), inner_cons, innerAt_eq]
    cases entered? inspect (location.child key) value with
    | none => simpa using ih
    | some entry => simpa [outline, modelOf] using ih

theorem exists_visit_of_mem_classKeys {inspect : Bool} {o : Entry} {key : String}
    (hk : key ∈ classKeys (o.model inspect).fields) :
    ∃ v ∈ visits inspect o.name o.location o.members, v.entered ∧ v.key = key := by
  obtain ⟨field, hf, hkey⟩ := List.mem_filterMap.mp hk
  obtain ⟨⟨k, value⟩, hm, rfl⟩ := List.mem_map.mp hf
  rw [className?_fieldType inspect _ (o.location.child k), Option.map_map] at hkey
  obtain ⟨entry, he, rfl⟩ := Option.map_eq_some_iff.mp hkey
  refine ⟨⟨o.name, k, o.location.child k, true⟩, ?_, rfl, rfl⟩
  rw [visits_eq_flatMap, List.mem_flatMap]
  exact ⟨(k, value), hm, by simp [he]⟩

theorem key_ne_empty {v : Visit} (h : v.defect? = none) (he : v.entered) : v.key ≠ "" :=
  ((v.defect?_eq_none_iff.mp h).2 he).1

theorem isIdentifier_typeName {v : Visit} (h : v.defect? = none) (he : v.entered) :
    isIdentifier v.typeName := ((v.defect?_eq_none_iff.mp h).2 he).2

theorem nodup_typeNames {inspect : Bool} {rootName : String} {document : Json}
    (hc : Clean rootName (sampleVisits inspect rootName document)) :
    (sampleOutline inspect rootName document).typeNames.Nodup := by
  rw [typeNames_sampleOutline]
  exact nodup_claims hc

theorem isIdentifier_of_mem_claims {rootName : String} {visited : List Visit}
    (hi : isIdentifier rootName) (hc : Clean rootName visited) {name : String}
    (hn : name ∈ (claims rootName visited).map Prod.fst) : isIdentifier name := by
  rw [claims, List.map_cons, List.mem_cons] at hn
  rcases hn with rfl | hn
  · exact hi
  · obtain ⟨⟨_, location⟩, hclaim, rfl⟩ := List.mem_map.mp hn
    obtain ⟨v, hv, hvc⟩ := List.mem_filterMap.mp hclaim
    unfold Visit.claim? at hvc
    split at hvc
    · next he =>
      cases hvc
      exact isIdentifier_typeName (hc.defect?_eq_none hv) he
    · cases hvc

theorem names_children_of_clean {inspect : Bool} {rootName : String} {document : Json}
    (hc : Clean rootName (sampleVisits inspect rootName document)) {n : Model}
    (hn : n ∈ (sampleOutline inspect rootName document).preorder) :
    n.children.map (fun c => Except.ok c.typeName) =
      (classKeys n.fields).map fun key =>
        nestedTypeName n.typeName key (n.location.child key) := by
  rcases mem_preorder_cases hn with ⟨members, o, rfl, hr, rfl⟩ | ⟨-, note, -, rfl⟩
  · have hkeys : ∀ key ∈ classKeys (o.model inspect).fields,
        nestedTypeName o.name key (o.location.child key) = .ok (nestedName o.name key) := by
      intro key hk
      obtain ⟨v, hv, he, rfl⟩ := exists_visit_of_mem_classKeys hk
      have hne := key_ne_empty (hc.defect?_eq_none (visits_subset_of_reaches hr hv)) he
      rw [nestedTypeName_eq, if_neg hne]
    rw [← Function.comp_def Except.ok Model.typeName, ← List.map_map, typeNames_children,
      List.map_map]
    exact (List.map_congr_left hkeys).symm
  · rfl

theorem reissue {inspect : Bool} {rootName : String} {document : Json}
    (hi : isIdentifier rootName) (hc : Clean rootName (sampleVisits inspect rootName document)) :
    let m := sampleOutline inspect rootName document
    let served := IssuedNames.none.serveAll (.root rootName :: m.requests)
    served.map Prod.fst = m.typeNames.map .ok ∧
      served.getLast?.map Prod.snd =
        some (registry rootName (sampleVisits inspect rootName document)) := by
  have hserve : IssuedNames.none.serve (.root rootName) = (.ok rootName, registry rootName []) := by
    simp only [IssuedNames.serve, IssuedNames.claimRoot, hi, if_true]
    rfl
  obtain ⟨hn, hl⟩ := serveAll_requests ((serve_visits_ok_iff rootName _ _).mpr ⟨hc, rfl⟩)
  intro m served
  have hs : served = (.ok rootName, registry rootName []) ::
      (registry rootName []).serveAll m.requests := by
    simp only [served, IssuedNames.serveAll, hserve]
  rw [hs, requests_sampleOutline, typeNames_sampleOutline, claims]
  refine ⟨by simpa using hn, ?_⟩
  rw [List.getLast?_cons, ← hl]
  cases ((registry rootName []).serveAll
    ((sampleVisits inspect rootName document).filterMap Visit.request?)).getLast? <;> rfl

/-- The names of an inferred tree are unique identifiers, each made of the parent's name and a key,
and the tree's own requests issue them again. -/
theorem names_unique_and_reissued {document : Json} {rootName : String} {settings : Settings}
    {m : Model} (h : infer document rootName settings = .ok m) :
    m.typeNames.Nodup ∧ (∀ name ∈ m.typeNames, isIdentifier name) ∧
      m.typeNames.length = 1 + m.descendantCount ∧
      (∀ n ∈ m.preorder, n.children.map (fun c => Except.ok c.typeName) =
        (classKeys n.fields).map fun key =>
          nestedTypeName n.typeName key (n.location.child key)) ∧
      (IssuedNames.none.serveAll (.root rootName :: m.requests)).map Prod.fst =
        m.typeNames.map .ok ∧
      (IssuedNames.none.serveAll (.root rootName :: m.requests)).getLast?.map
        (fun served => served.2.size) = some (1 + m.descendantCount) := by
  obtain ⟨hi, hc, rfl⟩ := (infer_eq_ok_iff document rootName settings m).mp h
  have hnames := typeNames_sampleOutline settings.inspectArrays rootName document
  have hlength : (sampleOutline settings.inspectArrays rootName document).typeNames.length =
      1 + (sampleOutline settings.inspectArrays rootName document).descendantCount := by
    rw [Model.typeNames, List.length_map, Model.length_preorder]
  obtain ⟨hserved, hlast⟩ := reissue hi hc
  refine ⟨?_, ?_, hlength, fun n hn => names_children_of_clean hc hn, hserved, ?_⟩
  · rw [hnames]
    exact nodup_claims hc
  · intro name hn
    exact isIdentifier_of_mem_claims hi hc (hnames ▸ hn)
  · rw [← hlength, hnames, List.length_map, ← Function.comp_def IssuedNames.size Prod.snd,
      ← Option.map_map, hlast]
    simp [IssuedNames.size, registry]

theorem names_of_orderSample :
    ∃ m, infer orderSample "Order" ⟨true, 4⟩ = .ok m ∧
      m.typeNames = ["Order", "OrderAB", "OrderA", "OrderAItems", "OrderAItemsB"] ∧
      m.typeNames.Nodup ∧
      (IssuedNames.none.serveAll (.root "Order" :: m.requests)).map Prod.fst =
        m.typeNames.map .ok := by
  have h : infer orderSample "Order" ⟨true, 4⟩ = .ok (sampleOutline true "Order" orderSample) := rfl
  obtain ⟨hn, -, -, -, hs, -⟩ := names_unique_and_reissued h
  exact ⟨_, h, rfl, hn, hs⟩

end Inference

end SampleModels
