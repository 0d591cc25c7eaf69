import SampleModels.Proofs.Walk.Outcome
import SampleModels.Proofs.Walk.Renaming

/-!
# The choice of the root name

Every name on a walk is the name of the root with something behind it, and what is behind it decides
whether the name is an identifier and whether it was claimed before. So another root name gives the
same tree with another beginning of each name, or a fault of the same kind at the same place.
-/

namespace SampleModels

theorem nestedName_append (root parent key : String) :
    nestedName (root ++ parent) key = root ++ nestedName parent key := by
  unfold nestedName
  cases key.toList <;> simp [String.append_assoc]

/-- What follows an identifier decides whether the whole is one. -/
theorem isIdentifier_append {root : String} (h : isIdentifier root) (suffix : String) :
    isIdentifier (root ++ suffix) = suffix.toList.all isIdentifierRest := by
  unfold isIdentifier at h ⊢
  rw [String.toList_append]
  cases hr : root.toList with
  | nil => simp [hr] at h
  | cons c rest =>
    rw [hr, Bool.and_eq_true] at h
    simp [h]

namespace Inference

/-- The faults are the same, except for the root's name at the beginning of a type name. -/
inductive Alike (first second : String) : Fault → Fault → Prop where
  | key (location : Pointer) (key : String) (defect : KeyDefect) :
    Alike first second (.invalidFieldKey location key defect)
      (.invalidFieldKey location key defect)
  | name (suffix : String) (earlier later : Pointer) :
    Alike first second (.typeNameCollision (first ++ suffix) earlier later)
      (.typeNameCollision (second ++ suffix) earlier later)

theorem commutes_rootName (root : String) : Commutes (root ++ ·) id :=
  ⟨fun parent key => (nestedName_append root parent key).symm, fun _ _ => rfl, fun _ _ => rfl⟩

/-- The visit on a walk whose root has the name, in place of none. -/
def Visit.under (root : String) (v : Visit) : Visit := v.map (root ++ ·) id

theorem sampleVisits_under (inspect : Bool) (root : String) (document : Json) :
    sampleVisits inspect root document =
      (sampleVisits inspect "" document).map (Visit.under root) := by
  cases document with
  | object members =>
    have hvisits := (commutes_rootName root).visits_map inspect "" .root members
    rw [String.append_empty] at hvisits
    exact hvisits
  | _ => rfl

theorem sampleOutline_under (inspect : Bool) (root : String) (document : Json) :
    sampleOutline inspect root document =
      (sampleOutline inspect "" document).map (root ++ ·) id := by
  cases document with
  | object members =>
    simpa [sampleOutline] using (commutes_rootName root).outline_map inspect "" .root members
  | _ => simp [sampleOutline, Model.map, Model.mapAll, Statement.mapName]

theorem claims_under (root : String) (visited : List Visit) :
    claims root (visited.map (Visit.under root)) =
      (claims "" visited).map fun entry => (root ++ entry.1, entry.2) := by
  have hclaim : Visit.claim? ∘ Visit.under root =
      fun v => v.claim?.map fun entry => (root ++ entry.1, entry.2) :=
    funext (commutes_rootName root).claim?_map
  rw [claims, claims, List.map_cons, List.filterMap_map, hclaim, List.map_filterMap,
    String.append_empty]

/-- The defect of a key does not depend on the root's name, since that is an identifier. -/
theorem defect?_under {first second : String} (hf : isIdentifier first)
    (hs : isIdentifier second) (v : Visit) :
    (v.under first).defect? = (v.under second).defect? := by
  simp only [Visit.defect?, Visit.under, (commutes_rootName _).typeName_map,
    isIdentifier_append hf, isIdentifier_append hs]
  rfl

theorem fault?_under (root : String) (before : List Visit) (v : Visit) :
    (v.under root).fault? (claims root (before.map (Visit.under root))) =
      match (v.under root).defect? with
      | some defect => some (.invalidFieldKey v.location v.key defect)
      | none => v.claim?.bind fun (suffix, location) =>
        ((claims "" before).lookup suffix).map fun earlier =>
          .typeNameCollision (root ++ suffix) earlier location := by
  have hinjective : ∀ a b : String, root ++ a = root ++ b → a = b := fun a b h =>
    String.append_right_inj root |>.mp h
  rw [Visit.fault?, claims_under]
  cases hd : (v.under root).defect? with
  | some defect => rfl
  | none =>
    rw [Visit.under, (commutes_rootName root).claim?_map]
    cases v.claim? with
    | none => rfl
    | some claim => simp [Association.lookup_map_keys hinjective]

variable {first second : String}

theorem fault?_alike (hf : isIdentifier first) (hs : isIdentifier second) (before : List Visit)
    (v : Visit) :
    Option.Rel (Alike first second)
      ((v.under first).fault? (claims first (before.map (Visit.under first))))
      ((v.under second).fault? (claims second (before.map (Visit.under second)))) := by
  rw [fault?_under, fault?_under, defect?_under hf hs]
  cases (v.under second).defect? with
  | some defect => exact .some (.key v.location v.key defect)
  | none =>
    cases v.claim? with
    | none => exact .none
    | some claim =>
      obtain ⟨suffix, location⟩ := claim
      simp only [Option.bind_some]
      cases (claims "" before).lookup suffix with
      | none => exact .none
      | some earlier => exact .some (.name suffix earlier location)

theorem clean_under (hf : isIdentifier first) (hs : isIdentifier second) {visited : List Visit}
    (h : Clean first (visited.map (Visit.under first))) :
    Clean second (visited.map (Visit.under second)) := by
  intro before v after hsplit
  obtain ⟨b, rest, rfl, rfl, hrest⟩ := List.map_eq_append_iff.mp hsplit
  obtain ⟨w, a, rfl, rfl, rfl⟩ := List.map_eq_cons_iff.mp hrest
  have hnone : (w.under first).fault? (claims first (b.map (Visit.under first))) = none :=
    h _ _ (a.map (Visit.under first)) (by rw [List.map_append, List.map_cons])
  have hrel := fault?_alike hf hs b w
  rw [hnone] at hrel
  generalize (w.under second).fault? _ = fault at hrel ⊢
  cases hrel
  rfl

/-- Two identifiers as root names give one tree with the names in front of its type names, or
faults that are alike. -/
theorem root_name_only_begins_names (hf : isIdentifier first) (hs : isIdentifier second)
    (document : Json) (settings : Settings) :
    (∃ m : Model, infer document first settings = .ok (m.map (first ++ ·) id) ∧
      infer document second settings = .ok (m.map (second ++ ·) id)) ∨
    ∃ f g, infer document first settings = .error f ∧ infer document second settings = .error g ∧
      Alike first second f g := by
  cases h : infer document first settings with
  | ok m =>
    obtain ⟨-, hc, rfl⟩ := (infer_eq_ok_iff _ _ _ _).mp h
    rw [sampleVisits_under] at hc
    have hother : infer document second settings =
        .ok (sampleOutline settings.inspectArrays second document) := by
      rw [infer_eq_ok_iff, sampleVisits_under]
      exact ⟨hs, clean_under hf hs hc, rfl⟩
    refine .inl ⟨sampleOutline settings.inspectArrays "" document, ?_, ?_⟩
    · rw [← sampleOutline_under]
    · rw [hother, ← sampleOutline_under]
  | error f =>
    rw [infer_eq_error_iff, if_pos hf, sampleVisits_under] at h
    obtain ⟨before, v, after, hsplit, hc, hfault⟩ := h
    obtain ⟨b, rest, hvisits, rfl, hrest⟩ := List.map_eq_append_iff.mp hsplit
    obtain ⟨w, a, rfl, rfl, rfl⟩ := List.map_eq_cons_iff.mp hrest
    have hrel := fault?_alike hf hs b w
    rw [hfault] at hrel
    cases hg : (w.under second).fault? (claims second (b.map (Visit.under second))) with
    | none =>
      rw [hg] at hrel
      cases hrel
    | some g =>
      rw [hg, Option.rel_some_some] at hrel
      have hother : infer document second settings = .error g := by
        rw [infer_eq_error_iff, if_pos hs, sampleVisits_under, hvisits]
        exact ⟨_, _, a.map (Visit.under second), by rw [List.map_append, List.map_cons],
          clean_under hf hs hc, hg⟩
      exact .inr ⟨f, g, rfl, hother, hrel⟩

theorem orderSample_renamed :
    isIdentifier "Order" ∧ isIdentifier "_Sale2" ∧
      (∃ m : Model, infer orderSample "Order" ⟨true, 4⟩ = .ok (m.map ("Order" ++ ·) id) ∧
        infer orderSample "_Sale2" ⟨true, 4⟩ = .ok (m.map ("_Sale2" ++ ·) id)) ∧
      ∃ g, infer (.object [("aB", .object []), ("a", .object [("b", .object [])])]) "_Sale2"
          ⟨true, 4⟩ = .error g ∧
        Alike "Order" "_Sale2" (.typeNameCollision "OrderAB" ⟨["aB"]⟩ ⟨["a", "b"]⟩) g := by
  have hf : isIdentifier "Order" := rfl
  have hs : isIdentifier "_Sale2" := rfl
  have h : infer orderSample "Order" ⟨true, 4⟩ = .ok (sampleOutline true "Order" orderSample) := rfl
  have hc : infer (.object [("aB", .object []), ("a", .object [("b", .object [])])]) "Order"
      ⟨true, 4⟩ = .error (.typeNameCollision "OrderAB" ⟨["aB"]⟩ ⟨["a", "b"]⟩) := rfl
  refine ⟨hf, hs, ?_, ?_⟩
  · rcases root_name_only_begins_names hf hs orderSample ⟨true, 4⟩ with hm | ⟨f, g, hfail, -⟩
    · exact hm
    · rw [h] at hfail
      cases hfail
  · rcases root_name_only_begins_names hf hs
        (.object [("aB", .object []), ("a", .object [("b", .object [])])]) ⟨true, 4⟩ with
      ⟨m, hm, -⟩ | ⟨f, g, hfail, hg, halike⟩
    · rw [hc] at hm
      cases hm
    · rw [hc] at hfail
      cases hfail
      exact ⟨g, hg, halike⟩

end Inference

end SampleModels
