import SampleModels.Proofs.Decoding.Classes
import SampleModels.Proofs.Locations

/-!
# Reading trees back

The fields of a model tell how many models there are inside it and where they were found, so the
signatures of a tree in preorder leave only the location of its root open. The source of an inferred
tree tells the signatures, and the root of a sample is always found at one place.
-/

namespace SampleModels

/-- Where the object of a field was found inside the object at `location`. -/
def Field.place? (location : Pointer) (field : Field) : Option Pointer :=
  match field.type with
  | .nested _ => some (location.child field.name)
  | .list (.nested _) => some ((location.child field.name).element 0)
  | _ => none

namespace Model

/-- The fields of the model tell where its children were found. -/
def Placed (m : Model) : Prop :=
  m.children.map Model.location = m.fields.filterMap (Field.place? m.location)

mutual

/-- A tree is read back from the front of its signatures, and what is after them is left. -/
theorem eq_of_signatures : ∀ (m n : Model) (rest rest' : List Signature),
    (∀ k ∈ m.preorder, k.Placed) → (∀ k ∈ n.preorder, k.Placed) → m.location = n.location →
    m.preorder.map signature ++ rest = n.preorder.map signature ++ rest' → m = n ∧ rest = rest'
  | ⟨name, location, fields, initializer, children⟩,
    ⟨name', location', fields', initializer', children'⟩, rest, rest', hm, hn, hl, h => by
    obtain rfl : location = location' := hl
    rw [preorder, List.forall_mem_cons] at hm hn
    rw [preorder, preorder] at h
    obtain ⟨hs, hbelow⟩ := List.cons.inj h
    obtain ⟨rfl, rfl, rfl⟩ : name = name' ∧ fields = fields' ∧ initializer = initializer' := by
      simpa [signature] using hs
    have hplaces : children.map Model.location = children'.map Model.location :=
      Eq.trans hm.1 hn.1.symm
    obtain ⟨rfl, hrest⟩ :=
      eq_of_signaturesAll children children' rest rest' hm.2 hn.2 hplaces hbelow
    exact ⟨rfl, hrest⟩

theorem eq_of_signaturesAll : ∀ (ms ns : List Model) (rest rest' : List Signature),
    (∀ k ∈ preorderAll ms, k.Placed) → (∀ k ∈ preorderAll ns, k.Placed) →
    ms.map Model.location = ns.map Model.location →
    (preorderAll ms).map signature ++ rest = (preorderAll ns).map signature ++ rest' →
    ms = ns ∧ rest = rest'
  | [], [], rest, rest', _, _, _, h => ⟨rfl, h⟩
  | m :: ms, n :: ns, rest, rest', hm, hn, hl, h => by
    rw [preorderAll, List.forall_mem_append] at hm hn
    rw [preorderAll, preorderAll, List.map_append, List.map_append, List.append_assoc,
      List.append_assoc] at h
    obtain ⟨hlocation, hafter⟩ := List.cons.inj hl
    obtain ⟨rfl, htail⟩ := eq_of_signatures m n _ _ hm.1 hn.1 hlocation h
    obtain ⟨rfl, hrest⟩ := eq_of_signaturesAll ms ns rest rest' hm.2 hn.2 hafter htail
    exact ⟨rfl, hrest⟩

end

end Model

namespace Inference

theorem place?_fieldType (inspect : Bool) (name key : String) (location : Pointer) (value : Json) :
    Field.place? location ⟨key, fieldType inspect name value⟩ =
      (entered? inspect (location.child key) value).map Prod.fst := by
  cases value with
  | array items =>
    cases items with
    | nil => rfl
    | cons first rest => cases first <;> cases inspect <;> rfl
  | _ => rfl

private theorem placed_model (inspect : Bool) (o : Entry) : (o.model inspect).Placed := by
  obtain ⟨name, location, members⟩ := o
  simp only [Model.Placed, Entry.model, outline, modelOf]
  induction members with
  | nil => rfl
  | cons member rest ih =>
    obtain ⟨key, value⟩ := member
    have hplace := place?_fieldType inspect (nestedName name key) key location value
    rw [inner_cons, innerAt_eq]
    cases h : entered? inspect (location.child key) value with
    | none => simpa [fieldsOf, hplace, h] using ih
    | some entry => simpa [fieldsOf, hplace, h, outline, modelOf] using ih

theorem placed_of_mem_preorder {inspect : Bool} {name : String} {document : Json} {n : Model}
    (hn : n ∈ (sampleOutline inspect name document).preorder) : n.Placed := by
  rcases mem_preorder_cases hn with ⟨members, o, -, -, rfl⟩ | ⟨-, note, -, rfl⟩
  · exact placed_model inspect o
  · rfl

theorem nodup_keys_of_mem_preorder {inspect : Bool} {name : String} {document : Json} {n : Model}
    (hw : document.WellFormed) (hn : n ∈ (sampleOutline inspect name document).preorder) :
    (n.fields.map Field.name).Nodup := by
  rcases mem_preorder_cases hn with ⟨members, o, rfl, hr, rfl⟩ | ⟨-, note, -, rfl⟩
  · have hroot : Entry.Found (.object members) ⟨name, .root, members⟩ := ⟨rfl, hw⟩
    obtain ⟨-, hwo⟩ := hroot.reaches hr
    exact (describes_model inspect hwo).2.1
  · exact List.nodup_nil

theorem location_sampleOutline (inspect : Bool) (name : String) (document : Json) :
    (sampleOutline inspect name document).location = .root := by
  cases document <;> rfl

end Inference

private theorem map_eq_map_of_forall_mem {α β γ : Type} {f : α → β} {g : α → γ} {xs ys : List α}
    (hfg : ∀ x ∈ xs, ∀ y ∈ ys, f x = f y → g x = g y) (h : xs.map f = ys.map f) :
    xs.map g = ys.map g := by
  induction xs generalizing ys with
  | nil =>
    cases ys with
    | nil => rfl
    | cons y ys => cases h
  | cons x xs ih =>
    cases ys with
    | nil => cases h
    | cons y ys =>
      obtain ⟨hhead, htail⟩ := List.cons.inj h
      have hx := hfg x List.mem_cons_self y List.mem_cons_self hhead
      have hxs := ih (fun a ha b hb => hfg a (.tail x ha) b (.tail y hb)) htail
      rw [List.map_cons, List.map_cons, hx, hxs]

/-- The source tells the tree: trees inferred from any two samples that have one source, written
with one width, are the same tree, whatever the keys hold and the classes are called. -/
theorem model_eq_of_source_eq {a b : Json} {nameA nameB text : String}
    {settingsA settingsB settings settings' : Settings} {m n : Model} (wa : a.WellFormed)
    (wb : b.WellFormed) (ha : infer a nameA settingsA = .ok m)
    (hb : infer b nameB settingsB = .ok n)
    (hw : settings.indentWidth = settings'.indentWidth) (hm : m.render settings = .ok text)
    (hn : n.render settings' = .ok text) : m = n := by
  have hrows := Model.map_classRows_of_render hw hm hn
  have hrm := Inference.regular_of_infer ha
  have hrn := Inference.regular_of_infer hb
  obtain ⟨-, -, rfl⟩ := (Inference.infer_eq_ok_iff a nameA settingsA m).mp ha
  obtain ⟨-, -, rfl⟩ := (Inference.infer_eq_ok_iff b nameB settingsB n).mp hb
  have hsignatures := map_eq_map_of_forall_mem (g := Model.signature)
    (fun k hk l hl => Model.signature_eq_of_classRows (hrm k hk) (hrn l hl)
      (Inference.nodup_keys_of_mem_preorder wa hk) (Inference.nodup_keys_of_mem_preorder wb hl))
    hrows
  have hroot := (Inference.location_sampleOutline settingsA.inspectArrays nameA a).trans
    (Inference.location_sampleOutline settingsB.inspectArrays nameB b).symm
  exact (Model.eq_of_signatures _ _ [] [] (fun k => Inference.placed_of_mem_preorder)
    (fun k => Inference.placed_of_mem_preorder) hroot (congrArg (· ++ []) hsignatures)).1

/-- The class of the first member is called as the type of the second is declared, and the key of
the second reads as the statement for the first. -/
def imitation (items : List Json) : Json :=
  .object [("value", .object []), ("value = JSONValue(json:json[\"value\"])", .array items)]

theorem model_of_imitation : ∃ m n text,
    infer (imitation []) "JSON" ⟨true, 4⟩ = .ok m ∧
      infer (imitation [.null]) "JSON" ⟨false, 4⟩ = .ok n ∧
      m.fields.map (fun field => field.type.declaration) = ["JSONValue", "JSONValue"] ∧
      m.render ⟨true, 0⟩ = .ok text ∧ n.render ⟨false, 0⟩ = .ok text ∧ m = n := by
  have hw (items : List Json) : (imitation items).WellFormed ↔ Json.WellFormedItems items := by
    simp [imitation, Json.WellFormed, Json.WellFormedMembers]
  have wa : (imitation []).WellFormed := (hw []).mpr trivial
  have wb : (imitation [.null]).WellFormed := (hw [.null]).mpr ⟨trivial, trivial⟩
  have ha : infer (imitation []) "JSON" ⟨true, 4⟩ =
      .ok (Inference.sampleOutline true "JSON" (imitation [])) := rfl
  have hb : infer (imitation [.null]) "JSON" ⟨false, 4⟩ =
      .ok (Inference.sampleOutline true "JSON" (imitation [])) := rfl
  have hr (inspect : Bool) : Model.render _ ⟨inspect, 0⟩ = .ok _ := Model.render_eq_ok_iff.mpr
    ⟨fun l hl => ⟨Inference.unbroken_of_infer ha l hl, .inr (by simp)⟩, String.toList_ofList⟩
  exact ⟨_, _, _, ha, hb, rfl, hr true, hr false,
    model_eq_of_source_eq wa wb ha hb rfl (hr true) (hr false)⟩

end SampleModels
