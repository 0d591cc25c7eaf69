import SampleModels.Proofs.ClassNames
import SampleModels.Proofs.Layout.Width
import SampleModels.Proofs.Locations
import SampleModels.Proofs.Walk.Renaming

/-!
# Models inside a tree

What a tree holds below one of its models does not depend on the rest of the sample. The value that
the model was made of, taken as a sample of its own, gives the same models with shorter locations,
and its source stands in that of the whole sample as a run of classes.
-/

namespace SampleModels

namespace Pointer

/-- The place that is reached by `q` from `p`. -/
def append (p q : Pointer) : Pointer := ⟨p.tokens ++ q.tokens⟩

theorem text_append (p q : Pointer) : (p.append q).text = p.text ++ q.text := by
  simp [text, chars, append]

end Pointer

theorem Field.mapName_id (field : Field) : field.mapName id = field := by
  obtain ⟨key, type⟩ := field
  cases type with
  | list element => cases element <;> rfl
  | _ => rfl

theorem Statement.mapName_id (s : Statement) : s.mapName id = s := by
  cases s with
  | list key element => cases element <;> rfl
  | _ => rfl

namespace Model

mutual

/-- The models below a model of a tree follow it in the order of the tree. -/
theorem preorder_isInfix : ∀ (m n : Model), n ∈ m.preorder → n.preorder <:+: m.preorder
  | ⟨name, location, fields, initializer, children⟩, n, h => by
    rw [preorder, List.mem_cons] at h
    rcases h with rfl | h
    · exact List.infix_rfl
    · rw [preorder]
      exact (preorderAll_isInfix children n h).trans (List.suffix_cons _ _).isInfix

theorem preorderAll_isInfix : ∀ (ms : List Model) (n : Model),
    n ∈ preorderAll ms → n.preorder <:+: preorderAll ms
  | [], n, h => by
    rw [preorderAll] at h
    cases h
  | m :: rest, n, h => by
    rw [preorderAll, List.mem_append] at h
    rw [preorderAll]
    rcases h with h | h
    · exact (preorder_isInfix m n h).trans (List.prefix_append _ _).isInfix
    · exact (preorderAll_isInfix rest n h).trans (List.suffix_append _ _).isInfix

end

/-- The tree with every location taken from `base` on. -/
def relocate (base : Pointer) (m : Model) : Model := m.map id base.append

theorem classLines_relocate (base : Pointer) (m : Model) :
    (m.relocate base).classLines = m.classLines := by
  obtain ⟨name, location, fields, initializer, children⟩ := m
  have hf : fields.map (Field.mapName id) = fields :=
    (List.map_congr_left fun field _ => field.mapName_id).trans (List.map_id fields)
  have hs : initializer.map (Statement.mapName id) = initializer :=
    (List.map_congr_left fun s _ => s.mapName_id).trans (List.map_id initializer)
  simp only [relocate, map, classLines, hf, hs, id_eq]

end Model

namespace Inference

theorem commutes_base (base : Pointer) : Commutes id base.append := by
  constructor <;> intros <;> simp [Pointer.child, Pointer.element, Pointer.push, Pointer.append]

theorem model_eq_relocate (inspect : Bool) (o : Entry) :
    o.model inspect =
      (sampleOutline inspect o.name (.object o.members)).relocate o.location := by
  rw [Model.relocate, sampleOutline, ← (commutes_base o.location).outline_map]
  simp [Entry.model, Pointer.append, Pointer.root]

theorem typeNames_relocate (base : Pointer) (m : Model) :
    (m.relocate base).typeNames = m.typeNames := by
  rw [Model.typeNames, Model.relocate, Model.preorder_map, List.map_map]
  refine List.map_congr_left fun k _ => ?_
  obtain ⟨name, location, fields, initializer, children⟩ := k
  simp [Model.map]

/-- What is wrong with a member does not depend on where it stands. -/
theorem defect?_relocate (base : Pointer) (v : Visit) :
    (v.map id base.append).defect? = v.defect? := rfl

/-- A walk that meets no fault in the whole sample meets none in an object that it enters. -/
theorem clean_of_reaches {inspect : Bool} {rootName : String} {members : List (String × Json)}
    {o : Entry} (hr : Entry.Reaches inspect ⟨rootName, .root, members⟩ o)
    (hm : o.model inspect ∈ (sampleOutline inspect rootName (.object members)).preorder)
    (hc : Clean rootName (sampleVisits inspect rootName (.object members))) :
    Clean o.name (sampleVisits inspect o.name (.object o.members)) := by
  rw [clean_iff] at hc ⊢
  constructor
  · intro v hv
    have hmoved : v.map id o.location.append ∈ visits inspect o.name o.location o.members := by
      have hvisits := (commutes_base o.location).visits_map inspect o.name .root o.members
      have hroot : o.location.append .root = o.location := by simp [Pointer.append, Pointer.root]
      rw [id_eq, hroot] at hvisits
      rw [hvisits]
      exact List.mem_map_of_mem hv
    rw [← defect?_relocate o.location v]
    exact hc.1 _ (visits_subset_of_reaches hr hmoved)
  · rw [← typeNames_sampleOutline, ← typeNames_relocate o.location, ← model_eq_relocate]
    rw [← typeNames_sampleOutline] at hc
    exact hc.2.sublist ((Model.preorder_isInfix _ _ hm).sublist.map Model.typeName)

/-- A root that is no object is the only model of its tree, and the sample the value it was made
of. -/
private theorem infer_fieldless {document value : Json} {rootName : String} {settings : Settings}
    {n : Model} (hroot : ∀ members, document ≠ .object members)
    (h : infer document rootName settings =
      .ok (sampleOutline settings.inspectArrays rootName document))
    (hn : n ∈ (sampleOutline settings.inspectArrays rootName document).preorder)
    (hv : n.location.resolve? document = some value) :
    ∃ sub, infer value n.typeName settings = .ok sub ∧ n = sub.relocate n.location := by
  cases document with
  | object members => exact absurd rfl (hroot members)
  | _ =>
    rw [Model.preorder_eq] at hn
    rcases List.mem_cons.mp hn with rfl | hn
    · cases hv
      exact ⟨_, h, rfl⟩
    · cases hn

/-- The value that a model was made of gives the model again, as the root of a tree of its own. -/
theorem infer_of_mem_preorder {document : Json} {rootName : String} {settings : Settings}
    {m n : Model} (hw : document.WellFormed) (h : infer document rootName settings = .ok m)
    (hn : n ∈ m.preorder) {value : Json} (hv : n.location.resolve? document = some value) :
    ∃ sub, infer value n.typeName settings = .ok sub ∧ n = sub.relocate n.location := by
  obtain ⟨hi, hc, hm⟩ := (infer_eq_ok_iff document rootName settings m).mp h
  subst hm
  rcases mem_preorder_cases hn with ⟨members, o, rfl, hr, rfl⟩ | ⟨hroot, -, -, -⟩
  · have hfound : Entry.Found (.object members) ⟨rootName, .root, members⟩ := ⟨rfl, hw⟩
    have hvalue : value = .object o.members :=
      Option.some.inj (hv.symm.trans (hfound.reaches hr).1)
    subst hvalue
    have hname : isIdentifier o.name := by
      refine isIdentifier_of_mem_claims hi hc ?_
      rw [← typeNames_sampleOutline]
      exact List.mem_map_of_mem (f := Model.typeName) hn
    exact ⟨_, (infer_eq_ok_iff _ _ _ _).mpr ⟨hname, clean_of_reaches hr hn hc, rfl⟩,
      model_eq_relocate settings.inspectArrays o⟩
  · exact infer_fieldless hroot h hn hv

end Inference

theorem Model.hasClassText_relocate {width : Nat} (base : Pointer) (m : Model) :
    (m.relocate base).HasClassText width ↔ m.HasClassText width := by
  rw [HasClassText, HasClassText, classLines_relocate]

theorem Model.classText_relocate (width : Nat) (base : Pointer) (m : Model) :
    (m.relocate base).classText width = m.classText width := by
  rw [classText, classText, classLines_relocate]

/-- A tree with other locations has the same source, class by class. -/
theorem Model.render_of_relocate {settings : Settings} {base : Pointer} {sub : Model}
    (h : ∀ k ∈ (sub.relocate base).preorder, k.HasClassText settings.indentWidth) :
    sub.render settings =
      .ok ("\n".intercalate
        ((sub.relocate base).preorder.map (classText settings.indentWidth))) := by
  have hpre : (sub.relocate base).preorder = sub.preorder.map (relocate base) :=
    preorder_map id base.append sub
  rw [hpre] at h ⊢
  rw [render_eq_ok_iff_classText, List.map_map]
  constructor
  · intro k hk
    exact (hasClassText_relocate base k).mp (h _ (List.mem_map_of_mem hk))
  · exact congrArg _ (List.map_congr_left fun k _ => classText_relocate _ base k)

namespace Inference

/-- A model of a tree, with those below it, is what is inferred from the value that it was made of
under its name, with the location of the model in front of all locations. The source of the value is
a run of classes in that of the sample. -/
theorem submodel_stands_alone {document : Json} {rootName : String} {settings : Settings}
    {m n : Model} (hw : document.WellFormed) (h : infer document rootName settings = .ok m)
    (hn : n ∈ m.preorder) {value : Json}
    (hv : (Pointer.ofText? n.location.text).bind (·.resolve? document) = some value) :
    (∃ sub, infer value n.typeName settings = .ok sub ∧ n = sub.relocate n.location ∧
      ∀ k ∈ sub.preorder,
        (n.location.append k.location).text = n.location.text ++ k.location.text) ∧
    ∀ source, generate document rootName settings = .ok source →
      ∃ before run after,
        m.preorder.mapM (fun k => k.alone.render settings) = .ok (before ++ run ++ after) ∧
        n.preorder.mapM (fun k => k.alone.render settings) = .ok run ∧
        source = "\n".intercalate (before ++ run ++ after) ∧
        generate value n.typeName settings = .ok ("\n".intercalate run) := by
  rw [Pointer.ofText?_text, Option.bind_some] at hv
  obtain ⟨sub, hsub, hmoved⟩ := infer_of_mem_preorder hw h hn hv
  refine ⟨⟨sub, hsub, hmoved, fun k _ => Pointer.text_append _ _⟩, ?_⟩
  intro source hsource
  rw [generate_eq_ok_iff h, Model.render_eq_ok_iff_classText] at hsource
  obtain ⟨htexts, rfl⟩ := hsource
  obtain ⟨before, after, hsplit⟩ := Model.preorder_isInfix m n hn
  have hrun : ∀ k ∈ n.preorder, k.HasClassText settings.indentWidth := fun k hk =>
    htexts k (by rw [← hsplit]; simp [hk])
  refine ⟨before.map (Model.classText settings.indentWidth),
    n.preorder.map (Model.classText settings.indentWidth),
    after.map (Model.classText settings.indentWidth), ?_, ?_, ?_, ?_⟩
  · rw [mapM_eq_ok_iff (Model.render_alone_eq_ok_iff settings)]
    exact ⟨htexts, by rw [← hsplit, List.map_append, List.map_append]⟩
  · rw [mapM_eq_ok_iff (Model.render_alone_eq_ok_iff settings)]
    exact ⟨hrun, rfl⟩
  · rw [← hsplit, List.map_append, List.map_append]
  · rw [generate_eq_ok_iff hsub]
    rw [hmoved] at hrun ⊢
    exact Model.render_of_relocate hrun

/-- The items of the order, inferred on their own. -/
theorem items_of_orderSample :
    let items : Json := .object [("sku", .string "x"), ("b", .object [])]
    orderSample.WellFormed ∧ ∃ m n sub source before run after,
      infer orderSample "Order" ⟨true, 4⟩ = .ok m ∧ n ∈ m.preorder ∧
      n.location.text = "/a/items/0" ∧
      (Pointer.ofText? n.location.text).bind (·.resolve? orderSample) = some items ∧
      infer items "OrderAItems" ⟨true, 4⟩ = .ok sub ∧ n = sub.relocate n.location ∧
      generate orderSample "Order" ⟨true, 4⟩ = .ok source ∧
      source = "\n".intercalate (before ++ run ++ after) ∧
      generate items "OrderAItems" ⟨true, 4⟩ = .ok ("\n".intercalate run) := by
  intro items
  have hw := wellFormed_orderSample
  have h : infer orderSample "Order" ⟨true, 4⟩ = .ok (sampleOutline true "Order" orderSample) := rfl
  have hn : outline true "OrderAItems" ⟨["a", "items", "0"]⟩
      [("sku", .string "x"), ("b", .object [])] ∈
        (sampleOutline true "Order" orderSample).preorder :=
    List.mem_of_getElem? (i := 3) rfl
  have hv : (Pointer.ofText? (Pointer.text ⟨["a", "items", "0"]⟩)).bind
      (·.resolve? orderSample) = some items := by
    rw [Pointer.ofText?_text]
    change (Json.element? [items, .null] (Segment.token (.index 0))).bind _ = _
    rw [Json.element?_zero]
    rfl
  obtain ⟨source, hsource⟩ :=
    (@Model.exists_render_iff_deepestLevel _ ⟨true, 4⟩ (unbroken_of_infer h)).mpr (by decide)
  rw [← generate_eq_ok_iff h] at hsource
  obtain ⟨⟨sub, hsub, hmoved, -⟩, hrun⟩ := submodel_stands_alone hw h hn hv
  obtain ⟨before, run, after, -, -, hjoined, hitems⟩ := hrun source hsource
  exact ⟨hw, _, _, sub, source, before, run, after, h, hn, rfl, hv, hsub, hmoved, hsource, hjoined,
    hitems⟩

end Inference

end SampleModels
