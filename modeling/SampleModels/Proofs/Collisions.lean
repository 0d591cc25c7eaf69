import SampleModels.Proofs.ClassNames
import SampleModels.Proofs.Locations
import SampleModels.Proofs.NameRequests

/-!
# Collisions

Every step down a walk makes the name longer, so a name never meets that of an object around it.
Two places that claim one name lie side by side in the sample, the one that came first in front.
Of the requests that a registry serves by itself, any two can collide.
-/

namespace SampleModels

/-- The name of a nested model is longer than that of the model around it. -/
theorem length_lt_nestedName {key : String} (h : key ≠ "") (parent : String) :
    parent.length < (nestedName parent key).length := by
  unfold nestedName
  cases hk : key.toList with
  | nil => exact absurd (String.toList_eq_nil_iff.mp hk) h
  | cons c rest =>
    have hc : 0 < (Text.uppercase c).length := List.length_pos_of_ne_nil (Text.uppercase_ne_nil c)
    simp only [String.length_append, String.length_ofList, List.length_append]
    omega

theorem length_le_nestedName (parent key : String) :
    parent.length ≤ (nestedName parent key).length := by
  by_cases h : key = ""
  · subst h
    exact Nat.le_refl _
  · exact Nat.le_of_lt (length_lt_nestedName h parent)

namespace Inference

theorem length_le_of_reaches {inspect : Bool} {o inside : Entry}
    (h : Entry.Reaches inspect o inside) : o.name.length ≤ inside.name.length := by
  induction h with
  | refl => exact Nat.le_refl _
  | tail _ he ih =>
    obtain ⟨key, value, -, hname, -⟩ := he
    exact hname ▸ Nat.le_trans ih (length_le_nestedName _ key)

theorem length_le_parent {inspect : Bool} {name : String} {location : Pointer}
    {members : List (String × Json)} {v : Visit} (hv : v ∈ visits inspect name location members) :
    name.length ≤ v.parent.length := by
  obtain ⟨o, key, value, hr, -, rfl⟩ := exists_entry_of_mem_visits hv
  exact length_le_of_reaches hr

/-- Of two places at different keys of one object neither lies inside the other. -/
theorem Under.apart {location place other : Pointer} {key k : String}
    (h : Under location key place) (ho : Under location k other) (hne : key ≠ k) :
    ¬ place.tokens <+: other.tokens := fun hp => hne ((h.extend hp).key_unique ho)

/-- What a visit finds when another came before it: it lies not around the other, and where it lies
inside the other, its model is inside the one entered there. -/
def Follows (u v : Visit) : Prop :=
  ¬ v.location.tokens <+: u.location.tokens ∧
    (u.location.tokens <+: v.location.tokens → u.typeName.length ≤ v.parent.length)

theorem follows_of_under {location : Pointer} {key k : String} {u v : Visit}
    (hu : Under location key u.location) (hv : Under location k v.location) (hne : key ≠ k) :
    Follows u v :=
  ⟨hv.apart hu hne.symm, fun hp => absurd hp (hu.apart hv hne)⟩

/-- What is visited inside the object entered at a member lies strictly inside the member, in a
model named after it. -/
theorem follows_of_mem_visitsAt {inspect : Bool} {name key : String} {location : Pointer}
    {value : Json} {v : Visit}
    (hv : v ∈ visitsAt inspect (nestedName name key) (location.child key) value) :
    Under location key v.location ∧
      ∀ entered, Follows ⟨name, key, location.child key, entered⟩ v := by
  rw [visitsAt_eq] at hv
  cases h : entered? inspect (location.child key) value with
  | none =>
    rw [h] at hv
    cases hv
  | some entry =>
    obtain ⟨place, below⟩ := entry
    rw [h] at hv
    obtain ⟨k, -, hk⟩ := under_of_mem_visits hv
    have hplace := under_of_entered h
    refine ⟨hplace.trans hk, fun _ => ⟨fun hp => ?_, fun _ => length_le_parent hv⟩⟩
    obtain ⟨more, hplace⟩ := hplace
    obtain ⟨rest, hk⟩ := hk
    have hlength := hp.length_le
    rw [hk, hplace] at hlength
    simp only [Pointer.child, Pointer.push, Segment.token, List.length_append, List.length_cons,
      List.length_nil] at hlength
    omega

/-- A later visit follows each earlier one, since what comes after a member and what is inside it
lies at other keys of the object. -/
theorem pairwise_visits (inspect : Bool) (name : String) (location : Pointer)
    {members : List (String × Json)} (hw : (Json.object members).WellFormed) :
    (visits inspect name location members).Pairwise Follows := by
  induction members using members_induction inspect generalizing name location with
  | nil => exact .nil
  | cons key value rest inside ih =>
    rw [Json.WellFormed, Json.WellFormedMembers, List.map_cons, List.nodup_cons] at hw
    obtain ⟨⟨hkey, hkeys⟩, hvalue, hrest⟩ := hw
    have tail := ih name location (by rw [Json.WellFormed]; exact ⟨hkeys, hrest⟩)
    have head : (visitsAt inspect (nestedName name key) (location.child key) value).Pairwise
        Follows := by
      rw [visitsAt_eq]
      cases h : entered? inspect (location.child key) value with
      | none => exact .nil
      | some entry =>
        obtain ⟨place, below⟩ := entry
        exact inside _ _ _ h (nestedName name key) place (wellFormed_of_entered hvalue h)
    have across : ∀ u, Under location key u.location →
        ∀ v ∈ visits inspect name location rest, Follows u v := by
      intro u hu v hv
      obtain ⟨k, hk, hv⟩ := under_of_mem_visits hv
      refine follows_of_under hu hv ?_
      rintro rfl
      exact hkey hk
    rw [visits_cons, List.cons_append, List.pairwise_cons, List.pairwise_append]
    refine ⟨fun v hv => ?_, head, tail,
      fun u hu => across u (follows_of_mem_visitsAt hu).1⟩
    rcases List.mem_append.mp hv with hv | hv
    · exact (follows_of_mem_visitsAt hv).2 _
    · exact across _ (under_child location key) v hv

theorem pairwise_sampleVisits (inspect : Bool) (name : String) {document : Json}
    (hw : document.WellFormed) : (sampleVisits inspect name document).Pairwise Follows := by
  cases document with
  | object members => exact pairwise_visits inspect name .root hw
  | _ => exact .nil

theorem length_le_parent_of_mem_sampleVisits {inspect : Bool} {name : String} {document : Json}
    {v : Visit} (hv : v ∈ sampleVisits inspect name document) : name.length ≤ v.parent.length := by
  cases document with
  | object members => exact length_le_parent hv
  | _ => cases hv

/-- The place is that of a member of some object, and an object is entered there: the member itself
or, where arrays are inspected, the first element of it. -/
def EntersAt (inspect : Bool) (document : Json) (place : Pointer) : Prop :=
  ∃ (outer : Pointer) (key : String) (members : List (String × Json)) (value : Json),
    place = outer.child key ∧ outer.resolve? document = some (.object members) ∧
    (key, value) ∈ members ∧
    (Pointer.ofText? place.text).bind (·.resolve? document) = some value ∧
    ((∃ below, value = .object below) ∨
      inspect = true ∧ ∃ below rest, value = .array (.object below :: rest))

theorem entersAt_of_mem_sampleVisits {inspect : Bool} {name : String} {document : Json} {v : Visit}
    (hw : document.WellFormed) (hv : v ∈ sampleVisits inspect name document) (he : v.entered) :
    EntersAt inspect document v.location := by
  cases document with
  | object members =>
    obtain ⟨o, key, value, hr, hm, rfl⟩ := exists_entry_of_mem_visits hv
    have hroot : Entry.Found (.object members) ⟨name, .root, members⟩ := ⟨rfl, hw⟩
    have hfound := hroot.reaches hr
    refine ⟨o.location, key, o.members, value, rfl, hfound.1, hm, ?_, ?_⟩
    · rw [Pointer.ofText?_text, Option.bind_some]
      exact (hfound.resolve?_child hm).1
    · obtain ⟨⟨place, below⟩, h⟩ := Option.isSome_iff_exists.mp he
      rcases entered?_cases h with ⟨rfl, -⟩ | ⟨rest, hi, rfl, -⟩
      · exact .inl ⟨below, rfl⟩
      · exact .inr ⟨hi, below, rest, rfl⟩
  | _ => cases hv

/-- A collision is that of a visited member with the root or with a member visited before. -/
theorem collision_cases {rootName name : String} {before : List Visit} {v : Visit}
    {first second : Pointer} (hc : Clean rootName before)
    (h : v.fault? (claims rootName before) = some (.typeNameCollision name first second)) :
    v.defect? = none ∧ v.entered ∧ name = v.typeName ∧ second = v.location ∧
      (name = rootName ∨
        ∃ u ∈ before, u.entered ∧ name = u.typeName ∧ first = u.location) := by
  unfold Visit.fault? at h
  cases hd : v.defect? with
  | some defect => simp [hd] at h
  | none =>
    rw [hd] at h
    obtain ⟨⟨claimed, place⟩, hclaim, h⟩ := Option.bind_eq_some_iff.mp h
    obtain ⟨earlier, hl, hfault⟩ := Option.map_eq_some_iff.mp h
    cases hfault
    obtain ⟨he, hentry⟩ := Option.ite_none_right_eq_some.mp hclaim
    cases hentry
    refine ⟨rfl, he, rfl, rfl, ?_⟩
    rw [Association.lookup_eq_some_iff_mem (nodup_claims hc), claims, List.mem_cons] at hl
    rcases hl with heq | hl
    · exact .inl (Prod.mk.inj heq).1
    · obtain ⟨u, hu, hclaim⟩ := List.mem_filterMap.mp hl
      obtain ⟨hue, hentry⟩ := Option.ite_none_right_eq_some.mp hclaim
      obtain ⟨hname, hplace⟩ := Prod.mk.inj (Option.some.inj hentry)
      exact .inr ⟨u, hu, hue, hname.symm, hplace.symm⟩

/-- Of two visits that ask for one name, the first does not lie around the second. -/
theorem Follows.not_within {u v : Visit} (h : Follows u v) (hk : v.key ≠ "")
    (hname : u.typeName = v.typeName) : ¬ u.location.tokens <+: v.location.tokens := by
  intro hp
  have hparent := h.2 hp
  have hlonger : v.parent.length < v.typeName.length := length_lt_nestedName hk v.parent
  rw [hname] at hparent
  omega

theorem typeName_ne_rootName {inspect : Bool} {rootName : String} {document : Json} {v : Visit}
    (hv : v ∈ sampleVisits inspect rootName document) (hk : v.key ≠ "") :
    v.typeName ≠ rootName := by
  intro hname
  have hparent := length_le_parent_of_mem_sampleVisits hv
  have hlonger : v.parent.length < v.typeName.length := length_lt_nestedName hk v.parent
  rw [hname] at hlonger
  omega

theorem follows_of_split {inspect : Bool} {name : String} {document : Json}
    {before after : List Visit} {u v : Visit} (hw : document.WellFormed)
    (hsplit : sampleVisits inspect name document = before ++ v :: after) (hu : u ∈ before) :
    Follows u v ∧ [u.location, v.location].Sublist (document.places .root) := by
  have hpairs := pairwise_sampleVisits inspect name hw
  have hplaces := sampleVisits_sublist inspect name document
  rw [hsplit] at hpairs hplaces
  refine ⟨(List.pairwise_append.mp hpairs).2.2 u hu v List.mem_cons_self, .trans ?_ hplaces⟩
  rw [List.map_append, List.map_cons]
  exact (List.singleton_sublist.mpr (List.mem_map_of_mem hu)).append
    (List.Sublist.cons_cons _ (List.nil_sublist _))

/-- In a sample only members side by side collide. No model takes the name of the root, of a model
around it, or of one inside it, though nothing keeps bare requests from asking for these. -/
theorem collision_between_separate_members {document : Json} {rootName name : String}
    {settings : Settings} {first second : Pointer} (hw : document.WellFormed)
    (h : infer document rootName settings = .error (.typeNameCollision name first second)) :
    name ≠ rootName ∧ first ≠ second ∧ first ≠ .root ∧ second ≠ .root ∧
      EntersAt settings.inspectArrays document first ∧
      EntersAt settings.inspectArrays document second ∧
      [first, second].Sublist (document.places .root) ∧ (document.places .root).Nodup ∧
      ¬ first.tokens <+: second.tokens ∧ ¬ second.tokens <+: first.tokens ∧
      ∀ r s : IssuedNames.Request, r.name? = some name → s.name? = some name →
        (IssuedNames.none.serveAll [r, s]).map Prod.fst =
          [.ok name, .error (.typeNameCollision name r.location s.location)] := by
  rw [infer_eq_error_iff] at h
  split at h
  · obtain ⟨before, v, after, hsplit, hc, hfault⟩ := h
    obtain ⟨hd, he, rfl, rfl, hfirst⟩ := collision_cases hc hfault
    have hv : v ∈ sampleVisits settings.inspectArrays rootName document := by simp [hsplit]
    have hroot := typeName_ne_rootName hv (key_ne_empty hd he)
    rcases hfirst with hname | ⟨u, hu, hue, hname, rfl⟩
    · exact absurd hname hroot
    · have hmem : u ∈ sampleVisits settings.inspectArrays rootName document := by simp [hsplit, hu]
      obtain ⟨hfollows, hsub⟩ := follows_of_split hw hsplit hu
      have hapart := hfollows.not_within (key_ne_empty hd he) hname.symm
      refine ⟨hroot, ?_, ?_, ?_, entersAt_of_mem_sampleVisits hw hmem hue,
        entersAt_of_mem_sampleVisits hw hv he, hsub, nodup_places .root hw, hapart, hfollows.1, ?_⟩
      · rintro heq
        exact hapart (heq ▸ List.prefix_rfl)
      · rintro heq
        exact hapart (heq ▸ List.nil_prefix)
      · rintro heq
        exact hfollows.1 (heq ▸ List.nil_prefix)
      · intro r s hr hs
        exact IssuedNames.serveAll_same_name hr hs (isIdentifier_typeName hd he)
  · cases h

/-- The two ways of cutting `AB` are side by side, one of them in an inspected array. -/
theorem collision_of_two_cuts :
    let document : Json := .object [("aB", .object []), ("a", .array [.object [("b", .object [])]])]
    document.WellFormed ∧
      infer document "Order" ⟨true, 4⟩ =
        .error (.typeNameCollision "OrderAB" ⟨["aB"]⟩ ⟨["a", "0", "b"]⟩) ∧
      [Pointer.mk ["aB"], ⟨["a", "0", "b"]⟩].Sublist (document.places .root) ∧
      (IssuedNames.none.serveAll [.root "OrderAB", .nested "Order" "aB" ⟨["aB"]⟩]).map Prod.fst =
        [.ok "OrderAB", .error (.typeNameCollision "OrderAB" .root ⟨["aB"]⟩)] := by
  intro document
  have hw : document.WellFormed := by
    simp [document, Json.WellFormed, Json.WellFormedMembers, Json.WellFormedItems]
  have h : infer document "Order" ⟨true, 4⟩ =
      .error (.typeNameCollision "OrderAB" ⟨["aB"]⟩ ⟨["a", "0", "b"]⟩) := rfl
  obtain ⟨-, -, -, -, -, -, hsub, -, -, -, hbare⟩ := collision_between_separate_members hw h
  exact ⟨hw, h, hsub, hbare (.root "OrderAB") (.nested "Order" "aB" ⟨["aB"]⟩) rfl rfl⟩

end Inference

end SampleModels
