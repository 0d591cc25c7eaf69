import Mathlib.Data.List.Induction
import SampleModels.Association
import SampleModels.Proofs.Failure
import SampleModels.Proofs.Walk.Visits

/-!
# How a walk ends

The walk ends with the fault of the first member at fault, and succeeds when there is none. Up to
there the registry holds the root's name and the names claimed at the visited members, each once.
-/

namespace SampleModels.Inference

/-- The names claimed in a run up to some point, the root's in front. -/
def claims (rootName : String) (visited : List Visit) : List (String × Pointer) :=
  (rootName, .root) :: visited.filterMap Visit.claim?

/-- None of the visited members is at fault after those before it. -/
def Clean (rootName : String) (visited : List Visit) : Prop :=
  ∀ before v after, visited = before ++ v :: after → v.fault? (claims rootName before) = none

/-- Visiting a member ends the walk with its fault, and otherwise adds its claim. -/
theorem Visit.serve_eq (v : Visit) (names : IssuedNames) :
    v.serve names =
      match v.fault? names.entries with
      | some fault => .error fault
      | none => .ok ⟨v.claim?.toList ++ names.entries⟩ := by
  obtain ⟨parent, key, location, entered⟩ := v
  simp only [serve, fault?, defect?, claim?, typeName, checkKey, IssuedNames.derive_eq]
  by_cases hc : key.toList.any Text.isControl
  · simp [hc, bind, Except.bind]
  · cases entered with
    | false => simp [hc, bind, Except.bind]
    | true =>
      by_cases hk : key = ""
      · simp [hk, bind, Except.bind, Except.map]
      · by_cases hi : isIdentifier (nestedName parent key)
        · cases hl : names.entries.lookup (nestedName parent key) <;>
            simp [hc, hk, hi, hl, bind, Except.bind, Except.map, IssuedNames.claim,
              IssuedNames.find?]
        · simp [hc, hk, hi, bind, Except.bind, Except.map]

theorem clean_nil (rootName : String) : Clean rootName [] := by
  intro before v after h
  simp at h

/-- A run is clean when it is up to its last visit and that one is at no fault. Wherever the run is
split, its last visit is the one split at or the last one after it. -/
theorem clean_concat (rootName : String) (visited : List Visit) (v : Visit) :
    Clean rootName (visited ++ [v]) ↔
      Clean rootName visited ∧ v.fault? (claims rootName visited) = none := by
  constructor
  · intro h
    refine ⟨fun before w after hw => h before w (after ++ [v]) ?_, h visited v [] rfl⟩
    simp [hw]
  · rintro ⟨h, hv⟩ before w after hw
    rcases List.eq_nil_or_concat after with rfl | ⟨rest, last, rfl⟩
    · obtain ⟨rfl, hwv⟩ := List.append_inj' hw rfl
      cases hwv
      exact hv
    · rw [List.concat_eq_append, ← List.cons_append, ← List.append_assoc] at hw
      exact h before w rest (List.append_inj' hw rfl).1

theorem claims_concat (rootName : String) (visited : List Visit) (v : Visit) :
    claims rootName (visited ++ [v]) = claims rootName visited ++ v.claim?.toList := by
  cases h : v.claim? <;> simp [claims, h]

theorem Visit.not_mem_of_fault {claimed : List (String × Pointer)} {v : Visit}
    (h : v.fault? claimed = none) {name : String} {location : Pointer}
    (hv : v.claim? = some (name, location)) : name ∉ claimed.map Prod.fst := by
  unfold Visit.fault? at h
  cases hd : v.defect? with
  | some defect => simp [hd] at h
  | none =>
    simp only [hd, hv, Option.bind_some, Option.map_eq_none_iff] at h
    exact (Association.lookup_eq_none_iff_notMem claimed name).mp h

theorem nodup_claims {rootName : String} {visited : List Visit} (h : Clean rootName visited) :
    ((claims rootName visited).map Prod.fst).Nodup := by
  induction visited using List.reverseRecOn with
  | nil => simp [claims]
  | append_singleton before v ih =>
    obtain ⟨hb, hv⟩ := (clean_concat rootName before v).mp h
    rw [claims_concat, List.map_append]
    cases hc : v.claim? with
    | none => simpa using ih hb
    | some claim =>
      obtain ⟨name, location⟩ := claim
      have hn := Visit.not_mem_of_fault hv hc
      rw [List.nodup_append]
      refine ⟨ih hb, by simp, ?_⟩
      rintro a ha b hb' rfl
      simp only [Option.toList_some, List.map_cons, List.map_nil, List.mem_singleton] at hb'
      exact hn (hb' ▸ ha)

theorem Visit.fault?_reverse {claimed : List (String × Pointer)}
    (h : (claimed.map Prod.fst).Nodup) (v : Visit) :
    v.fault? claimed.reverse = v.fault? claimed := by
  unfold Visit.fault?
  simp only [Association.lookup_reverse h]

theorem Clean.defect?_eq_none {rootName : String} {visited : List Visit}
    (h : Clean rootName visited) {v : Visit} (hv : v ∈ visited) : v.defect? = none := by
  obtain ⟨before, after, rfl⟩ := List.append_of_mem hv
  have hf := h before v after rfl
  unfold Visit.fault? at hf
  cases hd : v.defect? with
  | none => rfl
  | some defect => simp [hd] at hf

theorem Visit.fault?_eq_none {claimed : List (String × Pointer)} {v : Visit}
    (hd : v.defect? = none)
    (hc : ∀ claim, v.claim? = some claim → claim.1 ∉ claimed.map Prod.fst) :
    v.fault? claimed = none := by
  rw [Visit.fault?, hd]
  cases h : v.claim? with
  | none => rfl
  | some claim =>
    simp only [Option.bind_some, Option.map_eq_none_iff]
    exact (Association.lookup_eq_none_iff_notMem claimed claim.1).mpr (hc claim h)

/-- Whether a run meets no fault can be told without following it: no member has a defect, and no
name is claimed twice. -/
theorem clean_iff (rootName : String) (visited : List Visit) :
    Clean rootName visited ↔
      (∀ v ∈ visited, v.defect? = none) ∧ ((claims rootName visited).map Prod.fst).Nodup := by
  refine ⟨fun h => ⟨fun v hv => h.defect?_eq_none hv, nodup_claims h⟩, ?_⟩
  rintro ⟨hd, hn⟩ before v after rfl
  refine Visit.fault?_eq_none (hd v (by simp)) fun claim hc hmem => ?_
  have hsplit : claims rootName (before ++ v :: after) =
      claims rootName before ++ claim :: after.filterMap Visit.claim? := by
    simp [claims, hc]
  rw [hsplit, List.map_append, List.map_cons] at hn
  exact (List.nodup_append.mp hn).2.2 _ hmem _ List.mem_cons_self rfl

/-- The registry after the claims of a run, the latest in front. -/
def registry (rootName : String) (visited : List Visit) : IssuedNames :=
  ⟨(claims rootName visited).reverse⟩

theorem claimRoot_none (rootName : String) :
    IssuedNames.none.claimRoot rootName =
      if isIdentifier rootName then .ok (registry rootName [])
      else .error (.invalidTypeName rootName) := rfl

theorem serve_registry {rootName : String} {before : List Visit} (h : Clean rootName before)
    (v : Visit) :
    v.serve (registry rootName before) =
      match v.fault? (claims rootName before) with
      | some fault => .error fault
      | none => .ok (registry rootName (before ++ [v])) := by
  rw [Visit.serve_eq, registry, Visit.fault?_reverse (nodup_claims h)]
  cases v.fault? (claims rootName before) with
  | some fault => rfl
  | none => cases hc : v.claim? <;> simp [registry, claims_concat, hc]

theorem serve_visits_ok_iff (rootName : String) (visited : List Visit) (names : IssuedNames) :
    visited.foldlM Visit.serve (registry rootName []) = .ok names ↔
      Clean rootName visited ∧ names = registry rootName visited := by
  induction visited using List.reverseRecOn generalizing names with
  | nil => simp [clean_nil, pure, Except.pure, eq_comm]
  | append_singleton before v ih =>
    rw [List.foldlM_append, clean_concat]
    cases hb : before.foldlM Visit.serve (registry rootName []) with
    | error fault =>
      have hd : ¬ Clean rootName before := by
        intro hc
        simpa [hb] using (ih _).mpr ⟨hc, rfl⟩
      simp [hd, bind, Except.bind]
    | ok served =>
      obtain ⟨hc, rfl⟩ := (ih served).mp hb
      simp only [bind, Except.bind, List.foldlM_cons, List.foldlM_nil, serve_registry hc, hc,
        true_and]
      cases v.fault? (claims rootName before) <;> simp [pure, Except.pure, eq_comm]

theorem serve_visits_error_iff (rootName : String) (visited : List Visit) (fault : Fault) :
    visited.foldlM Visit.serve (registry rootName []) = .error fault ↔
      ∃ before v after, visited = before ++ v :: after ∧ Clean rootName before ∧
        v.fault? (claims rootName before) = some fault := by
  rw [foldlM_eq_error_iff]
  constructor
  · rintro ⟨before, v, after, names, hv, hb, hf⟩
    obtain ⟨hc, rfl⟩ := (serve_visits_ok_iff rootName before names).mp hb
    refine ⟨before, v, after, hv, hc, ?_⟩
    rw [serve_registry hc] at hf
    cases h : v.fault? (claims rootName before) <;> simp_all
  · rintro ⟨before, v, after, hv, hc, hf⟩
    refine ⟨before, v, after, registry rootName before, hv,
      (serve_visits_ok_iff rootName before _).mpr ⟨hc, rfl⟩, ?_⟩
    rw [serve_registry hc, hf]

theorem infer_eq (document : Json) (rootName : String) (settings : Settings) :
    infer document rootName settings =
      if isIdentifier rootName then
        ((sampleVisits settings.inspectArrays rootName document).foldlM Visit.serve
          (registry rootName [])).map fun _ =>
            sampleOutline settings.inspectArrays rootName document
      else .error (.invalidTypeName rootName) := by
  unfold infer inferLogged
  rw [claimRoot_none]
  by_cases hi : isIdentifier rootName
  · simp only [hi, if_true, snd_sample]
    cases (sampleVisits settings.inspectArrays rootName document).foldlM Visit.serve
      (registry rootName []) <;> rfl
  · simp only [hi]
    rfl

theorem infer_eq_ok_iff (document : Json) (rootName : String) (settings : Settings) (m : Model) :
    infer document rootName settings = .ok m ↔
      isIdentifier rootName ∧
        Clean rootName (sampleVisits settings.inspectArrays rootName document) ∧
        m = sampleOutline settings.inspectArrays rootName document := by
  rw [infer_eq]
  by_cases hi : isIdentifier rootName
  · simp only [hi, if_true, true_and]
    constructor
    · intro h
      cases hs : (sampleVisits settings.inspectArrays rootName document).foldlM Visit.serve
          (registry rootName []) with
      | error fault => simp [hs, Except.map] at h
      | ok names =>
        simp only [hs, Except.map, Except.ok.injEq] at h
        exact ⟨((serve_visits_ok_iff _ _ _).mp hs).1, h.symm⟩
    · rintro ⟨hc, rfl⟩
      rw [(serve_visits_ok_iff _ _ _).mpr ⟨hc, rfl⟩]
      rfl
  · simp [hi]

theorem infer_eq_error_iff (document : Json) (rootName : String) (settings : Settings)
    (fault : Fault) :
    infer document rootName settings = .error fault ↔
      if isIdentifier rootName then
        ∃ before v after,
          sampleVisits settings.inspectArrays rootName document = before ++ v :: after ∧
            Clean rootName before ∧ v.fault? (claims rootName before) = some fault
      else fault = .invalidTypeName rootName := by
  rw [infer_eq]
  by_cases hi : isIdentifier rootName
  · simp only [hi, if_true]
    rw [← serve_visits_error_iff]
    cases (sampleVisits settings.inspectArrays rootName document).foldlM Visit.serve
      (registry rootName []) <;> simp [Except.map]
  · simp [hi, eq_comm]

/-- Only the name of the root is refused as a type name. -/
theorem infer_eq_invalidTypeName_iff (document : Json) (rootName : String) (settings : Settings)
    (name : String) :
    infer document rootName settings = .error (.invalidTypeName name) ↔
      isIdentifier rootName = false ∧ name = rootName := by
  rw [infer_eq_error_iff]
  by_cases hi : isIdentifier rootName
  · simp only [hi, if_true, Bool.true_eq_false, false_and, iff_false, not_exists, not_and]
    intro before v after _ _ hfault
    unfold Visit.fault? at hfault
    cases hd : v.defect? with
    | some defect => simp [hd] at hfault
    | none =>
      rw [hd] at hfault
      obtain ⟨claim, -, hclaim⟩ := Option.bind_eq_some_iff.mp hfault
      obtain ⟨first, -, hfault⟩ := Option.map_eq_some_iff.mp hclaim
      cases hfault
  · simp [hi]

/-- The exact failure law of inference: a root name that is no identifier is refused, and otherwise
the first visited member at fault decides. -/
theorem infer_stops_at_first_offence (document : Json) (rootName : String) (settings : Settings) :
    (∀ fault, infer document rootName settings = .error fault ↔
      if isIdentifier rootName then
        ∃ before v after,
          sampleVisits settings.inspectArrays rootName document = before ++ v :: after ∧
            Clean rootName before ∧ v.fault? (claims rootName before) = some fault
      else fault = .invalidTypeName rootName) ∧
    ((∃ m, infer document rootName settings = .ok m) ↔
      isIdentifier rootName ∧
        Clean rootName (sampleVisits settings.inspectArrays rootName document)) ∧
    [KeyDefect.controlCharacter, .empty, .notIdentifier].map KeyDefect.message =
      ["key contains a control character", "key is empty",
        "derived type name is not an identifier"] := by
  refine ⟨infer_eq_error_iff document rootName settings, ?_, rfl⟩
  constructor
  · rintro ⟨m, hm⟩
    obtain ⟨hi, hc, -⟩ := (infer_eq_ok_iff document rootName settings m).mp hm
    exact ⟨hi, hc⟩
  · rintro ⟨hi, hc⟩
    exact ⟨_, (infer_eq_ok_iff document rootName settings _).mpr ⟨hi, hc, rfl⟩⟩

/-- A sample with objects in objects and in an inspected array, an array of arrays, and keys that
only a field may have. -/
def orderSample : Json :=
  .object [("id", .number "1"), ("aB", .object [("0", .null)]),
    ("a", .object [("items", .array [.object [("sku", .string "x"), ("b", .object [])], .null])]),
    ("", .bool true), ("~/", .array [.array []])]

theorem wellFormed_orderSample : orderSample.WellFormed := by
  simp [orderSample, Json.WellFormed, Json.WellFormedMembers, Json.WellFormedItems]

end SampleModels.Inference
