import Mathlib.Data.List.Induction
import SampleModels.Association
import SampleModels.Proofs.IssuedNames

/-!
# Runs of requests for names

Requests may come in any order, from any parent, and for any number of roots. The names granted
earlier in the run decide the answer to the next request, and the registry holds just these, so a
refused request can be left out of the run.
-/

namespace SampleModels.IssuedNames

namespace Request

/-- The name that is asked for. The empty key asks for none. -/
def name? : Request → Option String
  | .root name => some name
  | .nested parent key _ => if key = "" then .none else some (nestedName parent key)

/-- The place that the name is asked for. -/
def location : Request → Pointer
  | .root _ => .root
  | .nested _ _ location => location

/-- The fault of a request that asks for no identifier. -/
def refusal : Request → Fault
  | .root name => .invalidTypeName name
  | .nested _ key location =>
    .invalidFieldKey location key (if key = "" then .empty else .notIdentifier)

/-- The answer to the request when these names are taken. -/
def answer (taken : List (String × Pointer)) (r : Request) : Except Fault String :=
  match r.name? with
  | .none => .error r.refusal
  | some name =>
    if isIdentifier name then
      match taken.lookup name with
      | some first => .error (.typeNameCollision name first r.location)
      | .none => .ok name
    else .error r.refusal

theorem answer_eq_ok_iff (taken : List (String × Pointer)) (r : Request) (name : String) :
    r.answer taken = .ok name ↔
      r.name? = some name ∧ isIdentifier name ∧ name ∉ taken.map Prod.fst := by
  rw [← Association.lookup_eq_none_iff_notMem]
  constructor
  · intro h
    unfold answer at h
    split at h
    · cases h
    · next hr =>
      split at h
      · next hi =>
        split at h
        · cases h
        · next hl =>
          cases h
          exact ⟨hr, hi, hl⟩
      · cases h
  · rintro ⟨hr, hi, hl⟩
    simp only [answer, hr, hi, hl, if_true]

theorem answer_eq_collision_iff (taken : List (String × Pointer)) (r : Request) (name : String)
    (first second : Pointer) :
    r.answer taken = .error (.typeNameCollision name first second) ↔
      r.name? = some name ∧ isIdentifier name ∧ taken.lookup name = some first ∧
        second = r.location := by
  have hrefusal : r.refusal ≠ .typeNameCollision name first second := by
    cases r <;> exact fun h => nomatch h
  constructor
  · intro h
    unfold answer at h
    split at h
    · exact absurd (Except.error.inj h) hrefusal
    · next hr =>
      split at h
      · next hi =>
        split at h
        · next hl =>
          cases h
          exact ⟨hr, hi, hl, rfl⟩
        · cases h
      · exact absurd (Except.error.inj h) hrefusal
  · rintro ⟨hr, hi, hl, rfl⟩
    simp only [answer, hr, hi, hl, if_true]

end Request

theorem serve_eq (names : IssuedNames) (r : Request) :
    names.serve r =
      match r.answer names.entries with
      | .ok name => (.ok name, ⟨(name, r.location) :: names.entries⟩)
      | .error fault => (.error fault, names) := by
  cases r with
  | root name =>
    simp only [serve, claimRoot, Request.answer, Request.name?, claim, find?]
    by_cases hi : isIdentifier name
    · simp only [hi, if_true]
      cases names.entries.lookup name <;> rfl
    · simp [hi, Request.refusal]
  | nested parent key location =>
    simp only [serve, derive_eq, Request.answer, Request.name?, claim, find?]
    by_cases hk : key = ""
    · simp [hk, Request.refusal]
    · by_cases hi : isIdentifier (nestedName parent key)
      · simp only [hk, hi, if_true, if_false]
        cases names.entries.lookup (nestedName parent key) <;> rfl
      · simp [hk, hi, Request.refusal]

/-- The registry after a run of requests. -/
def after (names : IssuedNames) (requests : List Request) : IssuedNames :=
  requests.foldl (fun names r => (names.serve r).2) names

/-- The requests of a run that were granted, each with its name. -/
def granted (requests : List Request) : List (Request × String) :=
  (requests.zip (none.serveAll requests)).filterMap fun (r, served) =>
    served.1.toOption.map fun name => (r, name)

/-- What the registry holds for a granted request. -/
def entryOf (g : Request × String) : String × Pointer := (g.2, g.1.location)

theorem length_serveAll (names : IssuedNames) (requests : List Request) :
    (names.serveAll requests).length = requests.length := by
  induction requests generalizing names with
  | nil => rfl
  | cons r rest ih => rw [serveAll, List.length_cons, List.length_cons, ih]

theorem serveAll_append (names : IssuedNames) (requests more : List Request) :
    names.serveAll (requests ++ more) =
      names.serveAll requests ++ (names.after requests).serveAll more := by
  induction requests generalizing names with
  | nil => rfl
  | cons r rest ih => rw [List.cons_append, serveAll, ih, serveAll, List.cons_append]; rfl

theorem after_concat (names : IssuedNames) (requests : List Request) (r : Request) :
    names.after (requests ++ [r]) = ((names.after requests).serve r).2 := by
  rw [after, List.foldl_append]
  rfl

theorem granted_concat (requests : List Request) (r : Request) :
    granted (requests ++ [r]) = granted requests ++
      (((none.after requests).serve r).1.toOption.map fun name => (r, name)).toList := by
  rw [granted, serveAll_append, List.zip_append (length_serveAll none requests).symm,
    List.filterMap_append, ← granted]
  cases h : ((none.after requests).serve r).1.toOption <;> simp [serveAll, h]

/-- The registry holds what was granted, the latest first. -/
theorem entries_after (requests : List Request) :
    (none.after requests).entries = ((granted requests).map entryOf).reverse := by
  induction requests using List.reverseRecOn with
  | nil => rfl
  | append_singleton before r ih =>
    rw [after_concat, granted_concat, serve_eq]
    cases r.answer (none.after before).entries <;> simp [ih, Except.toOption, entryOf]

/-- No name is issued twice. -/
theorem nodup_names_after (requests : List Request) :
    ((none.after requests).entries.map Prod.fst).Nodup := by
  induction requests using List.reverseRecOn with
  | nil => exact List.nodup_nil
  | append_singleton before r ih =>
    rw [after_concat, serve_eq]
    cases h : r.answer (none.after before).entries with
    | error fault => exact ih
    | ok name => exact List.nodup_cons.mpr ⟨((r.answer_eq_ok_iff _ name).mp h).2.2, ih⟩

theorem names_after (requests : List Request) :
    (none.after requests).entries.map Prod.fst = ((granted requests).map Prod.snd).reverse := by
  simp [entries_after, Function.comp_def, entryOf]

theorem nodup_granted (requests : List Request) : ((granted requests).map Prod.snd).Nodup := by
  have h := nodup_names_after requests
  rwa [names_after, (List.reverse_perm _).nodup_iff] at h

theorem lookup_entries_after (requests : List Request) (name : String) (first : Pointer)
    (h : (none.after requests).entries.lookup name = some first) :
    ∃ e, ((granted requests).filter fun g => g.2 == name) = [(e, name)] ∧ first = e.location := by
  rw [Association.lookup_eq_some_iff_mem (nodup_names_after requests), entries_after,
    List.mem_reverse] at h
  obtain ⟨⟨e, n⟩, hg, he⟩ := List.mem_map.mp h
  cases he
  exact ⟨e, Association.filter_eq_singleton (nodup_granted requests) hg, rfl⟩

/-- Two requests for one name collide, whatever they ask it for. -/
theorem serveAll_same_name {r s : Request} {name : String} (hr : r.name? = some name)
    (hs : s.name? = some name) (hi : isIdentifier name) :
    (none.serveAll [r, s]).map Prod.fst =
      [.ok name, .error (.typeNameCollision name r.location s.location)] := by
  have hfirst : r.answer none.entries = .ok name :=
    (r.answer_eq_ok_iff _ name).mpr ⟨hr, hi, List.not_mem_nil⟩
  have hlookup : [(name, r.location)].lookup name = some r.location := by simp
  have hsecond := (s.answer_eq_collision_iff _ name _ _).mpr ⟨hs, hi, hlookup, rfl⟩
  have hserve : none.serve r = (.ok name, ⟨[(name, r.location)]⟩) := by
    rw [serve_eq, hfirst]
    rfl
  simp only [serveAll, hserve, serve_eq, hsecond, List.map_cons, List.map_nil]

theorem snd_serve_of_error {names : IssuedNames} {r : Request} {fault : Fault}
    (h : (names.serve r).1 = .error fault) : (names.serve r).2 = names := by
  rw [serve_eq] at h ⊢
  cases ha : r.answer names.entries with
  | error fault => rfl
  | ok name =>
    rw [ha] at h
    cases h

/-- A refused request can be left out: the others are answered as they were. -/
theorem serveAll_eraseIdx {before : List Request} {r : Request}
    (h : ((none.after before).serve r).2 = none.after before) (later : List Request) :
    (none.serveAll (before ++ r :: later)).eraseIdx before.length =
      none.serveAll (before ++ later) := by
  have hlength := length_serveAll none before
  rw [serveAll_append, serveAll_append, List.eraseIdx_append_of_length_le (Nat.le_of_eq hlength),
    hlength, Nat.sub_self, serveAll, List.eraseIdx_cons_zero, h]

/-- Along any run of requests a name is issued once. A request is granted if it asks for an
identifier that was not granted before, and otherwise leaves everything as it was. -/
theorem requests_claim_once (before : List Request) (r : Request) (later : List Request) :
    let names := none.after before
    let answer := (names.serve r).1
    (none.serveAll (before ++ r :: later))[before.length]? = some (names.serve r) ∧
    (∀ name, answer = .ok name ↔
      r.name? = some name ∧ isIdentifier name ∧ name ∉ (granted before).map Prod.snd) ∧
    (∀ fault, answer = .error fault → (names.serve r).2 = names ∧
      (none.serveAll (before ++ r :: later)).eraseIdx before.length =
        none.serveAll (before ++ later)) ∧
    (∀ name first second, answer = .error (.typeNameCollision name first second) →
      r.name? = some name ∧ second = r.location ∧
      ∃ e, ((granted before).filter fun g => g.2 == name) = [(e, name)] ∧ first = e.location) ∧
    names.size = (granted before).length ∧ ((granted before).map Prod.snd).Nodup ∧
    (names.isEmpty ↔ granted before = []) := by
  intro names answer
  have hanswer : answer = r.answer names.entries := by
    simp only [answer, serve_eq]
    cases r.answer names.entries <;> rfl
  refine ⟨?_, fun name => ?_, fun fault h => ?_, fun name first second h => ?_, ?_,
    nodup_granted before, ?_⟩
  · rw [serveAll_append, List.getElem?_append_right (Nat.le_of_eq (length_serveAll none before)),
      length_serveAll, Nat.sub_self]
    rfl
  · rw [hanswer, Request.answer_eq_ok_iff, names_after, List.mem_reverse]
  · have hkept := snd_serve_of_error h
    exact ⟨hkept, serveAll_eraseIdx hkept later⟩
  · rw [hanswer, Request.answer_eq_collision_iff] at h
    obtain ⟨hr, -, hl, hsecond⟩ := h
    exact ⟨hr, hsecond, lookup_entries_after before name first hl⟩
  · simp [names, size, entries_after]
  · simp [names, isEmpty, entries_after]

/-- The name of the second request is asked for again, by another way of cutting it. -/
theorem requests_for_one_name :
    let before : List Request :=
      [.root "Root", .nested "Root" "name" ⟨["name"]⟩, .root "9", .nested "" "" .root]
    let r : Request := .nested "" "rootName" ⟨["x", "rootName"]⟩
    ((none.after before).serve r).1 =
        .error (.typeNameCollision "RootName" ⟨["name"]⟩ ⟨["x", "rootName"]⟩) ∧
      (∃ e, ((granted before).filter fun g => g.2 == "RootName") = [(e, "RootName")] ∧
        ⟨["name"]⟩ = e.location) ∧
      (none.serveAll (before ++ [r, .root "RootName"])).eraseIdx 4 =
        none.serveAll (before ++ [.root "RootName"]) := by
  intro before r
  have hanswer : ((none.after before).serve r).1 =
      .error (.typeNameCollision "RootName" ⟨["name"]⟩ ⟨["x", "rootName"]⟩) := by decide +kernel
  obtain ⟨-, -, hrefused, hcollision, -⟩ := requests_claim_once before r [.root "RootName"]
  exact ⟨hanswer, (hcollision _ _ _ hanswer).2.2, (hrefused _ hanswer).2⟩

end SampleModels.IssuedNames
