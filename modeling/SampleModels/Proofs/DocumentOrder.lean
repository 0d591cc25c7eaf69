import Mathlib.Data.List.Nodup
import SampleModels.Proofs.Walk.Entries

/-!
# Document order

The places of all values of a document, each before those inside it, and no two of them the same
where the keys of each object are distinct. A walk visits some of them, in this order.
-/

namespace SampleModels

namespace Json

mutual

/-- The places of the value at `place` and of all values inside it, in document order. -/
def places (place : Pointer) : Json → List Pointer
  | .array items => place :: placesOfItems place 0 items
  | .object members => place :: placesOfMembers place members
  | _ => [place]

/-- The places inside an array, whose elements are counted on from `n`. -/
def placesOfItems (place : Pointer) (n : Nat) : List Json → List Pointer
  | [] => []
  | item :: rest => item.places (place.element n) ++ placesOfItems place (n + 1) rest

def placesOfMembers (place : Pointer) : List (String × Json) → List Pointer
  | [] => []
  | (key, value) :: rest => value.places (place.child key) ++ placesOfMembers place rest

end

theorem places_eq_cons (place : Pointer) (value : Json) :
    ∃ inside, value.places place = place :: inside := by
  cases value <;> exact ⟨_, rfl⟩

end Json

namespace Inference

open Json

/-- The place lies at the member `key` of the object at `location`, or inside that member. -/
def Under (location : Pointer) (key : String) (place : Pointer) : Prop :=
  ∃ rest, place.tokens = location.tokens ++ key :: rest

theorem Under.trans {location place inside : Pointer} {key k : String}
    (h : Under location key place) (hi : Under place k inside) : Under location key inside := by
  obtain ⟨rest, h⟩ := h
  obtain ⟨more, hi⟩ := hi
  exact ⟨rest ++ k :: more, by rw [hi, h, List.append_assoc, List.cons_append]⟩

theorem Under.key_unique {location place : Pointer} {key k : String} (h : Under location key place)
    (hk : Under location k place) : key = k := by
  obtain ⟨rest, h⟩ := h
  obtain ⟨more, hk⟩ := hk
  rw [h] at hk
  exact (List.cons.inj (List.append_cancel_left hk)).1

theorem Under.ne {location place : Pointer} {key : String} (h : Under location key place) :
    place ≠ location := by
  rintro rfl
  obtain ⟨rest, h⟩ := h
  simp at h

theorem under_of_entered {inspect : Bool} {location place : Pointer} {key : String} {value : Json}
    {below : List (String × Json)}
    (h : entered? inspect (location.child key) value = some (place, below)) :
    Under location key place := by
  rcases entered?_cases h with ⟨-, rfl⟩ | ⟨rest, -, -, rfl⟩
  · exact ⟨[], rfl⟩
  · refine ⟨[Segment.token (.index 0)], ?_⟩
    simp [Pointer.element, Pointer.child, Pointer.push, Segment.token]

theorem Under.reaches {inspect : Bool} {location : Pointer} {key : String} {first o : Entry}
    (h : Under location key first.location) (hr : Entry.Reaches inspect first o) :
    Under location key o.location := by
  induction hr with
  | refl => exact h
  | tail _ henter ih =>
    obtain ⟨k, value, -, -, he⟩ := henter
    exact ih.trans (under_of_entered he)

theorem under_child (place : Pointer) (key : String) : Under place key (place.child key) :=
  ⟨[], rfl⟩

theorem under_element (place : Pointer) (n : Nat) :
    Under place (Segment.token (.index n)) (place.element n) := ⟨[], rfl⟩

theorem Under.extend {location place inside : Pointer} {key : String}
    (h : Under location key place) (hp : place.tokens <+: inside.tokens) :
    Under location key inside := by
  obtain ⟨rest, h⟩ := h
  obtain ⟨more, hp⟩ := hp
  exact ⟨rest ++ more, by rw [← hp, h, List.append_assoc, List.cons_append]⟩

mutual

theorem prefix_of_mem_places {place inside : Pointer} :
    ∀ {value : Json}, inside ∈ value.places place → place.tokens <+: inside.tokens
  | .array items, h => by
    rw [places, List.mem_cons] at h
    rcases h with rfl | h
    · exact List.prefix_rfl
    · obtain ⟨k, -, rest, hk⟩ := under_of_mem_placesOfItems h
      exact ⟨_, hk.symm⟩
  | .object members, h => by
    rw [places, List.mem_cons] at h
    rcases h with rfl | h
    · exact List.prefix_rfl
    · obtain ⟨key, -, rest, hk⟩ := under_of_mem_placesOfMembers h
      exact ⟨_, hk.symm⟩
  | .null, h | .bool _, h | .number _, h | .string _, h => by
    cases List.mem_singleton.mp h
    exact List.prefix_rfl

theorem under_of_mem_placesOfItems {place inside : Pointer} {n : Nat} :
    ∀ {items : List Json}, inside ∈ placesOfItems place n items →
      ∃ k, n ≤ k ∧ Under place (Segment.token (.index k)) inside
  | [], h => by cases h
  | item :: rest, h => by
    rw [placesOfItems, List.mem_append] at h
    rcases h with h | h
    · exact ⟨n, Nat.le_refl n, (under_element place n).extend (prefix_of_mem_places h)⟩
    · obtain ⟨k, hk, h⟩ := under_of_mem_placesOfItems h
      exact ⟨k, by omega, h⟩

theorem under_of_mem_placesOfMembers {place inside : Pointer} :
    ∀ {members : List (String × Json)}, inside ∈ placesOfMembers place members →
      ∃ key ∈ members.map Prod.fst, Under place key inside
  | [], h => by cases h
  | (key, value) :: rest, h => by
    rw [placesOfMembers, List.mem_append] at h
    rcases h with h | h
    · exact ⟨key, List.mem_cons_self, (under_child place key).extend (prefix_of_mem_places h)⟩
    · obtain ⟨k, hk, h⟩ := under_of_mem_placesOfMembers h
      exact ⟨k, List.mem_cons_of_mem _ hk, h⟩

end

theorem token_index_injective {n k : Nat}
    (h : Segment.token (.index n) = Segment.token (.index k)) : n = k := by
  have hdigits := congrArg (fun token => Nat.ofDigitChars 10 token.toList 0) h
  simpa [Segment.token, Nat.toString_eq_ofList_toDigits] using hdigits

mutual

/-- In a well-formed document no two values have one place. -/
theorem nodup_places (place : Pointer) :
    ∀ {value : Json}, value.WellFormed → (value.places place).Nodup
  | .array items, hw => by
    rw [Json.WellFormed] at hw
    rw [places, List.nodup_cons]
    refine ⟨fun hp => ?_, nodup_placesOfItems place 0 hw⟩
    obtain ⟨k, -, hk⟩ := under_of_mem_placesOfItems hp
    exact hk.ne rfl
  | .object members, hw => by
    rw [Json.WellFormed] at hw
    rw [places, List.nodup_cons]
    refine ⟨fun hp => ?_, nodup_placesOfMembers place hw.1 hw.2⟩
    obtain ⟨key, -, hk⟩ := under_of_mem_placesOfMembers hp
    exact hk.ne rfl
  | .null, _ | .bool _, _ | .number _, _ | .string _, _ => List.nodup_singleton place

theorem nodup_placesOfItems (place : Pointer) (n : Nat) :
    ∀ {items : List Json}, WellFormedItems items → (placesOfItems place n items).Nodup
  | [], _ => List.nodup_nil
  | item :: rest, hw => by
    rw [WellFormedItems] at hw
    rw [placesOfItems, List.nodup_append]
    refine ⟨nodup_places _ hw.1, nodup_placesOfItems place (n + 1) hw.2, ?_⟩
    rintro p hp _ hq rfl
    obtain ⟨k, hk, hq⟩ := under_of_mem_placesOfItems hq
    have hp := (under_element place n).extend (prefix_of_mem_places hp)
    have := token_index_injective (hp.key_unique hq)
    omega

theorem nodup_placesOfMembers (place : Pointer) :
    ∀ {members : List (String × Json)}, (members.map Prod.fst).Nodup →
      WellFormedMembers members → (placesOfMembers place members).Nodup
  | [], _, _ => List.nodup_nil
  | (key, value) :: rest, hkeys, hw => by
    rw [List.map_cons, List.nodup_cons] at hkeys
    rw [WellFormedMembers] at hw
    rw [placesOfMembers, List.nodup_append]
    refine ⟨nodup_places _ hw.1, nodup_placesOfMembers place hkeys.2 hw.2, ?_⟩
    rintro p hp _ hq rfl
    obtain ⟨k, hk, hq⟩ := under_of_mem_placesOfMembers hq
    cases ((under_child place key).extend (prefix_of_mem_places hp)).key_unique hq
    exact hkeys.1 hk

end

theorem under_of_mem_visits {inspect : Bool} {name : String} {location : Pointer}
    {members : List (String × Json)} {v : Visit} (hv : v ∈ visits inspect name location members) :
    ∃ key ∈ members.map Prod.fst, Under location key v.location := by
  obtain ⟨o, key, value, hr, hm, rfl⟩ := exists_entry_of_mem_visits hv
  have hself := under_child o.location key
  rcases Relation.ReflTransGen.cases_head hr with rfl | ⟨first, ⟨k, w, hk, -, he⟩, hr⟩
  · exact ⟨key, List.mem_map_of_mem hm, hself⟩
  · exact ⟨k, List.mem_map_of_mem hk, ((under_of_entered he).reaches hr).trans hself⟩

/-- The walk visits the members in document order. -/
theorem visits_sublist (inspect : Bool) (name : String) (location : Pointer)
    (members : List (String × Json)) :
    ((visits inspect name location members).map Visit.location).Sublist
      (placesOfMembers location members) := by
  induction members using members_induction inspect generalizing name location with
  | nil => exact .slnil
  | cons key value rest inside ih =>
    rw [visits_cons, visitsAt_eq, placesOfMembers, List.map_append, List.map_cons]
    refine List.Sublist.append ?_ (ih name location)
    cases h : entered? inspect (location.child key) value with
    | none =>
      obtain ⟨more, hmore⟩ := places_eq_cons (location.child key) value
      rw [hmore]
      exact List.Sublist.cons_cons _ (List.nil_sublist _)
    | some entry =>
      obtain ⟨place, below⟩ := entry
      have hin := inside _ _ _ h (nestedName name key) place
      rcases entered?_cases h with ⟨rfl, rfl⟩ | ⟨items, -, rfl, rfl⟩
      · rw [places]
        exact hin.cons_cons _
      · rw [places, placesOfItems, places]
        exact (((hin.cons _).trans (List.sublist_append_left _ _)).cons_cons _)

theorem sampleVisits_sublist (inspect : Bool) (name : String) (document : Json) :
    ((sampleVisits inspect name document).map Visit.location).Sublist (document.places .root) := by
  cases document with
  | object members =>
    rw [Json.places]
    exact (visits_sublist inspect name .root members).cons _
  | _ => exact List.nil_sublist _

end Inference

end SampleModels
