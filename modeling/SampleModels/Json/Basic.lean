/-!
# JSON values

A sample document is one value. Numbers keep their literal, since only their kind is ever looked
at. The members of an object stand in the order of the document; `WellFormed` values have each key
once, and `put` keeps it so.
-/

namespace SampleModels

/-- A JSON value. -/
inductive Json where
  | null
  | bool (value : Bool)
  | number (literal : String)
  | string (value : String)
  | array (items : List Json)
  | object (members : List (String × Json))
deriving Inhabited

namespace Json

/-- The six kinds of value. -/
inductive Kind where
  | null
  | bool
  | number
  | string
  | array
  | object
deriving DecidableEq

def kind : Json → Kind
  | .null => .null
  | .bool _ => .bool
  | .number _ => .number
  | .string _ => .string
  | .array _ => .array
  | .object _ => .object

/-- Sets a member. A key that is there already keeps its place and gets the new value. -/
def put (key : String) (value : Json) : List (String × Json) → List (String × Json)
  | [] => [(key, value)]
  | (k, v) :: rest => if k = key then (k, value) :: rest else (k, v) :: put key value rest

def member? (members : List (String × Json)) (key : String) : Option Json := members.lookup key

/-- The element of an array that a decimal numeral names. -/
def element? (items : List Json) (numeral : String) : Option Json :=
  (numeral.toNat?).bind fun n => if toString n = numeral then items[n]? else none

/-- The member or element that a reference token names. -/
def child? : Json → String → Option Json
  | .object members, token => member? members token
  | .array items, token => element? items token
  | _, _ => none

/-- The value that a list of reference tokens leads to. -/
def resolve? (value : Json) : List String → Option Json
  | [] => some value
  | token :: rest => (value.child? token).bind fun below => below.resolve? rest

mutual

/-- Every object inside the value has each of its keys once. -/
def WellFormed : Json → Prop
  | .array items => WellFormedItems items
  | .object members => (members.map Prod.fst).Nodup ∧ WellFormedMembers members
  | _ => True

def WellFormedItems : List Json → Prop
  | [] => True
  | item :: rest => item.WellFormed ∧ WellFormedItems rest

def WellFormedMembers : List (String × Json) → Prop
  | [] => True
  | (_, value) :: rest => value.WellFormed ∧ WellFormedMembers rest

end

theorem mem_keys_put (key k : String) (value : Json) (members : List (String × Json)) :
    k ∈ (put key value members).map Prod.fst ↔ k = key ∨ k ∈ members.map Prod.fst := by
  induction members with
  | nil => simp [put]
  | cons m rest ih =>
    obtain ⟨k', v⟩ := m
    by_cases h : k' = key
    · subst h; simp [put]
    · simp only [put, h, if_false, List.map_cons, List.mem_cons, ih]
      constructor
      · rintro (h | h | h) <;> simp [h]
      · rintro (h | h | h) <;> simp [h]

theorem nodup_keys_put (key : String) (value : Json) (members : List (String × Json))
    (h : (members.map Prod.fst).Nodup) : ((put key value members).map Prod.fst).Nodup := by
  induction members with
  | nil => simp [put]
  | cons m rest ih =>
    obtain ⟨k', v⟩ := m
    simp only [List.map_cons, List.nodup_cons] at h
    by_cases hk : k' = key
    · simp only [put, hk, if_true, List.map_cons, List.nodup_cons]
      exact ⟨hk ▸ h.1, h.2⟩
    · simp only [put, hk, if_false, List.map_cons, List.nodup_cons]
      refine ⟨?_, ih h.2⟩
      intro hm
      rcases (mem_keys_put key k' value rest).mp hm with heq | hm'
      · exact hk heq
      · exact h.1 hm'

end Json

end SampleModels
