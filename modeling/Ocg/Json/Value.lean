import Ocg.Text.Decimal

/-!
# JSON values

Values with their members in order, lookup by name and by path, and the change of one member. A
member name occurs somewhere in a value exactly when some path of the value ends with it, so a scan
for a name that comes back negative rules out every path to it. This is `containsKey_of_at`.
-/

namespace Json

inductive Value
  | null
  | bool (b : Bool)
  /-- A number, as its literal. -/
  | number (literal : String)
  | string (text : String)
  | array (elements : List Value)
  | object (members : List (String × Value))

/-! ## Members -/

section Members

variable {name other : String} {members : List (String × Value)} {f : Value → Value} {v : Value}

/-- Change the value of a name, if there is one. -/
def modifyMember (name : String) (f : Value → Value) : List (String × Value) → List (String × Value)
  | [] => []
  | (k, v) :: members =>
    if k = name then (k, f v) :: members else (k, v) :: modifyMember name f members

def removeMember (name : String) : List (String × Value) → List (String × Value)
  | [] => []
  | (k, v) :: members => if k = name then members else (k, v) :: removeMember name members

/-- Set the value of a name, at the end if it is new. -/
def insertMember (name : String) (value : Value) (members : List (String × Value)) :
    List (String × Value) :=
  if (members.lookup name).isSome then modifyMember name (fun _ ↦ value) members
  else members ++ [(name, value)]

theorem lookup_cons_of_ne {k : String} {w : Value} (hne : name ≠ k) :
    ((k, w) :: members).lookup name = members.lookup name := by
  rw [List.lookup_cons, beq_false_of_ne hne]

theorem mem_of_lookup (h : members.lookup name = some v) : (name, v) ∈ members := by
  obtain ⟨front, back, rfl, -⟩ := List.lookup_eq_some_iff.1 h
  simp

theorem lookup_eq_some_of_mem (hnames : (members.map Prod.fst).Nodup) (h : (name, v) ∈ members) :
    members.lookup name = some v := by
  induction members with
  | nil => cases h
  | cons m members ih =>
    obtain ⟨k, w⟩ := m
    rw [List.map_cons, List.nodup_cons] at hnames
    obtain heq | hmem := List.mem_cons.1 h
    · obtain ⟨rfl, rfl⟩ := Prod.mk.inj heq
      exact List.lookup_cons_self
    · have hne : name ≠ k := by
        rintro rfl
        exact hnames.1 (List.mem_map.2 ⟨_, hmem, rfl⟩)
      rw [lookup_cons_of_ne hne]
      exact ih hnames.2 hmem

/-- With distinct names, the order of the members does not matter. -/
theorem lookup_eq_of_perm (name : String) {members' : List (String × Value)}
    (hnames : (members.map Prod.fst).Nodup) (hperm : members.Perm members') :
    members'.lookup name = members.lookup name := by
  cases h : members.lookup name with
  | some v =>
    have hnames' := (hperm.map Prod.fst).nodup hnames
    exact lookup_eq_some_of_mem hnames' (hperm.mem_iff.1 (mem_of_lookup h))
  | none =>
    rw [List.lookup_eq_none_iff] at h ⊢
    intro m hm
    exact h m (hperm.mem_iff.2 hm)

theorem lookup_modifyMember_self :
    (modifyMember name f members).lookup name = (members.lookup name).map f := by
  induction members with
  | nil => rfl
  | cons m members ih =>
    obtain ⟨k, w⟩ := m
    rw [modifyMember]
    split_ifs with hk
    · rw [← hk, List.lookup_cons_self, List.lookup_cons_self, Option.map_some]
    · rw [lookup_cons_of_ne (Ne.symm hk), lookup_cons_of_ne (Ne.symm hk), ih]

theorem lookup_modifyMember_of_ne (hne : other ≠ name) :
    (modifyMember name f members).lookup other = members.lookup other := by
  induction members with
  | nil => rfl
  | cons m members ih =>
    obtain ⟨k, w⟩ := m
    rw [modifyMember]
    split_ifs with hk
    · rw [lookup_cons_of_ne (hk ▸ hne), lookup_cons_of_ne (hk ▸ hne)]
    · rw [List.lookup_cons, List.lookup_cons, ih]

theorem map_fst_modifyMember :
    (modifyMember name f members).map Prod.fst = members.map Prod.fst := by
  induction members with
  | nil => rfl
  | cons m members ih =>
    obtain ⟨k, w⟩ := m
    rw [modifyMember]
    split_ifs
    · rfl
    · rw [List.map_cons, ih, List.map_cons]

theorem mem_modifyMember (name : String) (f : Value → Value) (h : (other, v) ∈ members) :
    (other, v) ∈ modifyMember name f members
      ∨ (other = name ∧ members.lookup name = some v) := by
  induction members with
  | nil => cases h
  | cons m members ih =>
    obtain ⟨k, w⟩ := m
    rw [modifyMember]
    obtain heq | hmem := List.mem_cons.1 h
    · obtain ⟨rfl, rfl⟩ := Prod.mk.inj heq
      split_ifs with hk
      · exact Or.inr ⟨hk, by rw [hk, List.lookup_cons_self]⟩
      · exact Or.inl List.mem_cons_self
    · split_ifs with hk
      · exact Or.inl (List.mem_cons_of_mem _ hmem)
      · obtain hkept | ⟨hname, hlookup⟩ := ih hmem
        · exact Or.inl (List.mem_cons_of_mem _ hkept)
        · refine Or.inr ⟨hname, ?_⟩
          rw [lookup_cons_of_ne (Ne.symm hk), hlookup]

theorem mem_modifyMember_self (h : members.lookup name = some v) :
    (name, f v) ∈ modifyMember name f members :=
  mem_of_lookup (by rw [lookup_modifyMember_self, h, Option.map_some])

theorem eq_of_mem_modifyMember (hnames : (members.map Prod.fst).Nodup)
    (h : (other, v) ∈ modifyMember name f members) :
    (other ≠ name ∧ (other, v) ∈ members)
      ∨ (other = name ∧ ∃ w, members.lookup name = some w ∧ v = f w) := by
  induction members with
  | nil => cases h
  | cons m members ih =>
    obtain ⟨k, w⟩ := m
    rw [List.map_cons, List.nodup_cons] at hnames
    rw [modifyMember] at h
    split_ifs at h with hk
    · obtain heq | hmem := List.mem_cons.1 h
      · obtain ⟨rfl, rfl⟩ := Prod.mk.inj heq
        exact Or.inr ⟨hk, w, by rw [← hk, List.lookup_cons_self], rfl⟩
      · refine Or.inl ⟨?_, List.mem_cons_of_mem _ hmem⟩
        rintro rfl
        exact hnames.1 (List.mem_map.2 ⟨_, hmem, hk.symm⟩)
    · obtain heq | hmem := List.mem_cons.1 h
      · obtain ⟨rfl, rfl⟩ := Prod.mk.inj heq
        exact Or.inl ⟨hk, List.mem_cons_self⟩
      · obtain ⟨hne, hmem'⟩ | ⟨hname, w', hlookup, hv⟩ := ih hnames.2 hmem
        · exact Or.inl ⟨hne, List.mem_cons_of_mem _ hmem'⟩
        · refine Or.inr ⟨hname, w', ?_, hv⟩
          rw [lookup_cons_of_ne (Ne.symm hk), hlookup]

theorem mem_removeMember (name : String) (h : (other, v) ∈ members) :
    (other, v) ∈ removeMember name members ∨ (other = name ∧ members.lookup name = some v) := by
  induction members with
  | nil => cases h
  | cons m members ih =>
    obtain ⟨k, w⟩ := m
    rw [removeMember]
    obtain heq | hmem := List.mem_cons.1 h
    · obtain ⟨rfl, rfl⟩ := Prod.mk.inj heq
      split_ifs with hk
      · exact Or.inr ⟨hk, by rw [hk, List.lookup_cons_self]⟩
      · exact Or.inl List.mem_cons_self
    · split_ifs with hk
      · exact Or.inl hmem
      · obtain hkept | ⟨hname, hlookup⟩ := ih hmem
        · exact Or.inl (List.mem_cons_of_mem _ hkept)
        · refine Or.inr ⟨hname, ?_⟩
          rw [lookup_cons_of_ne (Ne.symm hk), hlookup]

end Members

namespace Value

/-! ## Reading -/

def asString : Value → Option String
  | .string text => some text
  | _ => none

def asBool : Value → Option Bool
  | .bool b => some b
  | _ => none

def asArray : Value → Option (List Value)
  | .array elements => some elements
  | _ => none

def asObject : Value → Option (List (String × Value))
  | .object members => some members
  | _ => none

/-- The strings of an array that has only strings. -/
def asStrings (v : Value) : Option (List String) := v.asArray.bind (List.mapM asString)

@[simp] theorem asString_eq_some {v : Value} {text : String} :
    v.asString = some text ↔ v = .string text := by
  cases v with
  | string text' => simp [asString]
  | _ => simp [asString]

@[simp] theorem asBool_eq_some {v : Value} {b : Bool} : v.asBool = some b ↔ v = .bool b := by
  cases v with
  | bool b' => simp [asBool]
  | _ => simp [asBool]

@[simp] theorem asObject_eq_some {v : Value} {members : List (String × Value)} :
    v.asObject = some members ↔ v = .object members := by
  cases v with
  | object members' => simp [asObject]
  | _ => simp [asObject]

def get (name : String) : Value → Option Value
  | .object members => members.lookup name
  | _ => none

/-- An array index, in decimal without leading zeros. -/
def index? (token : String) : Option ℕ :=
  if token.toList.head? = some '0' ∧ token.length ≠ 1 then none else Text.digits? token.toList

/-- One step of a path: a member by its name, an element by its index. -/
def child (token : String) : Value → Option Value
  | .object members => members.lookup token
  | .array elements => (index? token).bind (elements[·]?)
  | _ => none

/-- The value at the end of a path. -/
def pointer : List String → Value → Option Value
  | [], v => some v
  | token :: path, v => (v.child token).bind (pointer path)

/-! ## Names anywhere in a value -/

mutual

/-- Whether an object anywhere in the value has the name. -/
def containsKey (name : String) : Value → Bool
  | .array elements => elementsContainKey name elements
  | .object members => membersContainKey name members
  | _ => false

def elementsContainKey (name : String) : List Value → Bool
  | [] => false
  | v :: elements => v.containsKey name || elementsContainKey name elements

def membersContainKey (name : String) : List (String × Value) → Bool
  | [] => false
  | (k, v) :: members => k = name || v.containsKey name || membersContainKey name members

end

inductive Step
  | key (name : String)
  | index (i : ℕ)

/-- The second value stands in the first at the end of the path. -/
inductive At : Value → List Step → Value → Prop
  | here (v : Value) : At v [] v
  | member {name : String} {members : List (String × Value)} {v w : Value} {path : List Step} :
    (name, v) ∈ members → At v path w → At (.object members) (.key name :: path) w
  | element {i : ℕ} {elements : List Value} {v w : Value} {path : List Step} :
    elements[i]? = some v → At v path w → At (.array elements) (.index i :: path) w

theorem containsKey_array {name : String} {elements : List Value} :
    (array elements).containsKey name = false
      ↔ ∀ v ∈ elements, v.containsKey name = false := by
  rw [containsKey]
  induction elements with
  | nil => simp [elementsContainKey]
  | cons v elements ih => rw [elementsContainKey, Bool.or_eq_false_iff, ih, List.forall_mem_cons]

theorem containsKey_object {name : String} {members : List (String × Value)} :
    (object members).containsKey name = false
      ↔ ∀ k v, (k, v) ∈ members → k ≠ name ∧ v.containsKey name = false := by
  rw [containsKey]
  induction members with
  | nil => simp [membersContainKey]
  | cons m members ih =>
    obtain ⟨k, v⟩ := m
    rw [membersContainKey, Bool.or_eq_false_iff, Bool.or_eq_false_iff, ih, decide_eq_false_iff_not]
    constructor
    · rintro ⟨hhead, htail⟩ k' v' hmem
      obtain heq | hmem := List.mem_cons.1 hmem
      · obtain ⟨rfl, rfl⟩ := Prod.mk.inj heq
        exact hhead
      · exact htail k' v' hmem
    · intro h
      exact ⟨h k v List.mem_cons_self, fun k' v' hmem ↦ h k' v' (List.mem_cons_of_mem _ hmem)⟩

/-- A path to a name is seen by the scan for it. -/
theorem containsKey_of_at {name : String} {v w : Value} {path : List Step}
    (h : At v (path ++ [.key name]) w) : v.containsKey name = true := by
  induction path generalizing v with
  | nil =>
    cases h with
    | member hmem _ =>
      by_contra hno
      exact (containsKey_object.1 (Bool.eq_false_iff.2 hno) _ _ hmem).1 rfl
  | cons step path ih =>
    cases h with
    | member hmem hat =>
      by_contra hno
      exact Bool.eq_false_iff.1 (containsKey_object.1 (Bool.eq_false_iff.2 hno) _ _ hmem).2 (ih hat)
    | element hget hat =>
      by_contra hno
      have hmem := List.mem_of_getElem? hget
      exact Bool.eq_false_iff.1 (containsKey_array.1 (Bool.eq_false_iff.2 hno) _ hmem) (ih hat)

/-! ## Texts anywhere in a value -/

mutual

/-- Whether a string or a name anywhere in the value is of a kind. -/
def anyText (p : String → Bool) : Value → Bool
  | .string text => p text
  | .array elements => elementsAnyText p elements
  | .object members => membersAnyText p members
  | _ => false

def elementsAnyText (p : String → Bool) : List Value → Bool
  | [] => false
  | v :: elements => v.anyText p || elementsAnyText p elements

def membersAnyText (p : String → Bool) : List (String × Value) → Bool
  | [] => false
  | (k, v) :: members => p k || v.anyText p || membersAnyText p members

end

theorem anyText_array {p : String → Bool} {elements : List Value} :
    (array elements).anyText p = true ↔ ∃ v ∈ elements, v.anyText p = true := by
  rw [anyText]
  induction elements with
  | nil => simp [elementsAnyText]
  | cons v elements ih => rw [elementsAnyText, Bool.or_eq_true, ih, List.exists_mem_cons_iff]

theorem anyText_object {p : String → Bool} {members : List (String × Value)} :
    (object members).anyText p = true
      ↔ ∃ m ∈ members, p m.1 = true ∨ m.2.anyText p = true := by
  rw [anyText]
  induction members with
  | nil => simp [membersAnyText]
  | cons m members ih =>
    rw [membersAnyText, Bool.or_eq_true, Bool.or_eq_true, ih, List.exists_mem_cons_iff]

end Value

end Json
