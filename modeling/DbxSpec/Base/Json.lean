import DbxSpec.Base.Text

/-!
# JSON values

Values with objects as lists of fields in the order of insertion. Changing a field keeps its place
and a new field goes to the end. Equality here looks at the order of the fields, which is finer
than equality of objects.
-/

namespace DbxSpec.Base

open List

/-! ### Fields -/

section Fields

variable {α : Type}

/-- A change to the value of a field, if the field is there. -/
def mapField (key : Text) (f : α → α) : List (Text × α) → List (Text × α)
  | [] => []
  | field :: fields =>
    if field.1 = key then (field.1, f field.2) :: fields else field :: mapField key f fields

/-- A field set to a value. -/
def setField (key : Text) (value : α) (fields : List (Text × α)) : List (Text × α) :=
  if (fields.lookup key).isSome then mapField key (fun _ => value) fields
  else fields ++ [(key, value)]

/-- The fields without those of a name. -/
def removeField (key : Text) (fields : List (Text × α)) : List (Text × α) :=
  fields.filter fun field => field.1 ≠ key

variable {key other : Text} {fields : List (Text × α)}

private theorem mapField_cons_self (key : Text) (f : α → α) (value : α) :
    mapField key f ((key, value) :: fields) = (key, f value) :: fields := if_pos rfl

private theorem mapField_cons_of_ne {field : Text × α} (h : field.1 ≠ key) (f : α → α) :
    mapField key f (field :: fields) = field :: mapField key f fields := if_neg h

private theorem lookup_cons_of_ne {field : Text × α} (h : field.1 ≠ key) :
    (field :: fields).lookup key = fields.lookup key := by
  rw [lookup_cons, beq_false_of_ne h.symm]

/-- The changed field. -/
theorem lookup_mapField_self (key : Text) (f : α → α) :
    (mapField key f fields).lookup key = (fields.lookup key).map f := by
  induction fields with
  | nil => rfl
  | cons field fields ih =>
    obtain ⟨name, value⟩ := field
    by_cases hname : name = key
    · subst hname
      rw [mapField_cons_self, lookup_cons_self, lookup_cons_self]
      rfl
    · rw [mapField_cons_of_ne hname, lookup_cons_of_ne hname, lookup_cons_of_ne hname, ih]

/-- Another field is kept. -/
theorem lookup_mapField_of_ne (h : key ≠ other) (f : α → α) :
    (mapField other f fields).lookup key = fields.lookup key := by
  induction fields with
  | nil => rfl
  | cons field fields ih =>
    obtain ⟨name, value⟩ := field
    by_cases hname : name = other
    · subst hname
      rw [mapField_cons_self, lookup_cons_of_ne h.symm, lookup_cons_of_ne h.symm]
    · rw [mapField_cons_of_ne hname, lookup_cons, lookup_cons, ih]

/-- Another field stays. -/
theorem lookup_removeField_of_ne (h : key ≠ other) :
    (removeField other fields).lookup key = fields.lookup key := by
  induction fields with
  | nil => rfl
  | cons field fields ih =>
    unfold removeField at ih ⊢
    by_cases hname : field.1 = other
    · have hne : field.1 ≠ key := fun heq => h (heq.symm.trans hname)
      rw [filter_cons_of_neg (by simpa using hname), ih, lookup_cons_of_ne hne]
    · rw [filter_cons_of_pos (by simpa using hname), lookup_cons, lookup_cons, ih]

private theorem mapField_mapField (key : Text) (f g : α → α) :
    mapField key f (mapField key g fields) = mapField key (f ∘ g) fields := by
  induction fields with
  | nil => rfl
  | cons field fields ih =>
    obtain ⟨name, value⟩ := field
    by_cases hname : name = key
    · subst hname
      rw [mapField_cons_self, mapField_cons_self, mapField_cons_self]
      rfl
    · rw [mapField_cons_of_ne hname, mapField_cons_of_ne hname, mapField_cons_of_ne hname, ih]

/-- Changes of two fields commute. -/
theorem mapField_comm (h : key ≠ other) (f g : α → α) :
    mapField key f (mapField other g fields) = mapField other g (mapField key f fields) := by
  induction fields with
  | nil => rfl
  | cons field fields ih =>
    obtain ⟨name, value⟩ := field
    by_cases hkey : name = key
    · subst hkey
      rw [mapField_cons_of_ne h, mapField_cons_self, mapField_cons_self, mapField_cons_of_ne h]
    · by_cases hother : name = other
      · subst hother
        rw [mapField_cons_self, mapField_cons_of_ne hkey, mapField_cons_of_ne hkey,
          mapField_cons_self]
      · rw [mapField_cons_of_ne hother, mapField_cons_of_ne hkey, mapField_cons_of_ne hkey,
          mapField_cons_of_ne hother, ih]

/-- Two lists that agree after a change of one field, and in that field, are the same. -/
theorem eq_of_mapField_eq {f g : α → α} {fields others : List (Text × α)}
    (h : mapField key f fields = mapField key g others)
    (hkey : fields.lookup key = others.lookup key) : fields = others := by
  induction fields generalizing others with
  | nil =>
    cases others with
    | nil => rfl
    | cons other others =>
      unfold mapField at h
      split at h <;> cases h
  | cons field fields ih =>
    cases others with
    | nil =>
      unfold mapField at h
      split at h <;> cases h
    | cons other others =>
      obtain ⟨name, value⟩ := field
      obtain ⟨second, last⟩ := other
      by_cases hname : name = key
      · subst hname
        by_cases hsecond : second = name
        · subst hsecond
          rw [mapField_cons_self, mapField_cons_self] at h
          rw [lookup_cons_self, lookup_cons_self] at hkey
          rw [Option.some.inj hkey, (cons.inj h).2]
        · rw [mapField_cons_self, mapField_cons_of_ne hsecond] at h
          exact absurd (congrArg Prod.fst (cons.inj h).1).symm hsecond
      · by_cases hsecond : second = key
        · subst hsecond
          rw [mapField_cons_of_ne hname, mapField_cons_self] at h
          exact absurd (congrArg Prod.fst (cons.inj h).1) hname
        · rw [mapField_cons_of_ne hname, mapField_cons_of_ne hsecond] at h
          rw [lookup_cons_of_ne hname, lookup_cons_of_ne hsecond] at hkey
          rw [(cons.inj h).1, ih (cons.inj h).2 hkey]

/-- A field is changed before or after another is removed. -/
theorem removeField_mapField_of_ne (h : other ≠ key) (f : α → α) :
    removeField key (mapField other f fields) = mapField other f (removeField key fields) := by
  induction fields with
  | nil => rfl
  | cons field fields ih =>
    unfold removeField at ih ⊢
    obtain ⟨name, value⟩ := field
    by_cases hother : name = other
    · subst hother
      rw [mapField_cons_self, filter_cons_of_pos (by simpa using h),
        filter_cons_of_pos (by simpa using h), mapField_cons_self]
    · rw [mapField_cons_of_ne hother]
      by_cases hkey : name = key
      · rw [filter_cons_of_neg (by simpa using hkey), filter_cons_of_neg (by simpa using hkey), ih]
      · rw [filter_cons_of_pos (by simpa using hkey),
          filter_cons_of_pos (by simpa using hkey), mapField_cons_of_ne hother, ih]

/-- A field is changed before or after another is set. -/
theorem mapField_setField_of_ne (h : key ≠ other) (f : α → α) (value : α) :
    mapField key f (setField other value fields) =
      setField other value (mapField key f fields) := by
  unfold setField
  rw [lookup_mapField_of_ne h.symm]
  split
  · exact mapField_comm h _ _
  · induction fields with
    | nil => exact mapField_cons_of_ne h.symm f
    | cons field fields ih =>
      obtain ⟨name, first⟩ := field
      by_cases hname : name = key
      · subst hname
        rw [cons_append, mapField_cons_self, mapField_cons_self, cons_append]
      · rename_i hnone
        rw [cons_append, mapField_cons_of_ne hname, mapField_cons_of_ne hname, cons_append, ih]
        by_cases hother : name = other
        · subst hother
          rw [lookup_cons_self] at hnone
          exact absurd rfl hnone
        · rwa [lookup_cons_of_ne hother] at hnone

end Fields

/-! ### Values -/

/-- A JSON value; a number is kept as its text. -/
inductive Json
  | null
  | bool (value : Bool)
  | number (text : Text)
  | string (text : Text)
  | array (items : List Json)
  | object (fields : List (Text × Json))

namespace Json

/-! Equality, which is not derived for an inductive type that is nested in lists. -/

mutual

/-- Two values are the same. -/
def beq : Json → Json → Bool
  | .null, .null => true
  | .bool a, .bool b => a == b
  | .number a, .number b => a == b
  | .string a, .string b => a == b
  | .array a, .array b => beqItems a b
  | .object a, .object b => beqFields a b
  | _, _ => false

/-- Two lists of values are the same. -/
def beqItems : List Json → List Json → Bool
  | [], [] => true
  | a :: as, b :: bs => beq a b && beqItems as bs
  | _, _ => false

/-- Two lists of fields are the same. -/
def beqFields : List (Text × Json) → List (Text × Json) → Bool
  | [], [] => true
  | (a, v) :: as, (b, w) :: bs => a == b && beq v w && beqFields as bs
  | _, _ => false

end

mutual

private theorem beq_iff_eq (a b : Json) : beq a b ↔ a = b := by
  cases a with
  | array as =>
    cases b with
    | array bs => simp [beq, beqItems_iff_eq as bs]
    | _ => simp [beq]
  | object as =>
    cases b with
    | object bs => simp [beq, beqFields_iff_eq as bs]
    | _ => simp [beq]
  | _ => cases b <;> simp [beq]

private theorem beqItems_iff_eq (as bs : List Json) : beqItems as bs ↔ as = bs := by
  cases as with
  | nil => cases bs <;> simp [beqItems]
  | cons a as =>
    cases bs with
    | nil => simp [beqItems]
    | cons b bs => simp [beqItems, beq_iff_eq a b, beqItems_iff_eq as bs]

private theorem beqFields_iff_eq (as bs : List (Text × Json)) : beqFields as bs ↔ as = bs := by
  rcases as with _ | ⟨a, as⟩
  · cases bs <;> simp [beqFields]
  obtain ⟨name, value⟩ := a
  cases bs with
  | nil => simp [beqFields]
  | cons b bs =>
    obtain ⟨other, second⟩ := b
    simp [beqFields, beq_iff_eq value second, beqFields_iff_eq as bs]

end

instance : DecidableEq Json := fun a b => decidable_of_iff (beq a b) (beq_iff_eq a b)

/-- `as_str`. -/
def asStr : Json → Option Text
  | .string text => some text
  | _ => none

/-- `as_object`. -/
def asObject : Json → Option (List (Text × Json))
  | .object fields => some fields
  | _ => none

/-- `get` with a name. -/
def get (value : Json) (key : Text) : Option Json :=
  value.asObject.bind fun fields => fields.lookup key

/-- The object under a name. -/
def objectAt (key : Text) (value : Json) : Option (List (Text × Json)) :=
  (value.get key).bind asObject

/-- A change to the fields of an object. -/
def mapObject (f : List (Text × Json) → List (Text × Json)) : Json → Json
  | .object fields => .object (f fields)
  | value => value

/-- A change to the object under a name, through `get_mut` and `as_object_mut`. -/
def mapObjectAt (key : Text) (f : List (Text × Json) → List (Text × Json)) (value : Json) : Json :=
  value.mapObject (mapField key (mapObject f))

variable (f g : List (Text × Json) → List (Text × Json)) {key : Text} (value : Json)

private theorem asObject_mapObject : (value.mapObject f).asObject = value.asObject.map f := by
  cases value <;> rfl

/-- Two changes of an object. -/
theorem mapObject_mapObject : (value.mapObject g).mapObject f = value.mapObject (f ∘ g) := by
  cases value <;> rfl

private theorem get_mapObjectAt_self (key : Text) :
    (value.mapObjectAt key f).get key = (value.get key).map (mapObject f) := by
  cases value with
  | object fields => exact lookup_mapField_self key (mapObject f)
  | _ => rfl

/-- Another field is kept. -/
theorem get_mapObjectAt_of_ne {other : Text} (h : key ≠ other) :
    (value.mapObjectAt other f).get key = value.get key := by
  cases value with
  | object fields => exact lookup_mapField_of_ne h (mapObject f)
  | _ => rfl

/-- The object in a changed field. -/
theorem objectAt_mapObjectAt_self (key : Text) :
    objectAt key (value.mapObjectAt key f) = (objectAt key value).map f := by
  unfold objectAt
  rw [get_mapObjectAt_self]
  cases value.get key with
  | none => rfl
  | some inner => exact asObject_mapObject f inner

/-- Two changes of one field. -/
theorem mapObjectAt_mapObjectAt (key : Text) :
    (value.mapObjectAt key g).mapObjectAt key f = value.mapObjectAt key (f ∘ g) := by
  have hcompose : mapObject f ∘ mapObject g = mapObject (f ∘ g) :=
    funext fun inner => mapObject_mapObject f g inner
  unfold mapObjectAt
  rw [mapObject_mapObject]
  congr 1
  funext fields
  rw [Function.comp_apply, mapField_mapField, hcompose]

/-- Changes of two fields commute. -/
theorem mapObjectAt_comm {other : Text} (h : key ≠ other) :
    (value.mapObjectAt other g).mapObjectAt key f =
      (value.mapObjectAt key f).mapObjectAt other g := by
  unfold mapObjectAt
  rw [mapObject_mapObject, mapObject_mapObject]
  congr 1
  funext fields
  exact mapField_comm h _ _

/-- Two values that agree after a change to an object under a name are the same, if the change
tells apart the objects that they have there. -/
theorem eq_of_mapObjectAt_eq {value other : Json}
    (h : value.mapObjectAt key f = other.mapObjectAt key f)
    (hinner : ∀ fields fields', objectAt key value = some fields → objectAt key other = some fields'
      → f fields = f fields' → fields = fields') : value = other := by
  have hobject : ∀ {fields : List (Text × Json)} {value : Json},
      .object fields = value.mapObjectAt key f → ∃ others, value = .object others := by
    intro fields value hvalue
    cases value with
    | object others => exact ⟨others, rfl⟩
    | _ => cases hvalue
  cases value with
  | object fields =>
    obtain ⟨others, rfl⟩ := hobject h
    have hfields := Json.object.inj h
    have hlookup : (fields.lookup key).map (mapObject f) =
        (others.lookup key).map (mapObject f) := by
      rw [← lookup_mapField_self, hfields, lookup_mapField_self]
    refine congrArg Json.object (eq_of_mapField_eq hfields ?_)
    cases hleft : fields.lookup key with
    | none =>
      rw [hleft] at hlookup
      exact (Option.map_eq_none_iff.mp hlookup.symm).symm
    | some left =>
      rw [hleft] at hlookup
      obtain ⟨right, hright, hmapped⟩ := Option.map_eq_some_iff.mp hlookup.symm
      rw [hright]
      refine congrArg some ?_
      cases left with
      | object inner =>
        cases right with
        | object inner' =>
          have hleftAt : objectAt key (.object fields) = some inner := by
            rw [objectAt, get, asObject, Option.bind_some, hleft]
            rfl
          have hrightAt : objectAt key (.object others) = some inner' := by
            rw [objectAt, get, asObject, Option.bind_some, hright]
            rfl
          exact congrArg Json.object
            (hinner inner inner' hleftAt hrightAt (Json.object.inj hmapped).symm)
        | _ => cases hmapped
      | _ =>
        cases right with
        | object inner' => cases hmapped
        | _ => exact hmapped.symm
  | _ =>
    cases other with
    | object others => cases h
    | _ => exact h

/-- Functions that agree change a field alike. -/
theorem mapObjectAt_congr {value : Json} (h : ∀ fields, f fields = g fields) :
    value.mapObjectAt key f = value.mapObjectAt key g := by
  rw [funext h]

end Json

end DbxSpec.Base
