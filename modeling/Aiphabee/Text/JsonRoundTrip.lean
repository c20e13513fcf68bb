import Aiphabee.Text.StableJson

/-!
# Values that go through JSON

What JSON can write has nothing undefined in it, and it comes back as it was.  A
field with an undefined value is lost on the way, so that an object comes back
whole exactly when it comes back with as many fields.  A value whose objects
have their fields in order comes back in order.
-/

namespace Aiphabee.StableJson

section RoundTrips

mutual

/-- Nothing in the value is undefined: JSON can write it. -/
def IsJson : Value → Prop
  | .undefined => False
  | .array elements => AllJson elements
  | .object fields => FieldsJson fields
  | _ => True

def AllJson : List Value → Prop
  | [] => True
  | value :: rest => IsJson value ∧ AllJson rest

def FieldsJson : List (JsText × Value) → Prop
  | [] => True
  | (_, value) :: rest => IsJson value ∧ FieldsJson rest

end

mutual

/-- `JSON.parse(JSON.stringify(value))`: undefined fields go, undefined elements become null. -/
def roundTrip : Value → Value
  | .undefined => .undefined
  | .null => .null
  | .boolean value => .boolean value
  | .number value => .number value
  | .string value => .string value
  | .array elements => .array (roundTripElements elements)
  | .object fields => .object (roundTripFields fields)

def roundTripElements : List Value → List Value
  | [] => []
  | .undefined :: rest => .null :: roundTripElements rest
  | value :: rest => roundTrip value :: roundTripElements rest

def roundTripFields : List (JsText × Value) → List (JsText × Value)
  | [] => []
  | (_, .undefined) :: rest => roundTripFields rest
  | (key, value) :: rest => (key, roundTrip value) :: roundTripFields rest

end

mutual

/-- What JSON can write comes back as it was. -/
theorem roundTrip_of_isJson (value : Value) (h : IsJson value) : roundTrip value = value := by
  cases value with
  | undefined => exact h.elim
  | array elements =>
    rw [roundTrip, roundTripElements_of_allJson elements h]
  | object fields =>
    rw [roundTrip, roundTripFields_of_fieldsJson fields h]
  | _ => rw [roundTrip]
termination_by structural value

theorem roundTripElements_of_allJson (elements : List Value) (h : AllJson elements) :
    roundTripElements elements = elements := by
  cases elements with
  | nil => rfl
  | cons value rest =>
    have hne : value ≠ .undefined := by
      rintro rfl
      exact h.1
    rw [roundTripElements, roundTrip_of_isJson value h.1,
      roundTripElements_of_allJson rest h.2]
    exact hne
termination_by structural elements

theorem roundTripFields_of_fieldsJson (fields : List (JsText × Value)) (h : FieldsJson fields) :
    roundTripFields fields = fields := by
  cases fields with
  | nil => rfl
  | cons field rest =>
    obtain ⟨key, value⟩ := field
    have hne : value ≠ .undefined := by
      rintro rfl
      exact h.1
    rw [roundTripFields, roundTrip_of_isJson value h.1,
      roundTripFields_of_fieldsJson rest h.2]
    exact hne
termination_by structural fields

end

mutual

theorem IsJson.regular (value : Value) (h : IsJson value) : Regular value := by
  cases value with
  | array elements => exact AllJson.regular elements h
  | object fields => exact FieldsJson.regular fields h
  | _ => trivial
termination_by structural value

theorem AllJson.regular (elements : List Value) (h : AllJson elements) :
    RegularElements elements := by
  cases elements with
  | nil => trivial
  | cons value rest =>
    refine ⟨?_, IsJson.regular value h.1, AllJson.regular rest h.2⟩
    rintro rfl
    exact h.1
termination_by structural elements

theorem FieldsJson.regular (fields : List (JsText × Value)) (h : FieldsJson fields) :
    RegularFields fields := by
  cases fields with
  | nil => trivial
  | cons field rest =>
    obtain ⟨key, value⟩ := field
    exact ⟨IsJson.regular value h.1, FieldsJson.regular rest h.2⟩
termination_by structural fields

end

/-- A value of JSON; the keys of its objects may come in any order. -/
abbrev JsonValue := { value : Value // IsJson value }

theorem fieldsJson_iff (fields : List (JsText × Value)) :
    FieldsJson fields ↔ ∀ field ∈ fields, IsJson field.2 := by
  induction fields with
  | nil => exact ⟨fun _ _ h => (List.not_mem_nil h).elim, fun _ => trivial⟩
  | cons field rest ih =>
    rw [FieldsJson, ih, List.forall_mem_cons]

mutual

theorem isJson_roundTrip (value : Value) (h : value ≠ .undefined) : IsJson (roundTrip value) := by
  cases value with
  | undefined => exact absurd rfl h
  | array elements => exact allJson_roundTripElements elements
  | object fields => exact fieldsJson_roundTripFields fields
  | _ => trivial
termination_by structural value

theorem allJson_roundTripElements (elements : List Value) :
    AllJson (roundTripElements elements) := by
  cases elements with
  | nil => trivial
  | cons value rest =>
    by_cases hdefined : value = .undefined
    · rw [hdefined, roundTripElements]
      exact ⟨trivial, allJson_roundTripElements rest⟩
    · rw [roundTripElements]
      · exact ⟨isJson_roundTrip value hdefined, allJson_roundTripElements rest⟩
      · exact hdefined
termination_by structural elements

theorem fieldsJson_roundTripFields (fields : List (JsText × Value)) :
    FieldsJson (roundTripFields fields) := by
  cases fields with
  | nil => trivial
  | cons field rest =>
    obtain ⟨key, value⟩ := field
    by_cases hdefined : value = .undefined
    · rw [hdefined, roundTripFields]
      exact fieldsJson_roundTripFields rest
    · rw [roundTripFields]
      · exact ⟨isJson_roundTrip value hdefined, fieldsJson_roundTripFields rest⟩
      · exact hdefined
termination_by structural fields

end

theorem length_roundTripFields_le (fields : List (JsText × Value)) :
    (roundTripFields fields).length ≤ fields.length := by
  induction fields with
  | nil => exact Nat.le_refl 0
  | cons field rest ih =>
    obtain ⟨key, value⟩ := field
    by_cases hdefined : value = .undefined
    · rw [hdefined, roundTripFields]
      exact Nat.le_succ_of_le ih
    · rw [roundTripFields]
      · exact Nat.succ_le_succ ih
      · exact hdefined

variable {fields : List (JsText × Value)}

/-- An object that comes back with as many fields had no undefined one. -/
theorem defined_of_length_roundTripFields (h : (roundTripFields fields).length = fields.length) :
    ∀ field ∈ fields, field.2 ≠ .undefined := by
  induction fields with
  | nil => exact fun _ hfield => (List.not_mem_nil hfield).elim
  | cons field rest ih =>
    obtain ⟨key, value⟩ := field
    have hle := length_roundTripFields_le rest
    have hdefined : value ≠ .undefined := by
      rintro rfl
      rw [roundTripFields, List.length_cons] at h
      omega
    rw [roundTripFields, List.length_cons, List.length_cons] at h
    · refine List.forall_mem_cons.mpr ⟨hdefined, ih (Nat.succ.inj h)⟩
    · exact hdefined

theorem roundTripFields_of_defined (h : ∀ field ∈ fields, field.2 ≠ .undefined) :
    roundTripFields fields = fields.map fun field => (field.1, roundTrip field.2) := by
  induction fields with
  | nil => rfl
  | cons field rest ih =>
    obtain ⟨key, value⟩ := field
    obtain ⟨hdefined, hrest⟩ := List.forall_mem_cons.mp h
    rw [roundTripFields, ih hrest, List.map_cons]
    exact hdefined

theorem roundTripElements_of_defined {elements : List Value}
    (h : ∀ element ∈ elements, element ≠ .undefined) :
    roundTripElements elements = elements.map roundTrip := by
  induction elements with
  | nil => rfl
  | cons value rest ih =>
    obtain ⟨hdefined, hrest⟩ := List.forall_mem_cons.mp h
    rw [roundTripElements, ih hrest, List.map_cons]
    exact hdefined

end RoundTrips

mutual

def Ordered : Value → Prop
  | .array elements => OrderedElements elements
  | .object fields => fields.Pairwise keyBefore ∧ OrderedFields fields
  | _ => True

def OrderedElements : List Value → Prop
  | [] => True
  | value :: rest => Ordered value ∧ OrderedElements rest

def OrderedFields : List (JsText × Value) → Prop
  | [] => True
  | (_, value) :: rest => Ordered value ∧ OrderedFields rest

end

theorem orderedElements_iff (elements : List Value) :
    OrderedElements elements ↔ ∀ element ∈ elements, Ordered element := by
  induction elements with
  | nil => exact ⟨fun _ _ h => (List.not_mem_nil h).elim, fun _ => trivial⟩
  | cons value rest ih =>
    rw [OrderedElements, ih, List.forall_mem_cons]

theorem orderedFields_iff (fields : List (JsText × Value)) :
    OrderedFields fields ↔ ∀ field ∈ fields, Ordered field.2 := by
  induction fields with
  | nil => exact ⟨fun _ _ h => (List.not_mem_nil h).elim, fun _ => trivial⟩
  | cons field rest ih =>
    rw [OrderedFields, ih, List.forall_mem_cons]

mutual

theorem canonical_of_ordered (value : Value) (h : Ordered value) : canonical value = value := by
  cases value with
  | array elements =>
    rw [canonical, canonicalElements_of_ordered elements h]
  | object fields =>
    rw [canonical, canonicalFields_of_ordered fields h.2, h.1.insertionSort_eq]
  | _ => rw [canonical]
termination_by structural value

theorem canonicalElements_of_ordered (elements : List Value) (h : OrderedElements elements) :
    canonicalElements elements = elements := by
  cases elements with
  | nil => rfl
  | cons value rest =>
    rw [canonicalElements, canonical_of_ordered value h.1,
      canonicalElements_of_ordered rest h.2]
termination_by structural elements

theorem canonicalFields_of_ordered (fields : List (JsText × Value)) (h : OrderedFields fields) :
    canonicalFields fields = fields := by
  cases fields with
  | nil => rfl
  | cons field rest =>
    obtain ⟨key, value⟩ := field
    rw [canonicalFields, canonical_of_ordered value h.1, canonicalFields_of_ordered rest h.2]
termination_by structural fields

end

theorem key_mem_of_mem_roundTripFields {field : JsText × Value}
    (h : field ∈ roundTripFields fields) : ∃ old ∈ fields, old.1 = field.1 := by
  induction fields with
  | nil => cases h
  | cons other rest ih =>
    obtain ⟨key, value⟩ := other
    by_cases hdefined : value = .undefined
    · rw [hdefined, roundTripFields] at h
      obtain ⟨old, hold, hkey⟩ := ih h
      exact ⟨old, List.mem_cons_of_mem _ hold, hkey⟩
    · rw [roundTripFields] at h
      · rcases List.mem_cons.mp h with rfl | hrest
        · exact ⟨_, List.mem_cons_self, rfl⟩
        · obtain ⟨old, hold, hkey⟩ := ih hrest
          exact ⟨old, List.mem_cons_of_mem _ hold, hkey⟩
      · exact hdefined

theorem pairwise_roundTripFields (h : fields.Pairwise keyBefore) :
    (roundTripFields fields).Pairwise keyBefore := by
  induction fields with
  | nil => exact h
  | cons field rest ih =>
    obtain ⟨key, value⟩ := field
    obtain ⟨hfirst, hrest⟩ := List.pairwise_cons.mp h
    by_cases hdefined : value = .undefined
    · rw [hdefined, roundTripFields]
      exact ih hrest
    · rw [roundTripFields]
      · refine List.pairwise_cons.mpr ⟨fun other hother => ?_, ih hrest⟩
        obtain ⟨old, hold, hkey⟩ := key_mem_of_mem_roundTripFields hother
        have hbefore := hfirst old hold
        rw [keyBefore, hkey] at hbefore
        exact hbefore
      · exact hdefined

mutual

theorem Ordered.roundTrip (value : Value) (h : Ordered value) : Ordered (roundTrip value) := by
  cases value with
  | array elements => exact OrderedElements.roundTrip elements h
  | object fields => exact ⟨pairwise_roundTripFields h.1, OrderedFields.roundTrip fields h.2⟩
  | _ => trivial
termination_by structural value

theorem OrderedElements.roundTrip (elements : List Value) (h : OrderedElements elements) :
    OrderedElements (roundTripElements elements) := by
  cases elements with
  | nil => trivial
  | cons value rest =>
    by_cases hdefined : value = .undefined
    · rw [hdefined, roundTripElements]
      exact ⟨trivial, OrderedElements.roundTrip rest h.2⟩
    · rw [roundTripElements]
      · exact ⟨Ordered.roundTrip value h.1, OrderedElements.roundTrip rest h.2⟩
      · exact hdefined
termination_by structural elements

theorem OrderedFields.roundTrip (fields : List (JsText × Value)) (h : OrderedFields fields) :
    OrderedFields (roundTripFields fields) := by
  cases fields with
  | nil => trivial
  | cons field rest =>
    obtain ⟨key, value⟩ := field
    by_cases hdefined : value = .undefined
    · rw [hdefined, roundTripFields]
      exact OrderedFields.roundTrip rest h.2
    · rw [roundTripFields]
      · exact ⟨Ordered.roundTrip value h.1, OrderedFields.roundTrip rest h.2⟩
      · exact hdefined
termination_by structural fields

end

def orUndefined : Option Value → Value
  | none => .undefined
  | some value => value

def record (fields : List (String × Value)) : Value :=
  .object (fields.map fun field => (JsText.ofString field.1, field.2))

theorem ordered_record {fields : List (String × Value)}
    (hnames : ((fields.map Prod.fst).map JsText.ofString).Pairwise (· ≤ ·))
    (hvalues : ∀ field ∈ fields, Ordered field.2) : Ordered (record fields) := by
  rw [record, Ordered, orderedFields_iff]
  constructor
  · rw [List.map_map, List.pairwise_map] at hnames
    exact List.pairwise_map.mpr hnames
  · intro field hfield
    obtain ⟨named, hnamed, rfl⟩ := List.mem_map.mp hfield
    exact hvalues named hnamed

end Aiphabee.StableJson
