import Aiphabee.Text.JsonMembers
import Aiphabee.Text.NumberText

/-!
# Comparisons and conversions of parsed values

`===` on what a program reads of a parsed value, and `String(…)` and `Number(…)`
of it.  Two parts of a parsed value are different objects, so that an array or
an object is strictly equal to no other part.
-/

namespace Aiphabee.JsonMembers

open JsText (ofString)
open SandboxAuth (JsonValue fieldValue)

mutual

def sameValue : JsonValue → JsonValue → Bool
  | .null, .null => true
  | .boolean first, .boolean second => first = second
  | .number first, .number second => first = second
  | .string first, .string second => first = second
  | .array first, .array second => sameElements first second
  | .object first, .object second => sameFields first second
  | _, _ => false

def sameElements : List JsonValue → List JsonValue → Bool
  | [], [] => true
  | value :: first, other :: second => sameValue value other && sameElements first second
  | _, _ => false

def sameFields : List (JsText × JsonValue) → List (JsText × JsonValue) → Bool
  | [], [] => true
  | (key, value) :: first, (otherKey, other) :: second =>
    key = otherKey && sameValue value other && sameFields first second
  | _, _ => false

end

mutual

theorem sameValue_iff (value other : JsonValue) : sameValue value other = true ↔ value = other := by
  cases value <;> cases other <;> simp [sameValue, sameElements_iff, sameFields_iff]

theorem sameElements_iff (first second : List JsonValue) :
    sameElements first second = true ↔ first = second := by
  cases first <;> cases second <;> simp [sameElements, sameValue_iff, sameElements_iff]

theorem sameFields_iff (first second : List (JsText × JsonValue)) :
    sameFields first second = true ↔ first = second := by
  match first, second with
  | [], [] => simp [sameFields]
  | [], _ :: _ => simp [sameFields]
  | _ :: _, [] => simp [sameFields]
  | (_, _) :: _, (_, _) :: _ => simp [sameFields, sameValue_iff, sameFields_iff]

end

instance : DecidableEq JsonValue := fun value other =>
  decidable_of_iff (sameValue value other = true) (sameValue_iff value other)

/-- `===` between two parts of parsed values; nothing stands for undefined. -/
def strictEquals : Option JsonValue → Option JsonValue → Bool
  | none, none => true
  | some .null, some .null => true
  | some (.boolean first), some (.boolean second) => first = second
  | some (.number first), some (.number second) => first.strictEquals second
  | some (.string first), some (.string second) => first = second
  | _, _ => false

variable {value : Option JsonValue}

theorem strictEquals_string {text : JsText} :
    strictEquals value (some (.string text)) = true ↔ value = some (.string text) := by
  rcases value with _ | _ | _ | _ | _ | _ | _ <;> simp [strictEquals]

theorem strictEquals_boolean {flag : Bool} :
    strictEquals value (some (.boolean flag)) = true ↔ value = some (.boolean flag) := by
  rcases value with _ | _ | _ | _ | _ | _ | _ <;> simp [strictEquals]

/-- `value ?? fallback`. -/
def orElse (value : Option JsonValue) (fallback : JsonValue) : JsonValue :=
  match value with
  | none | some .null => fallback
  | some value => value

mutual

/-- `String(value)`. -/
def toText : JsonValue → JsText
  | .null => ofString "null"
  | .boolean true => ofString "true"
  | .boolean false => ofString "false"
  | .number value => ofString (JsNumber.toText value)
  | .string value => value
  | .array elements => joinElements elements
  | .object _ => ofString "[object Object]"

/-- `elements.join(",")`, to which null adds nothing. -/
def joinElements : List JsonValue → JsText
  | [] => []
  | value :: rest => elementText value ++ joinRest rest

def joinRest : List JsonValue → JsText
  | [] => []
  | value :: rest => 44 :: (elementText value ++ joinRest rest)

def elementText : JsonValue → JsText
  | .null => []
  | .array elements => joinElements elements
  | .boolean true => ofString "true"
  | .boolean false => ofString "false"
  | .number value => ofString (JsNumber.toText value)
  | .string value => value
  | .object _ => ofString "[object Object]"

end

/-- `Number(value)`. -/
def toNumber : JsonValue → JsNumber
  | .null => .finite 0
  | .boolean value => .finite (if value then 1 else 0)
  | .number value => value
  | value => JsNumber.ofText (toText value)

/-- `isPlainRecord(value)`. -/
def isPlainRecord : Option JsonValue → Bool
  | some (.object _) => true
  | _ => false

/-- `Array.isArray(value)`, and what is in it. -/
def elements? : Option JsonValue → Option (List JsonValue)
  | some (.array elements) => some elements
  | _ => none

/-- A member of a part that may be undefined. -/
def memberOf (value : Option JsonValue) (key : String) : Option JsonValue :=
  value.bind fun value => member value key

theorem elements?_eq_some {elements : List JsonValue} :
    elements? value = some elements ↔ value = some (.array elements) := by
  rcases value with _ | _ | _ | _ | _ | _ | _ <;> simp [elements?]

end Aiphabee.JsonMembers
