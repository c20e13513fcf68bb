import Aiphabee.SandboxAuth.SignedToken

/-!
# Members of parsed values

What a program reads of a value that was parsed from JSON: whether it is an
object, and its members, which are undefined where the value is none.
-/

namespace Aiphabee.JsonMembers

open SandboxAuth (JsonValue fieldValue)

/-- The value is an object or an array: `typeof value === "object"`, and no null. -/
def isObject : JsonValue → Bool
  | .array _ => true
  | .object _ => true
  | _ => false

def member (value : JsonValue) (key : String) : Option JsonValue :=
  match value with
  | .object fields => fieldValue fields key
  | _ => none

def stringMember (value : JsonValue) (key : String) : Option JsText :=
  match member value key with
  | some (.string text) => some text
  | _ => none

def booleanMember (value : JsonValue) (key : String) : Option Bool :=
  match member value key with
  | some (.boolean flag) => some flag
  | _ => none

theorem isObject_of_stringMember {value : JsonValue} {key : String} {text : JsText}
    (h : stringMember value key = some text) : isObject value = true := by
  cases value with
  | object fields => rfl
  | array elements => rfl
  | null => simp [stringMember, member] at h
  | boolean flag => simp [stringMember, member] at h
  | number number => simp [stringMember, member] at h
  | string other => simp [stringMember, member] at h

end Aiphabee.JsonMembers
