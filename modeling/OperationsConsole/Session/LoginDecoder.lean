/-
This file gives the login the JSON reader of the language. A body that tells a lifetime is read without
a bearer, and a body that was written with one signs in.
-/

import OperationsConsole.Proxy.JsonBodies
import OperationsConsole.Session.LoginContract

namespace OperationsConsole.Session

open Library hiding Json
open Library.JsonText

section Conversion

-- A float of the reader is a double.
variable {φ : Type} (double : φ → Double)

mutual

def jsonOf : Value φ → Library.Json
  | .null => .null
  | .bool value => .bool value
  | .int value => .int value
  | .float value => .float (double value)
  | .text value => .text value
  | .list items => .list (jsonItems items)
  | .dict items => .dict (jsonMembers items)

def jsonItems : List (Value φ) → List Library.Json
  | [] => []
  | item :: rest => jsonOf item :: jsonItems rest

def jsonMembers : List (PyText × Value φ) → List (PyText × Library.Json)
  | [] => []
  | member :: rest => jsonMember member :: jsonMembers rest

def jsonMember : PyText × Value φ → PyText × Library.Json
  | (key, value) => (key, jsonOf value)

end

/-- The conversion keeps the members of a dictionary. -/
theorem lookup_jsonMembers (items : List (PyText × Value φ)) (key : PyText) :
    (jsonMembers double items).lookup key = (items.lookup key).map (jsonOf double) := by
  induction items with
  | nil => rfl
  | cons item rest ih =>
      obtain ⟨name, value⟩ := item
      rw [jsonMembers, jsonMember, List.lookup_cons, List.lookup_cons]
      cases key == name with
      | true => rfl
      | false => exact ih

end Conversion

section Reading

variable {φ : Type} (format : FloatFormat φ) (double : φ → Double)
variable (decode : List UInt8 → Option PyText) (limit : ℕ)

/-- A body that nests too deeply has the value that a reader with enough room gives it. -/
def readLoginBody (raw : List UInt8) : LoginBody :=
  match Proxy.loadsBytes format decode limit raw with
  | .ok value => .read (jsonOf double value)
  | .error .recursionError =>
      -- Every container takes a byte.
      match Proxy.loadsBytes format decode raw.length raw with
      | .ok value => .tooDeep (jsonOf double value)
      | .error _ => .tooDeep .null
  | .error _ => .malformed

/-- A body has no bearer if no reading of it has one. -/
theorem bearer_eq_none (raw : List UInt8)
    (silent : ∀ room value, Proxy.loadsBytes format decode room raw = .ok value →
      (LoginBody.read (jsonOf double value)).bearer = none) :
    (readLoginBody format double decode limit raw).bearer = none := by
  unfold readLoginBody
  split
  · rename_i value read
    exact silent limit value read
  · split
    · rename_i value read
      exact silent raw.length value read
    · rfl
  · rfl

/-- The lifetime is an integer, or it is unknown. -/
def lifetimeValue : Option Nat → Value φ
  | some seconds => .int seconds
  | none => .null

/-- The console writes the lifetime as the language does. -/
theorem lifetimeChars_dumps (lifetime : Option Nat) :
    lifetimeChars lifetime = dumps format (.dict [(literal "expires_in", lifetimeValue lifetime)]) := by
  have value : (lifetimeText lifetime).toList = dumps format (lifetimeValue lifetime) := by
    cases lifetime with
    | none => rfl
    | some seconds =>
        change (toString seconds).toList = writeInt (seconds : ℤ)
        rw [writeInt, if_neg (by omega), Int.natAbs_natCast]
        exact String.toList_ofList
  have key : writeText (literal "expires_in") = '"' :: ("expires_in".toList ++ ['"']) := by
    decide +kernel
  rw [lifetimeChars, value]
  simp [dumps, dumpsMembers_eq_map, dumpsMember, key]

-- The bytes of an ASCII text tell the text.
variable (ascii : ∀ text, IsAscii text → decode (utf8 (String.ofList text)) = some (symbols text))
include ascii

/-- Whatever is read of a body that tells a lifetime is the lifetime. -/
theorem loadsBytes_lifetime (room : ℕ) (lifetime : Option Nat) (value : Value φ)
    (read : Proxy.loadsBytes format decode room (lifetimeContent lifetime) = .ok value) :
    value = .dict [(literal "expires_in", lifetimeValue lifetime)] := by
  have text : decode (lifetimeContent lifetime) =
      some (symbols (dumps format (.dict [(literal "expires_in", lifetimeValue lifetime)]))) := by
    rw [lifetimeContent_eq, ascii _ (lifetimeChars_ascii lifetime), lifetimeChars_dumps format]
  rw [Proxy.loadsBytes, text] at read
  have plain : (lifetimeValue lifetime : Value φ).isContainer = false := by
    cases lifetime <;> rfl
  have settled : settle (lifetimeValue lifetime : Value φ) = lifetimeValue lifetime := by
    cases lifetime <;> rfl
  rw [loads_dict_plain format room _ _ value plain read, joined_literal, settled]

/-- A body that tells a lifetime has no bearer. -/
theorem lifetime_silent (lifetime : Option Nat) :
    (readLoginBody format double decode limit (lifetimeContent lifetime)).bearer = none := by
  apply bearer_eq_none
  intro room value read
  rw [loadsBytes_lifetime format decode ascii room lifetime value read]
  rfl

/-- This is the JSON reader of the language as the login uses it. -/
def jsonDecoder : Decoder where
  loads := readLoginBody format double decode limit
  silent := lifetime_silent format double decode limit ascii

/-- The login answers a body that was written as a dictionary by the members of the dictionary. -/
theorem signedInResponse_written (cookie : SessionCookie) (items : List (PyText × Value φ))
    (whole : Whole (.dict items)) (fits : Fits limit (.dict items)) :
    signedInResponse (jsonDecoder format double decode limit ascii) cookie
        (utf8 (String.ofList (dumps format (.dict items)))) =
      .ok (bodyResponse cookie (.read (.dict (jsonMembers double items)))) := by
  have printed : IsAscii (dumps format (.dict items)) := by
    intro symbol member
    have printable := printable_dumps format (.dict items) symbol member
    rw [isPrintable, Bool.and_eq_true, decide_eq_true_eq, decide_eq_true_eq] at printable
    exact Nat.lt_of_le_of_lt (Char.le_def.mp printable.2) (by decide)
  have read : (jsonDecoder format double decode limit ascii).loads
      (utf8 (String.ofList (dumps format (.dict items)))) =
        .read (.dict (jsonMembers double items)) := by
    change readLoginBody format double decode limit _ = _
    rw [readLoginBody, Proxy.loadsBytes, ascii _ printed]
    dsimp only
    rw [loads_dumps format limit _ fits, settle_of_whole _ whole]
    rfl
  rw [signedInResponse_shallow, read]
  intro value same
  rw [read] at same
  cases same

/-- A body that was written with a usable bearer signs in, and the cookie keeps the bearer for the
lifetime of the body. -/
theorem signedInResponse_bearer (cookie : SessionCookie) (items : List (PyText × Value φ))
    (whole : Whole (.dict items)) (fits : Fits limit (.dict items)) (raw : PyText) (token : String)
    (held : items.lookup (literal "access_token") = some (.text raw))
    (usable : usableBearer raw = some token) (lifetime : Option Nat)
    (lives : items.lookup (literal "expires_in") = some (lifetimeValue lifetime))
    (positive : lifetime ≠ some 0) :
    signedInResponse (jsonDecoder format double decode limit ascii) cookie
        (utf8 (String.ofList (dumps format (.dict items)))) =
      .ok { status := 200, content := lifetimeContent lifetime, cacheControl := some "no-store",
            setCookie := some (cookie.set token lifetime) } := by
  have bearer : (LoginBody.read (.dict (jsonMembers double items))).bearer = some token := by
    unfold LoginBody.bearer LoginBody.value Library.Json.field
    dsimp only
    rw [lookup_jsonMembers, held]
    exact usable
  have told : (LoginBody.read (.dict (jsonMembers double items))).lifetime = lifetime := by
    change positiveInteger (((jsonMembers double items).lookup (literal "expires_in")).getD .null) = _
    rw [lookup_jsonMembers, lives]
    cases lifetime with
    | none => rfl
    | some seconds =>
        have some_ne_zero : (0 : ℤ) < seconds := by
          have filled : seconds ≠ 0 := fun zero => positive (congrArg some zero)
          omega
        change (if (0 : ℤ) < seconds then some (seconds : ℤ).toNat else none) = _
        rw [if_pos some_ne_zero, Int.toNat_natCast]
  rw [signedInResponse_written format double decode limit ascii cookie items whole fits]
  unfold bodyResponse
  rw [bearer]
  dsimp only
  rw [cookieResponse, told]

end Reading

end OperationsConsole.Session
