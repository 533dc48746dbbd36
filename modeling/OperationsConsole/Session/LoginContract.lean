/-
This file decides for which answers of catalog-api a login keeps the bearer from the page.
The cookie that it sets brings the same bearer back with the next request.
-/

import OperationsConsole.Library.Ascii
import OperationsConsole.Library.Splitting
import OperationsConsole.Session.LoginResponse

namespace OperationsConsole.Session

open Library hiding Json

section Bearers

/-- These are the characters of a bearer. -/
def IsBearerChar (symbol : Char) : Prop := isTokenChar symbol = true ∨ symbol = '='

/-- The characters of a bearer are visible ASCII. -/
theorem bearerChar_range (symbol : Char) (bearer : IsBearerChar symbol) :
    33 ≤ symbol.toNat ∧ symbol.toNat ≤ 126 := by
  rcases bearer with token | rfl
  · unfold isTokenChar at token
    rw [decide_eq_true_eq] at token
    rcases token with letter | sign
    · rw [isAlphanum_iff] at letter
      omega
    · have all : "-._~+/".toList.all fun symbol => 33 ≤ symbol.toNat ∧ symbol.toNat ≤ 126 := by
        decide
      exact of_decide_eq_true (List.all_eq_true.mp all symbol sign)
  · decide

theorem dropWhile_none (stop : Char → Bool) (text : List Char)
    (none : ∀ symbol ∈ text, stop symbol = false) : text.dropWhile stop = text := by
  cases text with
  | nil => rfl
  | cons symbol text => exact List.dropWhile_cons_of_neg (by rw [none symbol List.mem_cons_self]; simp)

/-- A bearer has no whitespace at its ends. -/
theorem strip_bearer (text : List Char) (bearer : ∀ symbol ∈ text, IsBearerChar symbol) :
    strip text = text := by
  have spaceless (symbol : Char) (member : symbol ∈ text) :
      decide ((9 ≤ symbol.toNat ∧ symbol.toNat ≤ 13) ∨ (28 ≤ symbol.toNat ∧ symbol.toNat ≤ 32) ∨
        symbol.toNat ∈ [133, 160, 5760] ∨ (8192 ≤ symbol.toNat ∧ symbol.toNat ≤ 8202) ∨
          symbol.toNat ∈ [8232, 8233, 8239, 8287, 12288]) = false := by
    have range := bearerChar_range symbol (bearer symbol member)
    rw [decide_eq_false_iff_not]
    simp only [List.mem_cons, List.not_mem_nil, or_false]
    omega
  unfold strip
  dsimp only
  rw [dropWhile_none _ text spaceless, dropWhile_none _ text.reverse fun symbol member =>
    spaceless symbol (List.mem_reverse.mp member), List.reverse_reverse]

/-- The credentials of a bearer are token characters and then equals signs. -/
structure WellFormed (credentials : List Char) : Prop where
  filled : 1 ≤ (credentials.takeWhile isTokenChar).length
  bounded : (credentials.takeWhile isTokenChar).length ≤ 4096
  padded : (credentials.drop (credentials.takeWhile isTokenChar).length).all
    (fun symbol => symbol = '=') = true

/-- Well-formed credentials have the characters of a bearer only. -/
theorem WellFormed.chars {credentials : List Char} (formed : WellFormed credentials) :
    ∀ symbol ∈ credentials, IsBearerChar symbol := by
  intro symbol member
  rw [← List.take_append_drop (credentials.takeWhile isTokenChar).length credentials,
    List.mem_append] at member
  rcases member with token | padding
  · rw [← List.prefix_iff_eq_take.mp (List.takeWhile_prefix isTokenChar)] at token
    exact .inl (List.mem_takeWhile_imp token)
  · exact .inr (of_decide_eq_true (List.all_eq_true.mp formed.padded symbol padding))

/-- Well-formed credentials are accepted after the scheme of a bearer. -/
theorem bearerToken_bearer (credentials : List Char) (formed : WellFormed credentials) :
    bearerToken (some ("Bearer " ++ String.ofList credentials)) =
      some (String.ofList credentials) := by
  have text : ("Bearer " ++ String.ofList credentials).toList =
      "Bearer".toList ++ ' ' :: credentials := by
    have own : (String.ofList credentials).toList = credentials := String.toList_ofList
    rw [String.toList_append, own]
    rfl
  have scheme : ("Bearer".toList ++ ' ' :: credentials).takeWhile (fun symbol => symbol ≠ ' ') =
      "Bearer".toList := rfl
  have rest : ("Bearer".toList ++ ' ' :: credentials).drop ("Bearer".toList.length + 1) =
      credentials := rfl
  unfold bearerToken
  rw [Option.getD_some, text]
  dsimp only
  rw [scheme, rest, strip_bearer credentials formed.chars]
  have lower : (String.ofList "Bearer".toList).toLower = "bearer" := by decide +kernel
  exact if_pos ⟨lower, formed.filled, formed.bounded, formed.padded⟩

/-- An accepted token has well-formed characters. -/
theorem wellFormed_of_bearerToken (authorization : Option String) (token : String)
    (found : bearerToken authorization = some token) : WellFormed token.toList := by
  unfold bearerToken at found
  dsimp only at found
  split at found
  · rename_i accepted
    rw [← Option.some.inj found, String.toList_ofList]
    exact ⟨accepted.2.1, accepted.2.2.1, accepted.2.2.2⟩
  · cases found

theorem WellFormed.ascii {credentials : List Char} (formed : WellFormed credentials) :
    IsAscii credentials := fun symbol member =>
  Nat.lt_of_le_of_lt (bearerChar_range symbol (formed.chars symbol member)).2 (by decide)

/-- The bearer of a body is well formed. -/
theorem LoginBody.bearer_wellFormed (body : LoginBody) (token : String)
    (found : body.bearer = some token) : WellFormed token.toList := by
  unfold LoginBody.bearer at found
  split at found
  · obtain ⟨raw, _, accepted⟩ := Option.bind_eq_some_iff.mp found
    exact wellFormed_of_bearerToken _ token accepted
  · cases found

end Bearers

section Responses

variable (decoder : Decoder) (cookie : SessionCookie)

/-- The response that sets the cookie for a bearer. -/
def cookieResponse (body : LoginBody) (token : String) : LoginResponse where
  status := 200
  content := lifetimeContent body.lifetime
  cacheControl := some "no-store"
  setCookie := some (cookie.set token body.lifetime)

/-- The response for a body without a usable bearer. -/
def unusableResponse : LoginResponse := { status := 502, content := unusableContent }

def bodyResponse (body : LoginBody) : LoginResponse :=
  match body.bearer with
  | none => unusableResponse
  | some token => cookieResponse cookie body token

theorem subscript_dict (items : List (PyText × Library.Json)) (key : String) :
    subscript (.dict items) key = match items.lookup (literal key) with
      | some found => .ok found
      | none => .error .keyError := rfl

/-- The credentials of a body that is read are its two fields. -/
theorem credentials_read (content : List UInt8) (value : Library.Json)
    (body : decoder.loads content = .read value) :
    credentials decoder content = (subscript value "access_token" >>= fun rawToken =>
      value.get "expires_in" .null >>= fun expiresIn => pure (rawToken, expiresIn)) := by
  unfold credentials issued
  rw [body]
  rfl

/-- The caught credentials are those of the body, unless it is nested too deeply. -/
theorem caughtCredentials_shallow (content : List UInt8)
    (shallow : ∀ value, decoder.loads content ≠ .tooDeep value) :
    ∃ rawToken expiresIn, caughtCredentials decoder content = .ok (rawToken, expiresIn) ∧
      tokenOf rawToken = (decoder.loads content).bearer ∧
        ((decoder.loads content).bearer ≠ none →
          positiveInteger expiresIn = (decoder.loads content).lifetime) := by
  have refused (failure : Raised) (caught : failure ∈ [.valueError, .keyError, .typeError])
      (failed : credentials decoder content = .error failure)
      (absent : (decoder.loads content).bearer = none) :
      ∃ rawToken expiresIn, caughtCredentials decoder content = .ok (rawToken, expiresIn) ∧
        tokenOf rawToken = (decoder.loads content).bearer ∧
          ((decoder.loads content).bearer ≠ none →
            positiveInteger expiresIn = (decoder.loads content).lifetime) := by
    refine ⟨.null, .null, ?_, absent.symm, fun present => absurd absent present⟩
    unfold caughtCredentials
    rw [failed]
    simp only [List.mem_cons, List.not_mem_nil, or_false] at caught
    rcases caught with rfl | rfl | rfl <;> rfl
  cases body : decoder.loads content with
  | tooDeep value => exact absurd body (shallow value)
  | malformed =>
      rw [← body]
      refine refused .valueError (by decide) ?_ (by rw [body]; rfl)
      unfold credentials issued
      rw [body]
      rfl
  | read value =>
      rw [← body]
      have opened := credentials_read decoder content value body
      by_cases fields : value.isDict = true
      · obtain ⟨items, rfl⟩ : ∃ items, value = .dict items := by
          cases value <;> simp [Library.Json.isDict] at fields
          exact ⟨_, rfl⟩
        rw [subscript_dict] at opened
        cases found : items.lookup (literal "access_token") with
        | none =>
            rw [found] at opened
            refine refused .keyError (by decide) opened ?_
            rw [body]
            unfold LoginBody.bearer LoginBody.value Library.Json.field
            dsimp only
            rw [found]
            rfl
        | some rawToken =>
            rw [found] at opened
            refine ⟨rawToken, (items.lookup (literal "expires_in")).getD .null, ?_, ?_, ?_⟩
            · unfold caughtCredentials
              rw [opened]
              rfl
            · rw [body]
              unfold LoginBody.bearer LoginBody.value Library.Json.field tokenOf
              dsimp only
              rw [found, Option.getD_some]
            · rw [body]
              exact fun _ => rfl
      · have failed : subscript value "access_token" = .error .typeError := by
          cases value <;> first | rfl | exact absurd rfl fields
        rw [failed] at opened
        refine refused .typeError (by decide) opened ?_
        rw [body]
        unfold LoginBody.bearer LoginBody.value
        cases value <;> first | rfl | exact absurd rfl fields

/-- A body that is not nested too deeply gives the bearer to the cookie, or it is unusable. -/
theorem signedInResponse_shallow (content : List UInt8)
    (shallow : ∀ value, decoder.loads content ≠ .tooDeep value) :
    signedInResponse decoder cookie content =
      .ok (bodyResponse cookie (decoder.loads content)) := by
  obtain ⟨rawToken, expiresIn, caught, token, lifetime⟩ :=
    caughtCredentials_shallow decoder content shallow
  unfold signedInResponse
  rw [caught]
  change (match tokenOf rawToken with
    | none => pure unusableResponse
    | some token => pure
        { status := 200, content := lifetimeContent (positiveInteger expiresIn),
          cacheControl := some "no-store",
          setCookie := some (cookie.set token (positiveInteger expiresIn)) } :
            Except Raised LoginResponse) = _
  rw [token]
  unfold bodyResponse cookieResponse
  cases issued : (decoder.loads content).bearer with
  | none => rfl
  | some bearer =>
      rw [← lifetime (by rw [issued]; exact Option.some_ne_none _)]
      rfl

/-- A body that is nested too deeply lets an exception escape. -/
theorem signedInResponse_tooDeep (content : List UInt8) (value : Library.Json)
    (deep : decoder.loads content = .tooDeep value) :
    signedInResponse decoder cookie content = .error .recursionError := by
  unfold signedInResponse caughtCredentials credentials issued
  rw [deep]
  rfl

/-- A login touches no session, and it relays every answer but a sign-in. -/
theorem proxyLogin_answer (platform : Platform) (gate : SessionGate) (request : Request)
    (sent : List UInt8) (answer : CatalogAnswer) :
    proxyLogin decoder cookie platform (fun _ => some answer) gate request (some sent) =
      (gate, if answer.status ≠ 200 then .ok { toProxyResponse := okResponse answer }
        else signedInResponse decoder cookie answer.content) := by
  have proxied : proxyRequest platform (fun _ => some answer) cookie gate request
      (loginCall sent) = (gate, okResponse answer) := by
    unfold proxyRequest
    exact if_neg fun both => Bool.false_ne_true both.1
  unfold proxyLogin
  dsimp only
  rw [proxied]
  change (if answer.status ≠ 200 then _ else _) = _
  split
  · rfl
  · rfl

end Responses

section Found

theorem lifetimeText_ascii (lifetime : Option Nat) : IsAscii (lifetimeText lifetime).toList := by
  cases lifetime with
  | none =>
      have all : "null".toList.all fun symbol => symbol.toNat < 128 := by decide
      exact fun symbol member => of_decide_eq_true (List.all_eq_true.mp all symbol member)
  | some seconds =>
      intro symbol member
      change symbol ∈ (toString seconds).toList at member
      rw [Nat.toString_eq_ofList_toDigits, String.toList_ofList] at member
      have digit := Nat.isDigit_of_mem_toDigits (by omega) (by omega) member
      have bearer : IsBearerChar symbol := by
        refine .inl (decide_eq_true (.inl ?_))
        exact (Bool.or_eq_true _ _).mpr (.inr digit)
      exact Nat.lt_of_le_of_lt (bearerChar_range symbol bearer).2 (by decide)

/-- The signs of the lifetime's body are no characters of a bearer. -/
theorem not_bearerChar (symbol : Char) (other : symbol ∈ ['\x7b', '\x22', ':', '\x7d']) :
    ¬IsBearerChar symbol := by
  have none : ['\x7b', '\x22', ':', '\x7d'].all fun symbol =>
      !isTokenChar symbol && decide (symbol ≠ '=') := by decide
  have both := List.all_eq_true.mp none symbol other
  rw [Bool.and_eq_true, Bool.not_eq_true', decide_eq_true_eq] at both
  rintro (token | padding)
  · rw [both.1] at token
    cases token
  · exact both.2 padding

/-- The characters of the body that tells a lifetime. -/
def lifetimeChars (lifetime : Option Nat) : List Char :=
  [] ++ '\x7b' :: ([] ++ '\x22' :: ("expires_in".toList ++ '\x22' :: ([] ++ ':' ::
    ((lifetimeText lifetime).toList ++ '\x7d' :: []))))

/-- The body that tells a lifetime is made of these characters. -/
theorem lifetimeContent_eq (lifetime : Option Nat) :
    lifetimeContent lifetime = utf8 (String.ofList (lifetimeChars lifetime)) := by
  unfold lifetimeContent
  refine congrArg utf8 (String.toList_inj.mp ?_)
  rw [String.toList_ofList, String.toList_append, String.toList_append]
  unfold lifetimeChars
  simp

/-- The body that tells a lifetime is ASCII. -/
theorem lifetimeChars_ascii (lifetime : Option Nat) : IsAscii (lifetimeChars lifetime) := by
  intro symbol member
  have all : ("\x7b\x22expires_in\x22:\x7d").toList.all fun symbol => symbol.toNat < 128 := by
    decide
  by_cases text : symbol ∈ (lifetimeText lifetime).toList
  · exact lifetimeText_ascii lifetime symbol text
  · have framed : symbol ∈ ("\x7b\x22expires_in\x22:\x7d").toList := by
      unfold lifetimeChars at member
      simp only [List.nil_append, List.mem_cons, List.mem_append, text, false_or,
        List.not_mem_nil, or_false] at member
      simp only [String.reduceToList, List.mem_cons, List.not_mem_nil, or_false] at member ⊢
      tauto
    exact of_decide_eq_true (List.all_eq_true.mp all symbol framed)

/-- A bearer is found in the body that tells a lifetime only inside the name of the field or inside
the lifetime. -/
theorem infix_lifetimeContent_iff (token : String) (formed : WellFormed token.toList)
    (lifetime : Option Nat) :
    utf8 token <:+: lifetimeContent lifetime ↔
      token.toList <:+: "expires_in".toList ∨ token.toList <:+: (lifetimeText lifetime).toList := by
  have free (symbol : Char) (other : symbol ∈ ['\x7b', '\x22', ':', '\x7d']) :
      symbol ∉ token.toList := fun member => not_bearerChar symbol other (formed.chars symbol member)
  have filled : ¬token.toList <:+: [] := by
    intro inside
    have empty := List.infix_nil.mp inside
    have some := formed.filled
    rw [empty] at some
    exact absurd some (by decide)
  have bytes := infix_utf8_iff token.toList _ formed.ascii (lifetimeChars_ascii lifetime)
  rw [String.ofList_toList, ← lifetimeContent_eq] at bytes
  rw [bytes]
  unfold lifetimeChars
  rw [infix_append_cons_iff _ _ _ _ (free '\x7b' (by decide)), or_iff_right filled,
    infix_append_cons_iff _ _ _ _ (free '\x22' (by decide)), or_iff_right filled,
    infix_append_cons_iff _ _ _ _ (free '\x22' (by decide)),
    infix_append_cons_iff _ _ _ _ (free ':' (by decide)), or_iff_right filled,
    infix_append_cons_iff _ _ _ _ (free '\x7d' (by decide)), or_iff_left filled]

end Found

/-- An answer signals success with the one status that the console asks for, or with any status of
success. -/
inductive Success where
  | onlyOk
  | anySuccess

def Success.signals : Success → Nat → Bool
  | onlyOk, status => status = 200
  | anySuccess, status => 200 ≤ status && status < 300

section Contract

variable (success : Success) (decoder : Decoder) (cookie : SessionCookie) (answer : CatalogAnswer)

/-- A body hands over a bearer if the bearer is found in it or read from it. -/
def Hands (content : List UInt8) (token : String) : Prop :=
  utf8 token <:+: content ∨ (decoder.loads content).bearer = some token

/-- The framework reads the cookie under its name, without its quotes. -/
def Carries (request : Request) (sent : SetCookie) : Prop :=
  request.cookies.get? sent.name = some (String.ofList (CookieText.unquote sent.value))

/-- The page never sees the bearer, and the cookie brings the bearer back for its lifetime. -/
structure BearerKept (response : LoginResponse) : Prop where
  hidden : ∀ token, (decoder.loads answer.content).bearer = some token →
    ¬Hands decoder response.content token
  set : response.setCookie.isSome = true ↔
    success.signals answer.status = true ∧ (decoder.loads answer.content).bearer.isSome = true
  lifetime : ∀ sent, response.setCookie = some sent →
    sent.maxAge = (decoder.loads answer.content).lifetime
  refused : success.signals answer.status = true → (decoder.loads answer.content).bearer = none →
    response.status = 502 ∧ response.setCookie = none
  returned : ∀ sent token, response.setCookie = some sent →
    (decoder.loads answer.content).bearer = some token → ∀ request, Carries request sent →
      nonempty (request.header "authorization") = none →
        bearerToken (requestAuthorization cookie request) = some token

/-- Every other answer than a sign-in is no success and has no bearer, and the body of a sign-in
can be read and has a bearer that its lifetime does not show. -/
structure Keepable : Prop where
  decided : answer.status = 200 ∨
    success.signals answer.status = false ∧ (decoder.loads answer.content).bearer = none
  shallow : answer.status = 200 → ∀ value, decoder.loads answer.content ≠ .tooDeep value
  apart : answer.status = 200 → ∀ token, (decoder.loads answer.content).bearer = some token →
    ¬token.toList <:+: "expires_in".toList ∧
      ¬token.toList <:+: (lifetimeText (decoder.loads answer.content).lifetime).toList

/-- The next request with the cookie brings the bearer back. -/
theorem cookie_returns (body : LoginBody) (token : String) (formed : WellFormed token.toList)
    (request : Request) (carries : Carries request (cookie.set token body.lifetime))
    (free : nonempty (request.header "authorization") = none) :
    bearerToken (requestAuthorization cookie request) = some token := by
  have held : request.cookies.get? cookie.name = some token := by
    unfold Carries SessionCookie.set at carries
    rw [CookieText.unquote_quote, String.ofList_toList] at carries
    exact carries
  have filled : token ≠ "" := by
    rintro rfl
    exact absurd formed.filled (by decide)
  have read : cookie.read request = some token :=
    (nonempty_eq_some_iff _ token).mpr ⟨held, filled⟩
  have carried := (requestCredential_cookie_iff cookie request token).mpr ⟨free, read⟩
  unfold requestAuthorization
  rw [carried]
  have accepted := bearerToken_bearer token.toList formed
  rw [String.ofList_toList] at accepted
  exact accepted

theorem signals_ok : success.signals 200 = true := by
  cases success <;> rfl

theorem not_signals_502 : success.signals 502 = false := by
  cases success <;> rfl

/-- A sign-in keeps its bearer exactly if its lifetime does not show the bearer. -/
theorem bodyResponse_kept (ok : answer.status = 200) :
    BearerKept success decoder cookie answer
        (bodyResponse cookie (decoder.loads answer.content)) ↔
      ∀ token, (decoder.loads answer.content).bearer = some token →
        ¬token.toList <:+: "expires_in".toList ∧
          ¬token.toList <:+: (lifetimeText (decoder.loads answer.content).lifetime).toList := by
  have success := signals_ok success
  unfold bodyResponse
  cases issued : (decoder.loads answer.content).bearer with
  | none =>
      refine iff_of_true ⟨by simp [issued], ?_, ?_, ?_, ?_⟩ (by simp)
      · rw [issued]
        exact iff_of_false Bool.false_ne_true fun both => Bool.false_ne_true both.2
      · intro sent same
        cases same
      · exact fun _ _ => ⟨rfl, rfl⟩
      · intro sent token same
        cases same
  | some bearer =>
      have formed := (decoder.loads answer.content).bearer_wellFormed bearer issued
      have shown := infix_lifetimeContent_iff bearer formed (decoder.loads answer.content).lifetime
      constructor
      · intro kept token same
        rw [← Option.some.inj same, ← not_or, ← shown]
        exact fun found => kept.hidden bearer issued (.inl found)
      · intro apart
        refine ⟨?_, ?_, ?_, ?_, ?_⟩
        · intro token same hands
          rw [issued] at same
          rw [← Option.some.inj same] at hands
          rcases hands with found | found
          · exact not_or.mpr (apart bearer rfl) (shown.mp found)
          · change (decoder.loads (lifetimeContent _)).bearer = some bearer at found
            rw [decoder.silent] at found
            cases found
        · rw [ok, success, issued]
          exact iff_of_true rfl ⟨rfl, rfl⟩
        · rintro sent ⟨⟩
          rfl
        · intro _ none
          rw [issued] at none
          cases none
        · rintro sent token ⟨⟩ same request carries free
          rw [issued] at same
          rw [← Option.some.inj same]
          exact cookie_returns cookie _ bearer formed request carries free

/-- A relayed answer keeps its bearer exactly if it is no success and has no bearer. -/
theorem relayed_kept :
    BearerKept success decoder cookie answer { toProxyResponse := okResponse answer } ↔
      success.signals answer.status = false ∧ (decoder.loads answer.content).bearer = none := by
  constructor
  · intro kept
    have absent : (decoder.loads answer.content).bearer = none := by
      cases issued : (decoder.loads answer.content).bearer with
      | none => rfl
      | some token => exact absurd (.inr issued) (kept.hidden token issued)
    refine ⟨?_, absent⟩
    cases signalled : success.signals answer.status with
    | false => rfl
    | true =>
        obtain ⟨refused, _⟩ := kept.refused signalled absent
        have status : answer.status = 502 := refused
        rw [status, not_signals_502] at signalled
        cases signalled
  · rintro ⟨failed, absent⟩
    refine ⟨by simp [absent], ?_, ?_, ?_, ?_⟩
    · rw [failed]
      exact iff_of_false Bool.false_ne_true fun both => Bool.false_ne_true both.1
    · intro sent same
      cases same
    · intro signalled
      rw [failed] at signalled
      cases signalled
    · intro sent token same
      cases same

/-- A login answers and keeps the bearer exactly under this condition, for every answer. -/
theorem bearerKept_iff (platform : Platform) (gate : SessionGate) (request : Request)
    (sent : List UInt8) :
    (∃ response, (proxyLogin decoder cookie platform (fun _ => some answer) gate request
        (some sent)).2 = .ok response ∧ BearerKept success decoder cookie answer response) ↔
      Keepable success decoder answer := by
  rw [proxyLogin_answer]
  dsimp only
  by_cases ok : answer.status = 200
  · rw [if_neg (not_not.mpr ok)]
    by_cases deep : ∃ value, decoder.loads answer.content = .tooDeep value
    · obtain ⟨value, deep⟩ := deep
      rw [signedInResponse_tooDeep decoder cookie answer.content value deep]
      refine iff_of_false ?_ fun keepable => keepable.shallow ok value deep
      rintro ⟨response, same, _⟩
      cases same
    · have shallow (value : Library.Json) : decoder.loads answer.content ≠ .tooDeep value :=
        fun same => deep ⟨value, same⟩
      rw [signedInResponse_shallow decoder cookie answer.content shallow]
      have exact := bodyResponse_kept success decoder cookie answer ok
      constructor
      · rintro ⟨response, same, kept⟩
        rw [← Except.ok.inj same] at kept
        exact ⟨.inl ok, fun _ => shallow, fun _ => exact.mp kept⟩
      · intro keepable
        exact ⟨_, rfl, exact.mpr (keepable.apart ok)⟩
  · rw [if_pos ok]
    have exact := relayed_kept success decoder cookie answer
    constructor
    · rintro ⟨response, same, kept⟩
      rw [← Except.ok.inj same] at kept
      exact ⟨.inr (exact.mp kept), fun same => absurd same ok, fun same => absurd same ok⟩
    · intro keepable
      exact ⟨_, rfl, exact.mpr (keepable.decided.resolve_left ok)⟩

end Contract

section Relay

/-- A body issues a bearer for a minute. -/
def createdBody : List UInt8 :=
  utf8 "\x7b\x22access_token\x22:\x22abc.def\x22,\x22expires_in\x22:60\x7d"

/-- This reader knows the body by its first bytes. -/
def sampleDecoder : Decoder where
  loads := fun content =>
    if content.take 3 = [123, 34, 97] then
      .read (.dict [(literal "access_token", .text (literal "abc.def")),
        (literal "expires_in", .int 60)])
    else .malformed
  silent := by
    intro lifetime
    have start : (lifetimeContent lifetime).take 3 ≠ [123, 34, 97] := by
      rw [lifetimeContent_eq, utf8_ascii _ (lifetimeChars_ascii lifetime)]
      simp [lifetimeChars, asciiByte]
    rw [if_neg start]
    rfl

/-- An answer of another status of success hands the bearer to the page. -/
theorem bearerKept_fails : ¬∀ (success : Success) (decoder : Decoder) (cookie : SessionCookie)
    (answer : CatalogAnswer) (platform : Platform) (gate : SessionGate) (request : Request)
    (sent : List UInt8), ∃ response,
      (proxyLogin decoder cookie platform (fun _ => some answer) gate request (some sent)).2 =
        .ok response ∧ BearerKept success decoder cookie answer response := by
  intro every
  obtain ⟨response, same, kept⟩ := every .onlyOk sampleDecoder {} ⟨201, createdBody, none⟩
    samplePlatform { cache := { ttlSeconds := 30 } }
    { method := "POST", headers := [], cookies := Dict.empty } []
  rw [proxyLogin_answer] at same
  have issued : (sampleDecoder.loads createdBody).bearer = some "abc.def" := by decide +kernel
  have relayed : response.content = createdBody := by
    rw [← Except.ok.inj same]
    rfl
  refine kept.hidden "abc.def" issued (.inr ?_)
  rw [relayed]
  exact issued

end Relay

end OperationsConsole.Session
