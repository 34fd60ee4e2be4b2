/-
  Auth.SessionTokens — the session tokens of app/auth.py.

  A token is `body.signature`: the base64 text of a JSON payload and the one of its HMAC. Only
  the steps from the base64 text to the payload stand in a `try`; what the ASCII encoding, the
  comparison, `payload.get` and `int` raise is raised to the caller.
-/
import AutoCoinBot.Library.Base64
import AutoCoinBot.LiveStrategyPilot.Sizing

namespace AutoCoinBot

open Library

/-! ## What the libraries do -/

/-- A float that JSON text can stand for. -/
inductive JsonFloat where
  | nan
  | inf (positive : Bool)
  | finite (q : ℚ)

/-- What `json.loads` returns. -/
inductive JsonValue where
  | null
  | bool (b : Bool)
  | int (n : ℤ)
  | float (x : JsonFloat)
  | str (text : String)
  | list (items : List JsonValue)
  | dict (entries : List (String × JsonValue))

/-- How `json.loads` ends; a text that is nested too deep is no `ValueError`. -/
inductive Loaded where
  | value (payload : JsonValue)
  | valueError
  | recursionError

/-- What is not this program's: the digest of a key and a message, JSON, the integer in a text,
and the text of a value that is none. -/
structure Runtime where
  hmacSha256 : List UInt8 → List UInt8 → List UInt8
  dumps : JsonValue → String
  loads : String → Loaded
  intOfText : String → Option ℤ
  strOf : JsonValue → String

inductive AuthError where
  | unicodeEncodeError
  | typeError
  | attributeError
  | valueError
  | overflowError
  | recursionError
  | httpException (statusCode : ℕ) (detail : String)
  deriving DecidableEq

/-- `bool(value)` -/
def JsonValue.truthy : JsonValue → Bool
  | .null => false
  | .bool b => b
  | .int n => n != 0
  | .float (.finite q) => q != 0
  | .float _ => true
  | .str text => text != ""
  | .list items => !items.isEmpty
  | .dict entries => !entries.isEmpty

def JsonValue.isText : JsonValue → Bool
  | .str _ => true
  | _ => false

/-- `str(value)` -/
def JsonValue.toText (rt : Runtime) : JsonValue → String
  | .str text => text
  | value => rt.strOf value

/-- `int(value)` -/
def JsonValue.toInt (rt : Runtime) : JsonValue → Except AuthError ℤ
  | .bool b => .ok (if b then 1 else 0)
  | .int n => .ok n
  | .float (.finite q) => .ok (if 0 ≤ q then ⌊q⌋ else ⌈q⌉)
  | .float .nan => .error .valueError
  | .float (.inf _) => .error .overflowError
  | .str text => (rt.intOfText text).elim (.error .valueError) .ok
  | .null | .list _ | .dict _ => .error .typeError

/-- `text.isascii()` -/
def isAscii (text : String) : Bool := text.toList.all (fun c => decide (c.toNat < 128))

/-- `text.encode("utf-8")` -/
def encodeUtf8 (text : String) : List UInt8 := text.toUTF8.data.toList

/-- `data.decode("utf-8")`; a `UnicodeDecodeError` is nothing. -/
def decodeUtf8 (data : List UInt8) : Option String := String.fromUTF8? ⟨data.toArray⟩

theorem decodeUtf8_encodeUtf8 (text : String) : decodeUtf8 (encodeUtf8 text) = some text := by
  unfold decodeUtf8 encodeUtf8 String.fromUTF8?
  have hvalid : text.toUTF8.IsValidUTF8 := text.isValidUTF8
  rw [Array.toArray_toList, dif_pos hvalid]
  rfl

/-! ## Configuration and tokens -/

structure AuthConfig where
  username : String
  passwordHash : String
  sessionSecret : String
  required : Bool
  configured : Bool
  appEnv : String

/-- `os.getenv(name, default).strip()` -/
def strippedEnv (env : String → Option String) (name default : String) : String :=
  stripText ((env name).getD default)

def AuthConfig.fromEnv (env : String → Option String) : AuthConfig :=
  let appEnv := (strippedEnv env "APP_ENV" "development").toLower
  let passwordHash := strippedEnv env "ADMIN_PASSWORD_HASH" ""
  let sessionSecret := strippedEnv env "SESSION_SECRET" ""
  { username := orText (strippedEnv env "ADMIN_USERNAME" "admin") "admin"
    passwordHash := passwordHash
    sessionSecret := sessionSecret
    required := appEnv == "production" || passwordHash != ""
    configured := passwordHash != "" && sessionSecret != ""
    appEnv := appEnv }

theorem username_ne (env : String → Option String) : (AuthConfig.fromEnv env).username ≠ "" := by
  show orText _ "admin" ≠ ""
  unfold orText
  split
  case isTrue => decide
  case isFalse h => exact h

def b64url (data : List UInt8) : String := String.ofList (Base64.strip (Base64.encode data))

/-- `_b64url_decode`; a `binascii.Error` is nothing. -/
def b64urlDecode (value : String) : Option (List UInt8) := Base64.decode (Base64.pad value.toList)

def signatureOf (rt : Runtime) (body secret : String) : String :=
  b64url (rt.hmacSha256 (encodeUtf8 secret) (body.toList.map (fun c => UInt8.ofNat c.toNat)))

def sign (rt : Runtime) (body secret : String) : Except AuthError String :=
  if isAscii body then .ok (signatureOf rt body secret) else .error .unicodeEncodeError

/-- `secrets.compare_digest` of two texts -/
def compareDigest (a b : String) : Except AuthError Bool :=
  if isAscii a && isAscii b then .ok (a == b) else .error .typeError

/-- `token.rsplit(".", 1)`, where there is a dot -/
def rsplitDot (token : String) : Option (String × String) :=
  match token.toList.reverse.dropWhile (· ≠ '.') with
  | [] => none
  | _ :: body => some (String.ofList body.reverse,
        String.ofList (token.toList.reverse.takeWhile (· ≠ '.')).reverse)

/-- The payload that `create_session_token` signs. -/
def sessionPayload (username : String) (issued expires : ℤ) (nonce : String) : JsonValue :=
  .dict [("sub", .str username), ("iat", .int issued), ("exp", .int expires), ("nonce", .str nonce)]

def sessionTtlSeconds : ℤ := 60 * 60 * 12

/-- `create_session_token`, with what the clock says each time -/
def createSessionToken (rt : Runtime) (env : String → Option String) (issued later : ℤ)
    (nonce username : String) : Except AuthError String :=
  let config := AuthConfig.fromEnv env
  if config.sessionSecret = "" then .error (.httpException 503 "SESSION_SECRET 설정이 필요합니다.")
  else
    let payload := sessionPayload username issued (later + sessionTtlSeconds) nonce
    let body := b64url (encodeUtf8 (rt.dumps payload))
    (sign rt body config.sessionSecret).map (fun signature => body ++ "." ++ signature)

def bodyText (body : String) : Option String := (b64urlDecode body).bind decodeUtf8

/-- `payload.get("exp", 0)` as an integer -/
def expiry (rt : Runtime) (entries : List (String × JsonValue)) : Except AuthError ℤ :=
  ((entries.lookup "exp").getD (.int 0)).toInt rt

/-- `str(payload.get("sub") or "")` -/
def subjectText (rt : Runtime) (entries : List (String × JsonValue)) : String :=
  let sub := (entries.lookup "sub").getD .null
  if sub.truthy then sub.toText rt else ""

/-- What `verify_session_token` does with a payload. -/
def checkPayload (rt : Runtime) (config : AuthConfig) (now : ℤ) :
    JsonValue → Except AuthError (Option String)
  | .dict entries =>
    match expiry rt entries with
    | .error exc => .error exc
    | .ok exp =>
      if exp < now then .ok none
      else if subjectText rt entries = config.username then .ok (some (subjectText rt entries))
      else .ok none
  | _ => .error .attributeError

/-- What `verify_session_token` does with a body that is signed. -/
def checkBody (rt : Runtime) (config : AuthConfig) (now : ℤ) (body : String) :
    Except AuthError (Option String) :=
  match bodyText body with
  | none => .ok none
  | some text =>
    match rt.loads text with
    | .valueError => .ok none
    | .recursionError => .error .recursionError
    | .value payload => checkPayload rt config now payload

/-- `verify_session_token`, where `int(time.time())` is `now` -/
def verifySessionToken (rt : Runtime) (env : String → Option String) (now : ℤ) (token : String) :
    Except AuthError (Option String) :=
  let config := AuthConfig.fromEnv env
  if config.sessionSecret = "" then .ok none
  else
    match rsplitDot token with
    | none => .ok none
    | some (body, signature) =>
      match sign rt body config.sessionSecret with
      | .error exc => .error exc
      | .ok expected =>
        match compareDigest expected signature with
        | .error exc => .error exc
        | .ok false => .ok none
        | .ok true => checkBody rt config now body

/-- `get_session_user`, by the cookie -/
def getSessionUser (rt : Runtime) (env : String → Option String) (now : ℤ)
    (cookie : Option String) : Except AuthError (Option String) :=
  if toText cookie = "" then .ok none else verifySessionToken rt env now (toText cookie)

def requireAdminSession (rt : Runtime) (env : String → Option String) (now : ℤ)
    (cookie : Option String) : Except AuthError Unit :=
  let config := AuthConfig.fromEnv env
  if config.required then
    if config.configured then
      match getSessionUser rt env now cookie with
      | .error exc => .error exc
      | .ok none => .error (.httpException 401 "관리자 로그인이 필요합니다.")
      | .ok (some _) => .ok ()
    else .error (.httpException 503 "관리자 인증 설정이 필요합니다.")
  else .ok ()

/-! ## The parts of a token -/

theorem mem_b64url {data : List UInt8} : ∀ c ∈ (b64url data).toList, c ≠ '.' ∧ c.toNat < 128 := by
  unfold b64url
  rw [String.toList_ofList]
  exact (Base64.strip_encode data).2

theorem isAscii_b64url (data : List UInt8) : isAscii (b64url data) = true := by
  unfold isAscii
  rw [List.all_eq_true]
  exact fun c hc => decide_eq_true (mem_b64url c hc).2

theorem b64urlDecode_b64url (data : List UInt8) : b64urlDecode (b64url data) = some data := by
  unfold b64urlDecode b64url
  rw [String.toList_ofList, (Base64.strip_encode data).1, Base64.decode_encode]

theorem eq_of_rsplitDot {token body signature : String}
    (h : rsplitDot token = some (body, signature)) : token = body ++ "." ++ signature := by
  unfold rsplitDot at h
  generalize hcs : token.toList.reverse = cs at h
  have htoken : token.toList = cs.reverse := by rw [← hcs, List.reverse_reverse]
  have hparts := List.takeWhile_append_dropWhile (p := fun c => decide (c ≠ '.')) (l := cs)
  have hstop := List.head?_dropWhile_not (fun c => decide (c ≠ '.')) cs
  split at h
  case h_1 => cases h
  case h_2 dot rest hdrop =>
    obtain ⟨rfl, rfl⟩ := Prod.mk.inj (Option.some.inj h)
    rw [hdrop] at hparts hstop
    have hdot : dot = '.' := by
      by_contra hne
      exact absurd hstop (by simp [hne])
    apply String.toList_inj.mp
    have hwhole : cs.reverse
        = (cs.takeWhile (fun c => decide (c ≠ '.')) ++ dot :: rest).reverse := by rw [hparts]
    rw [String.toList_append, String.toList_append, String.toList_ofList, String.toList_ofList,
      htoken, hwhole, List.reverse_append, List.reverse_cons, hdot, String.toList_ofList]

theorem rsplitDot_append (body signature : String)
    (h : ∀ c ∈ signature.toList, c ≠ '.') :
    rsplitDot (body ++ "." ++ signature) = some (body, signature) := by
  have hreverse : (body ++ "." ++ signature).toList.reverse
      = signature.toList.reverse ++ '.' :: body.toList.reverse := by
    simp [String.toList_append]
  have hpass : ∀ c ∈ signature.toList.reverse, decide (c ≠ '.') = true :=
    fun c hc => decide_eq_true (h c (List.mem_reverse.mp hc))
  unfold rsplitDot
  rw [hreverse, List.dropWhile_append_of_pos hpass, List.takeWhile_append_of_pos hpass]
  simp

/-! ## The steps of a verification -/

section Verification

variable (rt : Runtime) (env : String → Option String) (now : ℤ)

theorem compareDigest_signatureOf (body secret : String) {signature : String}
    (h : isAscii signature = true) :
    compareDigest (signatureOf rt body secret) signature
      = .ok (decide (signature = signatureOf rt body secret)) := by
  have hexpected : isAscii (signatureOf rt body secret) = true := isAscii_b64url _
  unfold compareDigest
  rw [hexpected, h, Bool.true_and, if_pos rfl]
  apply congrArg Except.ok
  rw [Bool.eq_iff_iff, beq_iff_eq, decide_eq_true_iff]
  exact eq_comm

theorem verifySessionToken_parts {token body signature : String}
    (hsecret : (AuthConfig.fromEnv env).sessionSecret ≠ "")
    (hparts : rsplitDot token = some (body, signature)) :
    verifySessionToken rt env now token
      = if isAscii body = false then .error .unicodeEncodeError
        else if isAscii signature = false then .error .typeError
        else if signature = signatureOf rt body (AuthConfig.fromEnv env).sessionSecret then
          checkBody rt (AuthConfig.fromEnv env) now body
        else .ok none := by
  unfold verifySessionToken
  dsimp only
  rw [if_neg hsecret, hparts]
  dsimp only
  cases hbody : isAscii body with
  | false =>
    unfold sign
    rw [hbody]
    rfl
  | true =>
    have hsign : sign rt body (AuthConfig.fromEnv env).sessionSecret
        = .ok (signatureOf rt body (AuthConfig.fromEnv env).sessionSecret) := by
      unfold sign
      rw [if_pos hbody]
    rw [hsign, if_neg (by decide)]
    dsimp only
    cases hsignature : isAscii signature with
    | false =>
      unfold compareDigest
      rw [hsignature, Bool.and_false]
      rfl
    | true =>
      rw [compareDigest_signatureOf rt body _ hsignature, if_neg (by decide)]
      by_cases hsame : signature = signatureOf rt body (AuthConfig.fromEnv env).sessionSecret
      · rw [decide_eq_true hsame, if_pos hsame]
      · rw [decide_eq_false hsame, if_neg hsame]

theorem verifySessionToken_none {token : String}
    (h : (AuthConfig.fromEnv env).sessionSecret = "" ∨ rsplitDot token = none) :
    verifySessionToken rt env now token = .ok none := by
  unfold verifySessionToken
  dsimp only
  by_cases hsecret : (AuthConfig.fromEnv env).sessionSecret = ""
  · rw [if_pos hsecret]
  · rw [if_neg hsecret, h.resolve_left hsecret]

/-! ## The tokens that fit -/

/-- The payload is an object with an integer `exp`; while that is not over, a `sub` that is no
text does not read like the user name. -/
def PayloadFits (config : AuthConfig) (payload : JsonValue) : Prop :=
  ∃ entries exp, payload = .dict entries ∧ expiry rt entries = .ok exp
    ∧ (now ≤ exp → ∀ sub ∈ entries.lookup "sub", sub.isText = false → sub.truthy = true →
        sub.toText rt ≠ config.username)

/-- The body is no JSON text, or its payload fits. -/
def BodyFits (config : AuthConfig) (body : String) : Prop :=
  ∀ text ∈ bodyText body,
    rt.loads text ≠ .recursionError ∧ ∀ payload, rt.loads text = .value payload →
      PayloadFits rt now config payload

/-- A token with both parts is ASCII, and its body fits if it is signed. -/
def TokenFits (token : String) : Prop :=
  (AuthConfig.fromEnv env).sessionSecret ≠ "" → ∀ body signature,
    rsplitDot token = some (body, signature) →
      isAscii body = true ∧ isAscii signature = true
        ∧ (signature = signatureOf rt body (AuthConfig.fromEnv env).sessionSecret →
          BodyFits rt now (AuthConfig.fromEnv env) body)

/-- A payload says who it is for, and is not over. -/
def PayloadNames (config : AuthConfig) (payload : JsonValue) (user : String) : Prop :=
  ∃ entries exp, payload = .dict entries ∧ entries.lookup "sub" = some (.str user)
    ∧ user = config.username ∧ expiry rt entries = .ok exp ∧ now ≤ exp

/-- A check returns, and a user name only where that may be. -/
def Verified (outcome : Except AuthError (Option String)) (may : String → Prop) : Prop :=
  (∃ user, outcome = .ok user) ∧ ∀ user, outcome = .ok (some user) → may user

/-- Verification returns, and a user name only for a signed body whose payload names it. -/
def TokenVerified (token : String) : Prop :=
  Verified (verifySessionToken rt env now token) (fun user =>
    ∃ body signature text payload, token = body ++ "." ++ signature
      ∧ signature = signatureOf rt body (AuthConfig.fromEnv env).sessionSecret
      ∧ bodyText body = some text ∧ rt.loads text = .value payload
      ∧ PayloadNames rt now (AuthConfig.fromEnv env) payload user)

variable {rt now}

theorem verified_none (may : String → Prop) : Verified (.ok none) may := by
  refine ⟨⟨none, rfl⟩, ?_⟩
  intro user h
  cases h

theorem not_verified_error {exc : AuthError} {may : String → Prop} :
    ¬ Verified (.error exc) may := by
  intro h
  obtain ⟨user, huser⟩ := h.1
  cases huser

theorem not_fits_of_error {config : AuthConfig} {payload : JsonValue}
    (h : ∀ entries, payload ≠ .dict entries) : ¬ PayloadFits rt now config payload := by
  intro hfits
  obtain ⟨entries, -, heq, -⟩ := hfits
  exact h entries heq

theorem subjectText_eq_iff {entries : List (String × JsonValue)} {username : String}
    (hname : username ≠ "") :
    subjectText rt entries = username
      ↔ ∃ sub ∈ entries.lookup "sub", sub.truthy = true ∧ sub.toText rt = username := by
  unfold subjectText
  cases hsub : entries.lookup "sub" with
  | none =>
    constructor
    · intro h
      exact absurd h.symm hname
    · intro h
      obtain ⟨sub, hmem, -⟩ := h
      cases hmem
  | some sub =>
    dsimp only [Option.getD_some]
    by_cases htruthy : sub.truthy = true
    · rw [if_pos htruthy]
      constructor
      · intro h
        exact ⟨sub, rfl, htruthy, h⟩
      · intro h
        obtain ⟨sub', hmem, -, h⟩ := h
        rw [Option.some.inj hmem]
        exact h
    · rw [if_neg htruthy]
      constructor
      · intro h
        exact absurd h.symm hname
      · intro h
        obtain ⟨sub', hmem, htruthy', -⟩ := h
        rw [← Option.some.inj hmem] at htruthy'
        exact absurd htruthy' htruthy

variable (rt now) in
theorem checkPayload_iff {config : AuthConfig} (hname : config.username ≠ "")
    (payload : JsonValue) :
    Verified (checkPayload rt config now payload) (PayloadNames rt now config payload)
      ↔ PayloadFits rt now config payload := by
  cases payload with
  | dict entries =>
    unfold checkPayload
    dsimp only
    cases hexp : expiry rt entries with
    | error exc =>
      refine iff_of_false not_verified_error ?_
      intro hfits
      obtain ⟨entries', exp, heq, hexp', -⟩ := hfits
      cases heq
      rw [hexp] at hexp'
      cases hexp'
    | ok exp =>
      dsimp only
      by_cases hover : exp < now
      · rw [if_pos hover]
        refine iff_of_true (verified_none _) ⟨entries, exp, rfl, hexp, ?_⟩
        intro hnow
        omega
      · have hnow : now ≤ exp := by omega
        rw [if_neg hover]
        by_cases hsubject : subjectText rt entries = config.username
        · obtain ⟨sub, hsub, htruthy, hreads⟩ := (subjectText_eq_iff hname).mp hsubject
          rw [if_pos hsubject, hsubject]
          constructor
          · intro h
            obtain ⟨entries', exp', heq, hlookup, -⟩ := h.2 config.username rfl
            cases heq
            refine ⟨entries, exp, rfl, hexp, ?_⟩
            intro _ sub' hsub' htext
            rw [hlookup] at hsub'
            rw [← Option.some.inj hsub'] at htext
            cases htext
          · intro h
            obtain ⟨entries', exp', heq, hexp', hfits⟩ := h
            cases heq
            rw [hexp] at hexp'
            cases hexp'
            refine ⟨⟨_, rfl⟩, ?_⟩
            intro user huser
            have huser' : user = config.username :=
              (Option.some.inj (Except.ok.inj huser)).symm
            cases sub with
            | str text =>
              refine ⟨entries, exp, rfl, ?_, huser', hexp, hnow⟩
              rw [huser', ← hreads]
              exact hsub
            | _ => exact absurd hreads (hfits hnow _ hsub rfl htruthy)
        · rw [if_neg hsubject]
          refine iff_of_true (verified_none _) ⟨entries, exp, rfl, hexp, ?_⟩
          intro _ sub hsub _ htruthy hreads
          exact hsubject ((subjectText_eq_iff hname).mpr ⟨sub, hsub, htruthy, hreads⟩)
  | _ =>
    refine iff_of_false not_verified_error (not_fits_of_error ?_)
    intro entries h
    cases h

variable (rt now) in
theorem checkBody_iff {config : AuthConfig} (hname : config.username ≠ "") (body : String) :
    Verified (checkBody rt config now body) (fun user =>
        ∃ text payload, bodyText body = some text ∧ rt.loads text = .value payload
          ∧ PayloadNames rt now config payload user)
      ↔ BodyFits rt now config body := by
  unfold checkBody BodyFits
  cases htext : bodyText body with
  | none =>
    refine iff_of_true (verified_none _) ?_
    intro text hmem
    cases hmem
  | some text =>
    dsimp only
    cases hloads : rt.loads text with
    | valueError =>
      refine iff_of_true (verified_none _) ?_
      intro text' hmem
      rw [← Option.some.inj hmem, hloads]
      refine ⟨nofun, ?_⟩
      intro payload h
      cases h
    | recursionError =>
      refine iff_of_false not_verified_error ?_
      intro h
      exact (h text rfl).1 hloads
    | value payload =>
      dsimp only
      have hpayload := checkPayload_iff rt now hname payload
      constructor
      · intro h text' hmem
        rw [← Option.some.inj hmem, hloads]
        refine ⟨nofun, ?_⟩
        intro payload' heq
        rw [← Loaded.value.inj heq]
        refine hpayload.mp ⟨h.1, ?_⟩
        intro user huser
        obtain ⟨text'', payload'', htext'', hloads'', hnames⟩ := h.2 user huser
        rw [← Option.some.inj htext'', hloads] at hloads''
        rw [Loaded.value.inj hloads'']
        exact hnames
      · intro h
        have hfits := (h text rfl).2 payload hloads
        have hverified := hpayload.mpr hfits
        refine ⟨hverified.1, ?_⟩
        intro user huser
        exact ⟨text, payload, rfl, hloads, hverified.2 user huser⟩

theorem tokenVerified_iff (token : String) :
    TokenVerified rt env now token ↔ TokenFits rt env now token := by
  unfold TokenVerified TokenFits
  by_cases hsecret : (AuthConfig.fromEnv env).sessionSecret = ""
  · rw [verifySessionToken_none rt env now (.inl hsecret)]
    exact iff_of_true (verified_none _) (fun h => absurd hsecret h)
  · cases hparts : rsplitDot token with
    | none =>
      rw [verifySessionToken_none rt env now (.inr hparts)]
      refine iff_of_true (verified_none _) ?_
      intro _ body signature h
      cases h
    | some parts =>
      obtain ⟨body, signature⟩ := parts
      have hbody := checkBody_iff rt now (username_ne env) body
      have htoken := eq_of_rsplitDot hparts
      rw [verifySessionToken_parts rt env now hsecret hparts]
      cases hascii : isAscii body with
      | false =>
        rw [if_pos rfl]
        refine iff_of_false not_verified_error ?_
        intro h
        have hbody' := (h hsecret body signature rfl).1
        rw [hascii] at hbody'
        cases hbody'
      | true =>
        rw [if_neg (by decide)]
        cases hascii' : isAscii signature with
        | false =>
          rw [if_pos rfl]
          refine iff_of_false not_verified_error ?_
          intro h
          have hsignature := (h hsecret body signature rfl).2.1
          rw [hascii'] at hsignature
          cases hsignature
        | true =>
          rw [if_neg (by decide)]
          by_cases hsame : signature
              = signatureOf rt body (AuthConfig.fromEnv env).sessionSecret
          · rw [if_pos hsame]
            constructor
            · intro h _ body' signature' hparts'
              obtain ⟨rfl, rfl⟩ := Prod.mk.inj (Option.some.inj hparts')
              refine ⟨hascii, hascii', fun _ => hbody.mp ⟨h.1, ?_⟩⟩
              intro user huser
              obtain ⟨body', signature', text, payload, heq, hsigned, htext, hloads,
                hnames⟩ := h.2 user huser
              have hsplit : rsplitDot token = some (body', signature') := by
                rw [heq]
                apply rsplitDot_append
                rw [hsigned]
                exact fun c hc => (mem_b64url c hc).1
              rw [hparts] at hsplit
              rw [← (Prod.mk.inj (Option.some.inj hsplit)).1] at htext
              exact ⟨text, payload, htext, hloads, hnames⟩
            · intro h
              have hverified := hbody.mpr ((h hsecret body signature rfl).2.2 hsame)
              refine ⟨hverified.1, ?_⟩
              intro user huser
              obtain ⟨text, payload, htext, hloads, hnames⟩ := hverified.2 user huser
              exact ⟨body, signature, text, payload, htoken, hsame, htext, hloads, hnames⟩
          · rw [if_neg hsame]
            refine iff_of_true (verified_none _) ?_
            intro _ body' signature' h
            obtain ⟨rfl, rfl⟩ := Prod.mk.inj (Option.some.inj h)
            exact ⟨hascii, hascii', fun h => absurd h hsame⟩

end Verification

/-! ## Issued tokens -/

section Issued

variable {rt : Runtime} {env : String → Option String} {issued later : ℤ} {nonce : String}

theorem bodyText_b64url (text : String) : bodyText (b64url (encodeUtf8 text)) = some text := by
  unfold bodyText
  rw [b64urlDecode_b64url, Option.bind_some, decodeUtf8_encodeUtf8]

theorem verifySessionToken_issued {token : String}
    (hround : rt.loads (rt.dumps (sessionPayload (AuthConfig.fromEnv env).username issued
        (later + sessionTtlSeconds) nonce))
      = .value (sessionPayload (AuthConfig.fromEnv env).username issued
        (later + sessionTtlSeconds) nonce))
    (htoken : createSessionToken rt env issued later nonce (AuthConfig.fromEnv env).username
      = .ok token) {now : ℤ} (hnow : now ≤ later + sessionTtlSeconds) :
    verifySessionToken rt env now token = .ok (some (AuthConfig.fromEnv env).username) := by
  unfold createSessionToken at htoken
  dsimp only at htoken
  by_cases hsecret : (AuthConfig.fromEnv env).sessionSecret = ""
  · rw [if_pos hsecret] at htoken
    cases htoken
  · rw [if_neg hsecret] at htoken
    generalize hpayload : sessionPayload (AuthConfig.fromEnv env).username issued
      (later + sessionTtlSeconds) nonce = payload at hround htoken
    generalize hbody : b64url (encodeUtf8 (rt.dumps payload)) = body at htoken
    have hascii : isAscii body = true := by
      rw [← hbody]
      exact isAscii_b64url _
    unfold sign at htoken
    rw [if_pos hascii] at htoken
    have htoken' : body ++ "." ++ signatureOf rt body (AuthConfig.fromEnv env).sessionSecret
      = token := Except.ok.inj htoken
    have hparts := rsplitDot_append body
      (signatureOf rt body (AuthConfig.fromEnv env).sessionSecret)
      (fun c hc => (mem_b64url c hc).1)
    have hascii' : isAscii (signatureOf rt body (AuthConfig.fromEnv env).sessionSecret) = true :=
      isAscii_b64url _
    have hopen : ¬ later + sessionTtlSeconds < now := by omega
    rw [← htoken', verifySessionToken_parts rt env now hsecret hparts, hascii, hascii',
      if_neg (by decide), if_neg (by decide), if_pos rfl]
    unfold checkBody
    rw [← hbody, bodyText_b64url]
    dsimp only
    rw [hround, ← hpayload]
    have hexp : expiry rt [("sub", .str (AuthConfig.fromEnv env).username), ("iat", .int issued),
        ("exp", .int (later + sessionTtlSeconds)), ("nonce", .str nonce)]
        = .ok (later + sessionTtlSeconds) := rfl
    have hsubject : subjectText rt [("sub", .str (AuthConfig.fromEnv env).username),
        ("iat", .int issued), ("exp", .int (later + sessionTtlSeconds)), ("nonce", .str nonce)]
        = (AuthConfig.fromEnv env).username :=
      (subjectText_eq_iff (username_ne env)).mpr
        ⟨.str (AuthConfig.fromEnv env).username, rfl, bne_iff_ne.mpr (username_ne env), rfl⟩
    unfold sessionPayload checkPayload
    dsimp only
    rw [hexp]
    dsimp only
    rw [if_neg hopen, hsubject, if_pos rfl]

end Issued

/-- **Session tokens**: verification is total and sound just for the tokens that fit, and a token
that was issued verifies until its `exp`. -/
theorem sessionTokens_iff (rt : Runtime) (env : String → Option String) :
    (∀ now token, TokenVerified rt env now token ↔ TokenFits rt env now token)
      ∧ ∀ issued later nonce token,
        rt.loads (rt.dumps (sessionPayload (AuthConfig.fromEnv env).username issued
            (later + sessionTtlSeconds) nonce))
          = .value (sessionPayload (AuthConfig.fromEnv env).username issued
            (later + sessionTtlSeconds) nonce) →
        createSessionToken rt env issued later nonce (AuthConfig.fromEnv env).username
          = .ok token →
        ∀ now ≤ later + sessionTtlSeconds,
          verifySessionToken rt env now token = .ok (some (AuthConfig.fromEnv env).username) := by
  constructor
  · intro now token
    exact tokenVerified_iff env token
  · intro issued later nonce token hround htoken now hnow
    exact verifySessionToken_issued hround htoken hnow

/-- Libraries on one JSON text and one digest. -/
def knownRuntime (text : String) (payload : JsonValue) (digest : List UInt8) : Runtime :=
  { hmacSha256 := fun _ _ => digest
    dumps := fun _ => text
    loads := fun s => if s = text then .value payload else .valueError
    intOfText := fun _ => none
    strOf := fun _ => "" }

def secretEnv (name : String) : Option String :=
  if name = "SESSION_SECRET" then some "s3cret" else none

def issuedText : String :=
  "\x7b\"sub\":\"admin\",\"iat\":1700000000,\"exp\":1700043200,\"nonce\":\"AAAAAAAAAAAAAAAA\"\x7d"

def issuedDigest : List UInt8 :=
  [114, 116, 246, 152, 204, 151, 212, 144, 116, 108, 240, 175, 119, 17, 65, 99, 143, 144, 111, 153,
    42, 48, 6, 54, 99, 105, 135, 166, 57, 79, 49, 134]

def issuedToken : String :=
  "eyJzdWIiOiJhZG1pbiIsImlhdCI6MTcwMDAwMDAwMCwiZXhwIjoxNzAwMDQzMjAwLCJub25jZSI6IkFBQUFBQUFBQUFBQ"
    ++ "UFBQUEifQ.cnT2mMyX1JB0bPCvdxFBY4-Qb5kqMAY2Y2mHpjlPMYY"

theorem issuedToken_verifies :
    verifySessionToken
        (knownRuntime issuedText (sessionPayload "admin" 1700000000 1700043200 "AAAAAAAAAAAAAAAA")
          issuedDigest) secretEnv 1700043200 issuedToken
      = .ok (some "admin") := by
  have hname : (AuthConfig.fromEnv secretEnv).username = "admin" := by decide +kernel
  have hexp : 1700000000 + sessionTtlSeconds = 1700043200 := by decide
  have hverifies := (sessionTokens_iff
    (knownRuntime issuedText (sessionPayload "admin" 1700000000 1700043200 "AAAAAAAAAAAAAAAA")
      issuedDigest) secretEnv).2 1700000000 1700000000 "AAAAAAAAAAAAAAAA" issuedToken
  rw [hname, hexp] at hverifies
  refine hverifies ?_ (by decide +kernel) 1700043200 (le_refl _)
  simp only [knownRuntime, if_true]

/-- **What raises**: a body that is not ASCII, a signature that is not, and a signed list. -/
theorem tokens_raise :
    verifySessionToken (knownRuntime "[]" (.list []) []) secretEnv 0 "é.x"
        = .error .unicodeEncodeError
      ∧ verifySessionToken (knownRuntime "[]" (.list []) []) secretEnv 0 "x.é" = .error .typeError
      ∧ verifySessionToken (knownRuntime "[]" (.list [])
          [143, 37, 230, 243, 23, 195, 2, 217, 116, 195, 3, 244, 130, 120, 108, 5, 145, 161, 80,
            220, 232, 201, 221, 72, 20, 152, 54, 45, 10, 214, 25, 125]) secretEnv 0
          "W10.jyXm8xfDAtl0wwP0gnhsBZGhUNzoyd1IFJg2LQrWGX0" = .error .attributeError
      ∧ ¬ TokenVerified (knownRuntime "[]" (.list []) []) secretEnv 0 "é.x" := by
  have hbody : verifySessionToken (knownRuntime "[]" (.list []) []) secretEnv 0 "é.x"
      = .error .unicodeEncodeError := by decide +kernel
  refine ⟨hbody, by decide +kernel, by decide +kernel, ?_⟩
  unfold TokenVerified
  rw [hbody]
  exact not_verified_error

end AutoCoinBot
