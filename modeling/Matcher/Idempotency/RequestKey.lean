import Matcher.Foundation.ByteText
import Matcher.Foundation.GoError
import Matcher.Foundation.Separated
import Mathlib.Data.List.Sort

/-!
# The idempotency key of a request

The key joins the scope of a request and the key that its client supplies by
colons, or a hash of the body where the client supplies none.  A path, a user id
and a supplied key may contain colons, and a supplied key may look like the hash of
a body, so that different requests can have the same key.
-/

namespace Matcher.Idempotency

open Foundation

def errEmptyIdempotencyKey : GoError :=
  .sentinel ⟨"ErrEmptyIdempotencyKey", "idempotency key is required"⟩

def errInvalidIdempotencyKey : GoError :=
  .sentinel ⟨"ErrInvalidIdempotencyKey", "invalid idempotency key format"⟩

def errMissingTenantID : GoError :=
  .sentinel ⟨"ErrMissingTenantID",
    "tenant ID is required for idempotency; " ++
      "ensure auth middleware runs before idempotency middleware"⟩

/-! ## Supplied keys -/

def idempotencyKeyMaxLength : ℕ := 128

def isKeyByte (byte : UInt8) : Bool :=
  (65 ≤ byte && byte ≤ 90) || (97 ≤ byte && byte ≤ 122) ||
    (48 ≤ byte && byte ≤ 57) || byte = 58 || byte = 95 || byte = 45

def isValidKey (key : Bytes) : Bool :=
  key ≠ [] && key.length ≤ idempotencyKeyMaxLength && key.all isKeyByte

def parseIdempotencyKey (value : Bytes) : Except GoError Bytes :=
  let trimmed := trimSpaceBytes value
  if trimmed = [] then .error errEmptyIdempotencyKey
  else if isValidKey trimmed then .ok trimmed
  else .error errInvalidIdempotencyKey

def validateIdempotencyKeyFormat (userKey : Bytes) : Except GoError Unit := do
  let _ ← wrapError "parse idempotency key: %w" (parseIdempotencyKey userKey)
  return ()

/-! ## Requests -/

inductive Method
  | post
  | put
  | patch
deriving DecidableEq, Repr

def Method.text : Method → Bytes
  | .post => ascii "POST"
  | .put => ascii "PUT"
  | .patch => ascii "PATCH"

/-- What the key is made of; a header that is absent is empty. -/
structure Request where
  method : Method
  path : Bytes
  queryArgs : List (Bytes × Bytes)
  headerXIdempotencyKey : Bytes
  headerIdempotencyKey : Bytes
  body : Bytes
  tenantID : Bytes
  userID : Bytes
deriving DecidableEq, Repr

section

variable (sha256 : Bytes → Bytes) {second first : Request}

def maxRequestTargetLen : ℕ := 256

def maybeHashTarget (path target : Bytes) : Bytes :=
  if maxRequestTargetLen < target.length then
    path ++ ascii "?_hash=" ++ hexEncode (sha256 target)
  else target

def queryPair (key value : Bytes) : Bytes :=
  queryEscape key ++ 61 :: queryEscape value

/-- `url.Values.Encode`, after the values of each key have been sorted. -/
def encodeQuery (args : List (Bytes × Bytes)) : Bytes :=
  let keys := (args.map Prod.fst).dedup.insertionSort (bytesLe · ·)
  let pairs := keys.flatMap fun key =>
    (((args.filter (·.1 = key)).map Prod.snd).insertionSort (bytesLe · ·)).map (queryPair key)
  List.intercalate [38] pairs

variable (request : Request)

def canonicalRequestTarget : Bytes :=
  match request.queryArgs with
  | [] => request.path
  | [(key, value)] =>
    maybeHashTarget sha256 request.path (request.path ++ 63 :: queryPair key value)
  | args =>
    let encoded := encodeQuery args
    if encoded = [] then request.path
    else maybeHashTarget sha256 request.path (request.path ++ 63 :: encoded)

def Request.userKey : Bytes :=
  if request.headerXIdempotencyKey = [] then request.headerIdempotencyKey
  else request.headerXIdempotencyKey

def Request.principalID : Bytes :=
  let rawPrincipalID := trimSpaceBytes request.userID
  if rawPrincipalID = [] then ascii "anon:"
  else ascii "user:" ++ rawPrincipalID

def Request.keySuffix : Except GoError (Option Bytes) :=
  if request.userKey = [] then
    if request.method = .patch then .ok none
    else if request.body = [] then .ok none
    else .ok (some (ascii "hash:" ++ hexEncode (sha256 request.body)))
  else do
    validateIdempotencyKeyFormat request.userKey
    let parsedKey ← wrapError "parse idempotency key: %w" (parseIdempotencyKey request.userKey)
    return some parsedKey

/-- The empty key stands for none. -/
def extractIdempotencyKey (keyPrefix : Bytes) (request : Request) : Except GoError Bytes := do
  match ← request.keySuffix sha256 with
  | none => return []
  | some userKey =>
    if trimSpaceBytes request.tenantID = [] then .error errMissingTenantID
    else
      let scope := [request.tenantID, request.principalID,
        request.method.text, canonicalRequestTarget sha256 request]
      if keyPrefix ≠ [] then
        return joined colon (keyPrefix :: scope) userKey
      else return joined colon scope userKey

/-! ## Colons in the target -/

theorem count_colon_queryPair (key value : Bytes) : (queryPair key value).count colon = 0 := by
  rw [queryPair, List.count_append, count_colon_queryEscape,
    List.count_cons_of_ne (by decide), count_colon_queryEscape]

theorem count_colon_intercalate {pieces : List Bytes}
    (h : ∀ piece ∈ pieces, piece.count colon = 0) :
    (List.intercalate [38] pieces).count colon = 0 := by
  induction pieces with
  | nil => rfl
  | cons piece rest ih =>
    have hpiece := h piece List.mem_cons_self
    have ih := ih fun other hother => h other (List.mem_cons_of_mem _ hother)
    cases rest with
    | nil => simpa [List.intercalate] using hpiece
    | cons =>
      rw [List.intercalate_cons_cons, List.count_append, List.count_append, hpiece, ih]
      rfl

theorem count_colon_encodeQuery (args : List (Bytes × Bytes)) :
    (encodeQuery args).count colon = 0 := by
  apply count_colon_intercalate
  intro piece hpiece
  obtain ⟨key, -, hpiece⟩ := List.mem_flatMap.mp hpiece
  obtain ⟨value, -, rfl⟩ := List.mem_map.mp hpiece
  exact count_colon_queryPair key value

theorem count_colon_maybeHashTarget {query : Bytes} (h : query.count colon = 0) (path : Bytes) :
    (maybeHashTarget sha256 path (path ++ 63 :: query)).count colon = path.count colon := by
  unfold maybeHashTarget
  split
  · rw [List.count_append, List.count_append, count_colon_hexEncode]
    rfl
  · rw [List.count_append, List.count_cons_of_ne (by decide), h]
    rfl

theorem count_colon_canonicalRequestTarget :
    (canonicalRequestTarget sha256 request).count colon = request.path.count colon := by
  unfold canonicalRequestTarget
  split
  · rfl
  · exact count_colon_maybeHashTarget sha256 (count_colon_queryPair _ _) _
  · dsimp only
    split
    · rfl
    · exact count_colon_maybeHashTarget sha256 (count_colon_encodeQuery _) _

variable {sha256}

/-! ## Two requests with the same key -/

def Request.suppliedKey : Option Bytes :=
  if request.userKey = [] then none else some (trimSpaceBytes request.userKey)

theorem validateIdempotencyKeyFormat_eq_ok {userKey : Bytes}
    (h : validateIdempotencyKeyFormat userKey = .ok ()) :
    parseIdempotencyKey userKey = .ok (trimSpaceBytes userKey) := by
  obtain ⟨parsed, hparsed, -⟩ := bind_eq_ok.mp h
  have hparsed := wrapError_eq_ok.mp hparsed
  unfold parseIdempotencyKey at hparsed ⊢
  dsimp only at hparsed ⊢
  split_ifs at hparsed ⊢
  rfl

theorem Request.keySuffix_eq_ok {request : Request} {userKey : Bytes}
    (h : request.keySuffix sha256 = .ok (some userKey)) :
    match request.suppliedKey with
    | some supplied => userKey = supplied
    | none => userKey = ascii "hash:" ++ hexEncode (sha256 request.body) := by
  unfold Request.keySuffix at h
  unfold Request.suppliedKey
  split
  case h_1 supplied hsupplied =>
    split at hsupplied
    · cases hsupplied
    case isFalse hkey =>
      rw [if_neg hkey, check_eq_ok] at h
      obtain ⟨hvalid, h⟩ := h
      obtain ⟨parsed, hparsed, h⟩ := bind_eq_ok.mp h
      rw [wrapError_eq_ok, validateIdempotencyKeyFormat_eq_ok hvalid] at hparsed
      cases hsupplied
      cases hparsed
      exact (Option.some.inj (Except.ok.inj h)).symm
  case h_2 hsupplied =>
    split at hsupplied
    case isTrue hkey =>
      rw [if_pos hkey] at h
      split at h
      · cases h
      split at h
      · cases h
      · exact (Option.some.inj (Except.ok.inj h)).symm
    · cases hsupplied

def Request.scope (sha256 : Bytes → Bytes) (keyPrefix : Bytes) (request : Request) : List Bytes :=
  (if keyPrefix = [] then [] else [keyPrefix]) ++
    [request.tenantID, request.principalID, request.method.text,
      canonicalRequestTarget sha256 request]

theorem extractIdempotencyKey_eq_ok {keyPrefix key : Bytes} {request : Request}
    (h : extractIdempotencyKey sha256 keyPrefix request = .ok key) (hkey : key ≠ []) :
    ∃ userKey, request.keySuffix sha256 = .ok (some userKey) ∧
      key = joined colon (request.scope sha256 keyPrefix) userKey := by
  obtain ⟨keySuffix, hsuffix, h⟩ := bind_eq_ok.mp h
  cases keySuffix with
  | none => exact absurd (Except.ok.inj h).symm hkey
  | some userKey =>
    refine ⟨userKey, hsuffix, ?_⟩
    dsimp only at h
    split at h
    · cases h
    split at h
    case isTrue hprefix =>
      rw [Request.scope, if_neg hprefix]
      exact (Except.ok.inj h).symm
    case isFalse hprefix =>
      rw [Request.scope, if_pos (not_not.mp hprefix)]
      exact (Except.ok.inj h).symm

theorem Method.count_colon_text (method : Method) : method.text.count colon = 0 := by
  cases method <;> decide +kernel

theorem Method.text_injective : Function.Injective Method.text := by
  intro method other h
  cases method <;> cases other <;> first | rfl | exact absurd h (by decide +kernel)

/-- The requests have the same scope, and the same key or, without any, body. -/
structure SameRequest (sha256 : Bytes → Bytes) (first second : Request) : Prop where
  tenantID : first.tenantID = second.tenantID
  principalID : first.principalID = second.principalID
  method : first.method = second.method
  target : canonicalRequestTarget sha256 first = canonicalRequestTarget sha256 second
  suppliedKey : first.suppliedKey = second.suppliedKey
  body : first.suppliedKey = none → first.body = second.body

/-- As many colons in each part before the last one, and both requests or neither
supply a key. -/
structure SameShape (first second : Request) : Prop where
  tenantID : first.tenantID.count colon = second.tenantID.count colon
  principalID : first.principalID.count colon = second.principalID.count colon
  path : first.path.count colon = second.path.count colon
  supplied : first.suppliedKey.isSome = second.suppliedKey.isSome

instance (sha256 : Bytes → Bytes) (first second : Request) :
    Decidable (SameRequest sha256 first second) :=
  decidable_of_iff
    (first.tenantID = second.tenantID ∧
      first.principalID = second.principalID ∧
      first.method = second.method ∧
      canonicalRequestTarget sha256 first = canonicalRequestTarget sha256 second ∧
      first.suppliedKey = second.suppliedKey ∧
      (first.suppliedKey = none → first.body = second.body))
    ⟨fun ⟨htenant, hprincipal, hmethod, htarget, hkey, hbody⟩ =>
      ⟨htenant, hprincipal, hmethod, htarget, hkey, hbody⟩,
      fun h => ⟨h.tenantID, h.principalID, h.method, h.target, h.suppliedKey, h.body⟩⟩

theorem SameShape.scope (h : SameShape first second) (keyPrefix : Bytes) :
    List.Forall₂
      (fun field other : Bytes => field.count colon = other.count colon)
      (first.scope sha256 keyPrefix) (second.scope sha256 keyPrefix) := by
  apply List.rel_append
  · exact List.forall₂_same.mpr fun _ _ => rfl
  · refine .cons h.tenantID (.cons h.principalID (.cons ?_ (.cons ?_ .nil)))
    · rw [Method.count_colon_text, Method.count_colon_text]
    · rw [count_colon_canonicalRequestTarget, count_colon_canonicalRequestTarget, h.path]

theorem Request.keySuffix_agree {userKey : Bytes}
    (hfirst : first.keySuffix sha256 = .ok (some userKey))
    (hsecond : second.keySuffix sha256 = .ok (some userKey))
    (hboth : first.suppliedKey.isSome = second.suppliedKey.isSome)
    (hdigest : sha256 first.body = sha256 second.body → first.body = second.body) :
    first.suppliedKey = second.suppliedKey ∧
      (first.suppliedKey = none → first.body = second.body) := by
  have hfirst := Request.keySuffix_eq_ok hfirst
  have hsecond := Request.keySuffix_eq_ok hsecond
  cases hleft : first.suppliedKey with
  | some =>
    rw [hleft] at hfirst hboth
    cases hright : second.suppliedKey with
    | none =>
      rw [hright] at hboth
      cases hboth
    | some =>
      rw [hright] at hsecond
      refine ⟨?_, nofun⟩
      rw [← hfirst, ← hsecond]
  | none =>
    rw [hleft] at hfirst hboth
    cases hright : second.suppliedKey with
    | some =>
      rw [hright] at hboth
      cases hboth
    | none =>
      rw [hright] at hsecond
      refine ⟨rfl, fun _ => ?_⟩
      have hhash := List.append_cancel_left (hfirst.symm.trans hsecond)
      exact hdigest (hexEncode_injective hhash)

/-- Requests with the same key are the same exactly when their colons agree. -/
theorem equal_keys_same_request_iff {keyPrefix key : Bytes} {first second : Request}
    (hfirst : extractIdempotencyKey sha256 keyPrefix first = .ok key)
    (hsecond : extractIdempotencyKey sha256 keyPrefix second = .ok key) (hkey : key ≠ [])
    (hdigest : sha256 first.body = sha256 second.body → first.body = second.body) :
    SameRequest sha256 first second ↔ SameShape first second := by
  constructor
  · intro h
    refine ⟨by rw [h.tenantID], by rw [h.principalID], ?_, by rw [h.suppliedKey]⟩
    rw [← count_colon_canonicalRequestTarget sha256, h.target, count_colon_canonicalRequestTarget]
  · intro h
    obtain ⟨userKey, hsuffix, rfl⟩ := extractIdempotencyKey_eq_ok hfirst hkey
    obtain ⟨userKey', hsuffix', hequal⟩ := extractIdempotencyKey_eq_ok hsecond hkey
    obtain ⟨hscope, rfl⟩ := joined_inj (h.scope keyPrefix) hequal
    have hparts := List.append_cancel_left hscope
    simp only [List.cons.injEq, and_true] at hparts
    obtain ⟨htenant, hprincipal, hmethod, htarget⟩ := hparts
    obtain ⟨hsupplied, hbody⟩ := Request.keySuffix_agree hsuffix hsuffix' h.supplied hdigest
    exact ⟨htenant, hprincipal, Method.text_injective hmethod, htarget, hsupplied, hbody⟩

end

def sampleDigest (input : Bytes) : Bytes := input

def sampleRequest (path userKey body : String) (queryArgs : List (Bytes × Bytes)) : Request where
  method := .post
  path := ascii path
  queryArgs := queryArgs
  headerXIdempotencyKey := ascii userKey
  headerIdempotencyKey := []
  body := ascii body
  tenantID := ascii "t1"
  userID := ascii "alice"

theorem equal_keys_same_request_retry :
    SameRequest sampleDigest
      (sampleRequest "/v1/rules" "k:1" "{}" [(ascii "a:b", ascii "1")])
      (sampleRequest "/v1/rules" " k:1 " "{}" [(ascii "a:b", ascii "1")]) := by
  have hkey : extractIdempotencyKey sampleDigest (ascii "matcher")
      (sampleRequest "/v1/rules" "k:1" "{}" [(ascii "a:b", ascii "1")]) =
        .ok (ascii "matcher:t1:user:alice:POST:/v1/rules?a%3Ab=1:k:1") := by
    decide +kernel
  exact (equal_keys_same_request_iff hkey (by decide +kernel) (by decide +kernel) fun h => h).mpr
    ⟨by decide +kernel, by decide +kernel, by decide +kernel, by decide +kernel⟩

def Collide (sha256 : Bytes → Bytes) (first second : Request) : Prop :=
  extractIdempotencyKey sha256 [] first = extractIdempotencyKey sha256 [] second ∧
    (extractIdempotencyKey sha256 [] first).toOption.isSome ∧
    extractIdempotencyKey sha256 [] first ≠ .ok [] ∧
    (sha256 first.body = sha256 second.body → first.body = second.body) ∧
    ¬ SameRequest sha256 first second

instance (sha256 : Bytes → Bytes) (first second : Request) :
    Decidable (Collide sha256 first second) :=
  inferInstanceAs (Decidable (_ ∧ _))

/-- A colon moved from the path to the key, and a key that looks like the hash of
a body. -/
theorem equal_keys_different_requests :
    Collide sampleDigest (sampleRequest "/v1/rules/a" "b:c" "{}" [])
        (sampleRequest "/v1/rules/a:b" "c" "{}" []) ∧
      Collide sampleDigest (sampleRequest "/v1/rules" "hash:7b7d" "[]" [])
        (sampleRequest "/v1/rules" "" "{}" []) := by
  decide +kernel

end Matcher.Idempotency
