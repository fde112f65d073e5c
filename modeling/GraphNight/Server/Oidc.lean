import GraphNight.Core.RustStd
import GraphNight.Core.Value
import GraphNight.Lib.KeyedList
import GraphNight.Server.AuthConfig

/-!
# Bearer tokens of an issuer (`graphnight-server/src/oidc.rs`)

A token names its algorithm and perhaps its key; the key is looked for in the cached key set, and
in the published one if it is not found there. What `jsonwebtoken` does is a parameter: how headers
and keys are decoded, which signatures are good, and which claims pass a validation.
-/

namespace GraphNight

/-- `jsonwebtoken::Algorithm`. -/
inductive Algorithm where
  | hs256 | hs384 | hs512
  | rs256 | rs384 | rs512
  | es256 | es384
  | ps256 | ps384 | ps512
  | edDsa
deriving DecidableEq, Repr

/-- How `{:?}` writes an algorithm. -/
def Algorithm.debugName : Algorithm → String
  | hs256 => "HS256"
  | hs384 => "HS384"
  | hs512 => "HS512"
  | rs256 => "RS256"
  | rs384 => "RS384"
  | rs512 => "RS512"
  | es256 => "ES256"
  | es384 => "ES384"
  | ps256 => "PS256"
  | ps384 => "PS384"
  | ps512 => "PS512"
  | edDsa => "EdDSA"

namespace Oidc

/-- `jsonwebtoken::jwk::KeyAlgorithm`: those that sign, and the others, such as `RSA-OAEP`. -/
inductive KeyAlgorithm where
  | signing (alg : Algorithm)
  | other (name : String)
deriving DecidableEq, Repr

/-- A key of a set; its parameters are for the decoder only. -/
structure Jwk (κ : Type) where
  keyId : Option String
  keyAlgorithm : Option KeyAlgorithm
  parameters : κ

structure Header where
  alg : Algorithm
  kid : Option String

structure Claims where
  sub : String
  extra : KeyedList (String × Value) Prod.fst

structure Validation where
  alg : Algorithm
  issuer : String
  /-- `none`: the audience is not looked at. -/
  audiences : Option (List String)

/-- What `jsonwebtoken` makes of tokens and keys; an error is its text. -/
structure JsonWebToken (κ δ τ : Type) where
  decodeHeader : τ → Except String Header
  fromJwk : Jwk κ → Option δ
  /-- The signature of a token is good for a key. -/
  verifies : δ → Algorithm → τ → Bool
  /-- The claims, if issuer, audience and expiry are as required. -/
  claims : Validation → τ → Except String Claims

structure OidcSettings where
  issuer : String
  audience : Option String
  clientId : Option String
  adminClaim : String
  adminValues : List String
  tenantClaim : String

def OidcSettings.expectedAudiences (s : OidcSettings) : List String :=
  let out := s.audience.toList
  match s.clientId with
  | some c => if out.contains c then out else out ++ [c]
  | none => out

/-- A key set with the time it was fetched at, in nanoseconds. -/
structure CachedJwks (κ : Type) where
  set : List (Jwk κ)
  fetchedAt : Nat

/-- One hour. -/
def jwksTtl : Nat := 3600 * 1000000000

/-! ## Claims -/

def claimMatchesAdmin (extra : KeyedList (String × Value) Prod.fst) (claim : String) (adminValues : List String) : Bool :=
  match (extra.get claim).map Prod.snd with
  | some (.string s) => adminValues.any (Str.eqIgnoreAsciiCase s)
  | some (.array items) => items.any fun item => (item.asStr.map fun s => adminValues.any (Str.eqIgnoreAsciiCase s)).getD false
  | some (.bool true) => claim == "admin" || claim == "is_admin"
  | _ => false

/-- A claim that is a text or a number, as a text. -/
def claimText : Value → Option String
  | .string s => some (Str.trim s)
  | .number n => some n
  | _ => none

def stringClaim (extra : KeyedList (String × Value) Prod.fst) (name : String) : Option String :=
  ((extra.get name).bind fun claim => claimText claim.2).filter (· ≠ "")

def extractTenant (extra : KeyedList (String × Value) Prod.fst) (tenantClaim : String) : Option String :=
  match stringClaim extra tenantClaim with
  | some v => some v
  | none => if tenantClaim = "tenant_id" then stringClaim extra "org_id" else none

/-! ## Keys -/

def keyAlgorithmToJwt : KeyAlgorithm → Option Algorithm
  | .signing alg => some alg
  | .other _ => none

variable {κ δ τ : Type}

/-- `JwkSet::find`. -/
def find (set : List (Jwk κ)) (kid : String) : Option (Jwk κ) := set.find? (·.keyId == some kid)

/-- The keys that are looked at. -/
def candidates (set : List (Jwk κ)) (kid : Option String) : List (Jwk κ) :=
  match kid with
  | some kid => (find set kid).toList
  | none => if set.length = 1 then set.take 1 else set

/-- A key that advertises a different algorithm, when that can be told. -/
def skipped (alg : Algorithm) (jwk : Jwk κ) : Bool :=
  match jwk.keyAlgorithm.bind keyAlgorithmToJwt with
  | some mapped => mapped != alg
  | none => false

/-- The first candidate that is not skipped and can be decoded. -/
def findDecodingKey (J : JsonWebToken κ δ τ) (set : List (Jwk κ)) (kid : Option String) (alg : Algorithm) : Option δ :=
  (candidates set kid).findSome? fun jwk => if skipped alg jwk then none else J.fromJwk jwk

/-- The cached set, while it is fresh. -/
def fresh (now : Nat) (cache : Option (CachedJwks κ)) : Option (List (Jwk κ)) :=
  match cache with
  | some cached => if now - cached.fetchedAt < jwksTtl then some cached.set else none
  | none => none

/-- `get_jwks`, with what a fetch comes back with. -/
def getJwks (now : Nat) (fetch : Except String (List (Jwk κ))) (force : Bool) (cache : Option (CachedJwks κ)) :
    Except String (List (Jwk κ)) × Option (CachedJwks κ) :=
  match if force then none else fresh now cache with
  | some set => (.ok set, cache)
  | none =>
    match fetch with
    | .ok set => (.ok set, some ⟨set, now⟩)
    | .error e => (.error e, cache)

/-- `{kid:?}`. -/
def debugKid (std : RustStd) (kid : Option String) : String :=
  match kid with
  | some kid => "Some(" ++ Str.debug std.escapes kid ++ ")"
  | none => "None"

/-- `decoding_key_from_jwks`; of the two fetches the second is forced. -/
def decodingKeyFromJwks (std : RustStd) (J : JsonWebToken κ δ τ) (now : Nat) (fetch : Bool → Except String (List (Jwk κ)))
    (cache : Option (CachedJwks κ)) (kid : Option String) (alg : Algorithm) : Except String δ × Option (CachedJwks κ) :=
  match getJwks now (fetch false) false cache with
  | (.error e, cache) => (.error e, cache)
  | (.ok set, cache) =>
    match findDecodingKey J set kid alg with
    | some key => (.ok key, cache)
    | none =>
      match getJwks now (fetch true) true cache with
      | (.error e, cache) => (.error e, cache)
      | (.ok set, cache) =>
        match findDecodingKey J set kid alg with
        | some key => (.ok key, cache)
        | none => (.error ("No JWKS key for kid=" ++ debugKid std kid ++ " alg=" ++ alg.debugName), cache)

/-! ## Tokens -/

/-- `jsonwebtoken::decode`. -/
def decode (J : JsonWebToken κ δ τ) (token : τ) (key : δ) (validation : Validation) : Except String Claims :=
  if J.verifies key validation.alg token then J.claims validation token else .error "InvalidSignature"

/-- What a token is validated against. -/
def validationOf (settings : OidcSettings) (alg : Algorithm) : Validation where
  alg
  issuer := settings.issuer
  audiences := if settings.expectedAudiences.isEmpty then none else some settings.expectedAudiences

/-- Whom the claims of a token name. -/
def identify (settings : OidcSettings) (claims : Claims) : Except String Identity :=
  if Str.trim claims.sub = "" then .error "JWT missing sub"
  else .ok {
    userId := claims.sub
    isAdmin := claimMatchesAdmin claims.extra settings.adminClaim settings.adminValues
    tenantId := extractTenant claims.extra settings.tenantClaim }

/-- `OidcValidator::validate`, with the cache it leaves. -/
def validate (std : RustStd) (J : JsonWebToken κ δ τ) (settings : OidcSettings) (now : Nat) (fetch : Bool → Except String (List (Jwk κ)))
    (cache : Option (CachedJwks κ)) (token : τ) : Except String Identity × Option (CachedJwks κ) :=
  match J.decodeHeader token with
  | .error e => (.error ("JWT header: " ++ e), cache)
  | .ok header =>
    match decodingKeyFromJwks std J now fetch cache header.kid header.alg with
    | (.error e, cache) => (.error e, cache)
    | (.ok key, cache) =>
      match decode J token key (validationOf settings header.alg) with
      | .error e => (.error ("JWT validate: " ++ e), cache)
      | .ok claims => (identify settings claims, cache)

/-! ## The key a token is tried with -/

/-- A key that is not skipped and can be decoded. -/
def Usable (J : JsonWebToken κ δ τ) (alg : Algorithm) (jwk : Jwk κ) : Prop := skipped alg jwk = false ∧ (J.fromJwk jwk).isSome = true

/-- The first usable candidate of a set. -/
def FirstUsable (J : JsonWebToken κ δ τ) (set : List (Jwk κ)) (kid : Option String) (alg : Algorithm) (jwk : Jwk κ) : Prop :=
  ∃ before after, candidates set kid = before ++ jwk :: after ∧ (∀ b ∈ before, ¬Usable J alg b) ∧ Usable J alg jwk

theorem FirstUsable.usable {J : JsonWebToken κ δ τ} {set : List (Jwk κ)} {kid : Option String} {alg : Algorithm} {jwk : Jwk κ}
    (h : FirstUsable J set kid alg jwk) : Usable J alg jwk := by
  obtain ⟨-, -, -, -, husable⟩ := h
  exact husable

theorem findDecodingKey_eq_some {J : JsonWebToken κ δ τ} {set : List (Jwk κ)} {kid : Option String} {alg : Algorithm} {key : δ} :
    findDecodingKey J set kid alg = some key ↔ ∃ jwk, FirstUsable J set kid alg jwk ∧ J.fromJwk jwk = some key := by
  have hnot {b : Jwk κ} : (if skipped alg b then none else J.fromJwk b) = none ↔ ¬Usable J alg b := by
    unfold Usable
    cases skipped alg b <;> cases J.fromJwk b <;> simp
  rw [findDecodingKey, List.findSome?_eq_some_iff]
  constructor
  · rintro ⟨before, jwk, after, hsplit, hjwk, hbefore⟩
    split at hjwk
    · cases hjwk
    · next hskip =>
      refine ⟨jwk, ⟨before, after, hsplit, fun b hb => hnot.1 (hbefore b hb), by simpa using hskip, by rw [hjwk]; rfl⟩, hjwk⟩
  · rintro ⟨jwk, ⟨before, after, hsplit, hbefore, hskip, -⟩, hjwk⟩
    refine ⟨before, jwk, after, hsplit, ?_, fun b hb => hnot.2 (hbefore b hb)⟩
    rw [hskip]
    exact hjwk

theorem findDecodingKey_eq_none {J : JsonWebToken κ δ τ} {set : List (Jwk κ)} {kid : Option String} {alg : Algorithm} :
    findDecodingKey J set kid alg = none ↔ ∀ jwk, ¬FirstUsable J set kid alg jwk := by
  constructor
  · intro hnone jwk hfirst
    obtain ⟨key, hkey⟩ := Option.isSome_iff_exists.1 hfirst.usable.2
    have hsome := findDecodingKey_eq_some.2 ⟨jwk, hfirst, hkey⟩
    rw [hnone] at hsome
    cases hsome
  · intro hnone
    cases hfind : findDecodingKey J set kid alg with
    | none => rfl
    | some key =>
      obtain ⟨jwk, hfirst, -⟩ := findDecodingKey_eq_some.1 hfind
      exact absurd hfirst (hnone jwk)

/-- The key a token is tried with: of the cached set while that is fresh, else of the published one. -/
def Tried (J : JsonWebToken κ δ τ) (now : Nat) (cache : Option (CachedJwks κ)) (published : List (Jwk κ)) (kid : Option String)
    (alg : Algorithm) (jwk : Jwk κ) : Prop :=
  (∃ set, fresh now cache = some set ∧ FirstUsable J set kid alg jwk) ∨
    (∀ set, fresh now cache = some set → ∀ j, ¬FirstUsable J set kid alg j) ∧ FirstUsable J published kid alg jwk

variable {std : RustStd} {J : JsonWebToken κ δ τ} {settings : OidcSettings} {now : Nat} {cache : Option (CachedJwks κ)}
  {published : List (Jwk κ)} {kid : Option String} {alg : Algorithm}

theorem getJwks_fresh {fetch : Except String (List (Jwk κ))} {set : List (Jwk κ)} (h : fresh now cache = some set) :
    getJwks now fetch false cache = (.ok set, cache) := by
  simp [getJwks, h]

theorem getJwks_absent (h : fresh now cache = none) : getJwks now (.ok published) false cache = (.ok published, some ⟨published, now⟩) := by
  simp [getJwks, h]

theorem getJwks_forced : getJwks now (.ok published) true cache = (.ok published, some ⟨published, now⟩) := by
  simp [getJwks]

/-- The key looked for is that of the cached set, or of the published one where that has none. -/
theorem decodingKeyFromJwks_toOption :
    (decodingKeyFromJwks std J now (fun _ => .ok published) cache kid alg).1.toOption =
      ((fresh now cache).bind fun set => findDecodingKey J set kid alg).or (findDecodingKey J published kid alg) := by
  cases hfresh : fresh now cache with
  | none =>
    simp only [decodingKeyFromJwks, getJwks_absent hfresh, getJwks_forced, Option.bind_none, Option.none_or]
    cases findDecodingKey J published kid alg <;> rfl
  | some set =>
    simp only [decodingKeyFromJwks, getJwks_fresh hfresh, getJwks_forced, Option.bind_some]
    cases hcached : findDecodingKey J set kid alg with
    | some key => rfl
    | none =>
      simp only [Option.none_or]
      cases findDecodingKey J published kid alg <;> rfl

/-- **The key that is found is the tried one**, decoded. -/
theorem decodingKeyFromJwks_eq_ok {key : δ} :
    (decodingKeyFromJwks std J now (fun _ => .ok published) cache kid alg).1 = .ok key ↔
      ∃ jwk, Tried J now cache published kid alg jwk ∧ J.fromJwk jwk = some key := by
  have hok {r : Except String δ} : r = .ok key ↔ r.toOption = some key := by
    cases r with
    | error e => exact iff_of_false (fun h => nomatch h) (fun h => nomatch h)
    | ok found => exact ⟨fun h => congrArg some (Except.ok.inj h), fun h => congrArg Except.ok (Option.some.inj h)⟩
  rw [hok, decodingKeyFromJwks_toOption, Option.or_eq_some_iff, findDecodingKey_eq_some, Option.bind_eq_some_iff]
  simp only [findDecodingKey_eq_some, Option.bind_eq_none_iff, findDecodingKey_eq_none, Tried]
  constructor
  · rintro (⟨set, hset, jwk, hfirst, hkey⟩ | ⟨hnone, jwk, hfirst, hkey⟩)
    · exact ⟨jwk, .inl ⟨set, hset, hfirst⟩, hkey⟩
    · exact ⟨jwk, .inr ⟨hnone, hfirst⟩, hkey⟩
  · rintro ⟨jwk, ⟨set, hset, hfirst⟩ | ⟨hnone, hfirst⟩, hkey⟩
    · exact .inl ⟨set, hset, jwk, hfirst, hkey⟩
    · exact .inr ⟨hnone, jwk, hfirst, hkey⟩

/-! ## Which tokens are accepted -/

/-- A key a token may have been signed with. -/
def Matches (kid : Option String) (jwk : Jwk κ) : Prop := ∀ k, kid = some k → jwk.keyId = some k

/-- A key that advertises no other algorithm. -/
def Agrees (alg : Algorithm) (jwk : Jwk κ) : Prop := ∀ a, jwk.keyAlgorithm = some a → a = .signing alg

/-- A key that verifies the signature of a token. -/
def Verifies (J : JsonWebToken κ δ τ) (alg : Algorithm) (token : τ) (jwk : Jwk κ) : Prop :=
  ∃ key, J.fromJwk jwk = some key ∧ J.verifies key alg token = true

/-- The key a token was signed with is published. -/
def Signed (J : JsonWebToken κ δ τ) (published : List (Jwk κ)) (header : Header) (token : τ) : Prop :=
  ∃ jwk ∈ published, Matches header.kid jwk ∧ Agrees header.alg jwk ∧ Verifies J header.alg token jwk

/-- What the choice of a key owes to a token whose claims are as required. -/
structure KeySelection (std : RustStd) (J : JsonWebToken κ δ τ) (settings : OidcSettings) (now : Nat) (cache : Option (CachedJwks κ))
    (published : List (Jwk κ)) (token : τ) (header : Header) : Prop where
  complete : Signed J published header token → ∃ identity, (validate std J settings now (fun _ => .ok published) cache token).1 = .ok identity
  sound : ∀ jwk, Tried J now cache published header.kid header.alg jwk → Agrees header.alg jwk

variable {token : τ} {header : Header} {claims : Claims}

/-- **A token with good claims is accepted, if the tried key verifies it.** -/
theorem validate_eq_ok_iff (hheader : J.decodeHeader token = .ok header)
    (hclaims : J.claims (validationOf settings header.alg) token = .ok claims) (hsub : Str.trim claims.sub ≠ "") :
    (∃ identity, (validate std J settings now (fun _ => .ok published) cache token).1 = .ok identity) ↔
      ∃ jwk, Tried J now cache published header.kid header.alg jwk ∧ Verifies J header.alg token jwk := by
  have hkey := fun key => @decodingKeyFromJwks_eq_ok _ _ _ std J now cache published header.kid header.alg key
  simp only [validate, hheader]
  generalize decodingKeyFromJwks std J now (fun _ => .ok published) cache header.kid header.alg = found at hkey ⊢
  obtain ⟨outcome, after⟩ := found
  cases outcome with
  | error e =>
    refine iff_of_false (fun ⟨_, h⟩ => nomatch h) ?_
    rintro ⟨jwk, htried, key, hdecodes, -⟩
    cases (hkey key).2 ⟨jwk, htried, hdecodes⟩
  | ok key =>
    have hverified : (∃ jwk, Tried J now cache published header.kid header.alg jwk ∧ Verifies J header.alg token jwk) ↔
        J.verifies key header.alg token = true := by
      constructor
      · rintro ⟨jwk, htried, key', hdecodes, hverifies⟩
        obtain rfl := Except.ok.inj ((hkey key').2 ⟨jwk, htried, hdecodes⟩)
        exact hverifies
      · intro hverifies
        obtain ⟨jwk, htried, hdecodes⟩ := (hkey key).1 rfl
        exact ⟨jwk, htried, key, hdecodes, hverifies⟩
    rw [hverified]
    dsimp only
    cases hverifies : J.verifies key header.alg token with
    | false =>
      have hdecode : decode J token key (validationOf settings header.alg) = .error "InvalidSignature" := by
        show (if J.verifies key header.alg token then _ else _) = _
        rw [hverifies]
        rfl
      rw [hdecode]
      exact iff_of_false (fun ⟨_, h⟩ => nomatch h) (by simp)
    | true =>
      have hdecode : decode J token key (validationOf settings header.alg) = .ok claims := by
        show (if J.verifies key header.alg token then _ else _) = _
        rw [hverifies, if_pos rfl, hclaims]
      rw [hdecode]
      exact iff_of_true ⟨_, if_neg hsub⟩ rfl

/-- An algorithm that cannot be told from the token's is none that signs. -/
theorem agrees_of_not_skipped {jwk : Jwk κ} (h : skipped alg jwk = false) : Agrees alg jwk ↔ ∀ name, jwk.keyAlgorithm ≠ some (.other name) := by
  unfold skipped at h
  unfold Agrees
  cases hadvertised : jwk.keyAlgorithm with
  | none => simp
  | some a =>
    cases a with
    | other name => simp
    | signing mapped =>
      rw [hadvertised] at h
      obtain rfl : mapped = alg := by simpa [keyAlgorithmToJwt] using h
      simp

theorem Tried.not_skipped {jwk : Jwk κ} (h : Tried J now cache published kid alg jwk) : skipped alg jwk = false := by
  rcases h with ⟨_, -, hfirst⟩ | ⟨-, hfirst⟩
  · exact hfirst.usable.1
  · exact hfirst.usable.1

/-- Keys are numbers, and a token is the number of the key it was signed with. -/
def numbered : JsonWebToken Nat Nat Nat where
  decodeHeader _ := .ok ⟨.rs256, none⟩
  fromJwk jwk := some jwk.parameters
  verifies key _ token := key == token
  claims _ _ := .ok ⟨"ana", .empty⟩

def issuer : OidcSettings := ⟨"https://issuer.example", none, none, "roles", ["admin"], "tenant_id"⟩

def newKey : Jwk Nat := ⟨some "new", some (.signing .rs256), 2⟩

def oldKey : Jwk Nat := ⟨some "old", some (.signing .rs256), 1⟩

theorem eq_of_tried {published rest : List (Jwk Nat)} {jwk key : Jwk Nat} {kid : Option String} (hcandidates : candidates published kid = key :: rest)
    (husable : Usable numbered alg key) (h : Tried numbered 0 none published kid alg jwk) : jwk = key := by
  rcases h with ⟨_, hfresh, -⟩ | ⟨-, before, after, hsplit, hbefore, -⟩
  · cases hfresh
  · rw [hcandidates] at hsplit
    cases before with
    | nil => exact (List.cons.inj hsplit).1.symm
    | cons b before =>
      rw [(List.cons.inj hsplit).1] at husable
      exact absurd husable (hbefore b List.mem_cons_self)

end Oidc

end GraphNight
