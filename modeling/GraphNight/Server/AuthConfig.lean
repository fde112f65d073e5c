import GraphNight.Core.RustStd
import GraphNight.Core.Secrets
import GraphNight.Lib.KeyedList
import GraphNight.Lib.Padding
import GraphNight.Lib.Utf8

/-!
# API keys (`graphnight-server/src/auth_config.rs`)

The keys are a `HashMap` from user to secret, scanned for the presented secret in the
order the map yields its users.
-/

namespace GraphNight

/-- Parsed API key identity. -/
structure Identity where
  userId : String
  isAdmin : Bool
  tenantId : Option String
deriving DecidableEq, Repr

abbrev ApiKeys := KeyedList (String × String) Prod.fst

/-- Server auth configuration loaded from environment. -/
structure AuthConfig where
  /-- user id → api key -/
  apiKeys : ApiKeys
  /-- admin user ids -/
  adminUsers : List String
  /-- When true, anonymous GraphQL is rejected. -/
  authRequired : Bool

namespace AuthConfig

/-- One part of a key text: `user:key`. -/
def keyPair (part : String) : Option (String × String) :=
  let part := Str.trim part
  if part = "" then none else (Str.splitOnce part ':').map fun p => (Str.trim p.1, Str.trim p.2)

def parseKeyPairs (raw : Option String) (out : ApiKeys) : ApiKeys :=
  match raw with
  | none => out
  | some raw => (Str.split raw ',').foldl (fun out part =>
      match keyPair part with
      | some pair => out.insert pair
      | none => out) out

/-- The users written in `GRAPHNIGHT_ADMIN_KEYS`; here the keys are not looked at. -/
def parseAdminUsers (raw : Option String) : List String :=
  match raw with
  | none => []
  | some raw => (Str.split raw ',').foldl (fun users part =>
      let part := Str.trim part
      if part = "" then users
      else
        match Str.splitOnce part ':' with
        | some (user, _) => users ++ [Str.trim user]
        | none => users) []

/-- A switch in the environment. -/
def switchedOn (env : Environment) (name : String) : Bool := (env name).any fun v => v == "1" || Str.eqIgnoreAsciiCase v "true"

/-- Load from the environment; `oidc` says whether a validator was initialized. -/
def fromEnv (env : Environment) (oidc : Bool) : AuthConfig :=
  let apiKeys := parseKeyPairs (env "GRAPHNIGHT_ADMIN_KEYS") (parseKeyPairs (env "GRAPHNIGHT_API_KEYS") .empty)
  { apiKeys
    adminUsers := parseAdminUsers (env "GRAPHNIGHT_ADMIN_KEYS")
    authRequired :=
      if switchedOn env "GRAPHNIGHT_DEV_OPEN" then false
      else switchedOn env "GRAPHNIGHT_AUTH_REQUIRED" || !apiKeys.items.isEmpty || oidc }

/-- Compare in constant time for equal lengths; otherwise false. -/
def secretsEqual (a b : String) : Bool :=
  if (Utf8.bytes a).length ≠ (Utf8.bytes b).length then false
  else ((Utf8.bytes a).zip (Utf8.bytes b)).foldl (fun acc p => acc ||| (p.1 ^^^ p.2)) 0 == 0

/-- The entries of the key map, in the order it yields them. -/
def entries (std : RustStd) (config : AuthConfig) : List (String × String) :=
  (std.hashOrder (config.apiKeys.items.map (·.1))).filterMap config.apiKeys.get

def authenticate (std : RustStd) (config : AuthConfig) (rawKey tenantId : Option String) : Option Identity := do
  let key := Str.trim (← rawKey)
  if key = "" then none
  else
    let (userId, _) ← (config.entries std).find? fun entry => secretsEqual entry.2 key
    return { userId, isAdmin := config.adminUsers.contains userId, tenantId }

/-! ## What the texts say -/

/-- The pairs a key text writes. -/
def keyPairs (raw : Option String) : List (String × String) := raw.elim [] fun raw => (Str.split raw ',').filterMap keyPair

theorem parseKeyPairs_eq (raw : Option String) (out : ApiKeys) :
    parseKeyPairs raw out = (keyPairs raw).foldl (fun m pair => m.insert pair) out := by
  cases raw with
  | none => rfl
  | some raw =>
    simp only [parseKeyPairs, keyPairs, Option.elim_some, List.foldl_filterMap]
    congr 1
    funext out part
    cases keyPair part <;> rfl

theorem mem_parseAdminUsers {raw : Option String} {user : String} :
    user ∈ parseAdminUsers raw ↔ ∃ pair ∈ keyPairs raw, pair.1 = user := by
  cases raw with
  | none => simp [parseAdminUsers, keyPairs]
  | some raw =>
    simp only [parseAdminUsers, keyPairs, Option.elim_some]
    induction Str.split raw ',' using List.reverseRecOn with
    | nil => simp
    | append_singleton parts part ih =>
      rw [List.foldl_append, List.filterMap_append]
      simp only [List.foldl_cons, List.foldl_nil, List.mem_append, or_and_right, exists_or, ← ih]
      by_cases hpart : Str.trim part = ""
      · simp [keyPair, hpart]
      · cases hsplit : Str.splitOnce (Str.trim part) ':' with
        | none => simp [keyPair, hpart, hsplit]
        | some p =>
          have hcomm : Str.trim p.1 = user ↔ user = Str.trim p.1 := eq_comm
          simp [keyPair, hpart, hsplit, hcomm]

theorem secretsEqual_iff {a b : String} : secretsEqual a b = true ↔ a = b := by
  have hfold : ∀ (ps : List (UInt8 × UInt8)) (acc : UInt8),
      ps.foldl (fun acc p => acc ||| (p.1 ^^^ p.2)) acc = 0 ↔ acc = 0 ∧ ∀ p ∈ ps, p.1 = p.2 := by
    intro ps
    induction ps with
    | nil => simp
    | cons p ps ih =>
      intro acc
      rw [List.foldl_cons, ih, UInt8.or_eq_zero_iff, UInt8.xor_eq_zero_iff, List.forall_mem_cons, and_assoc]
  rw [← Utf8.bytes_inj, secretsEqual]
  by_cases hlen : (Utf8.bytes a).length = (Utf8.bytes b).length
  · rw [if_neg (not_not.2 hlen), beq_iff_eq, hfold, ← List.forall₂_eq_eq_eq, List.forall₂_iff_zip]
    simp [hlen]
  · exact iff_of_false (by simp [hlen]) fun heq => hlen (by rw [heq])

/-! ## Which keys are held -/

/-- The pairs of both texts, in the order they are read. -/
def written (env : Environment) : List (String × String) :=
  keyPairs (env "GRAPHNIGHT_API_KEYS") ++ keyPairs (env "GRAPHNIGHT_ADMIN_KEYS")

/-- The last pair of a user is the one that counts. -/
def LastPair (pairs : List (String × String)) (pair : String × String) : Prop :=
  ∃ before after, pairs = before ++ pair :: after ∧ ∀ p ∈ after, p.1 ≠ pair.1

variable {std : RustStd} {env : Environment} {oidc : Bool}

theorem apiKeys_fromEnv : (fromEnv env oidc).apiKeys = KeyedList.ofList (written env) := by
  rw [fromEnv, parseKeyPairs_eq, parseKeyPairs_eq, KeyedList.ofList, written, List.foldl_append]

theorem mem_ofList_iff {pairs : List (String × String)} {pair : String × String} :
    pair ∈ (KeyedList.ofList pairs : ApiKeys).items ↔ LastPair pairs pair := by
  constructor
  · intro h
    unfold KeyedList.ofList at h
    induction pairs using List.reverseRecOn with
    | nil => exact absurd h List.not_mem_nil
    | append_singleton pairs last ih =>
      rw [List.foldl_append, List.foldl_cons, List.foldl_nil] at h
      obtain rfl | ⟨hmem, hne⟩ := KeyedList.mem_insert_iff.1 h
      · exact ⟨pairs, [], rfl, by simp⟩
      · obtain ⟨before, after, rfl, hafter⟩ := ih hmem
        refine ⟨before, after ++ [last], by simp, fun p hp => ?_⟩
        rcases List.mem_append.1 hp with hp | hp
        · exact hafter p hp
        · rw [List.mem_singleton.1 hp]
          exact Ne.symm hne
  · rintro ⟨before, after, rfl, hafter⟩
    exact KeyedList.mem_of_get (KeyedList.get_ofList hafter)

theorem mem_apiKeys {pair : String × String} : pair ∈ (fromEnv env oidc).apiKeys.items ↔ LastPair (written env) pair := by
  rw [apiKeys_fromEnv, mem_ofList_iff]

theorem LastPair.mem {pairs : List (String × String)} {pair : String × String} (h : LastPair pairs pair) : pair ∈ pairs := by
  obtain ⟨before, after, rfl, -⟩ := h
  simp

/-- The last pair of a user of the second text is in the second text. -/
theorem LastPair.mem_right {first second : List (String × String)} {pair : String × String} (h : LastPair (first ++ second) pair)
    (huser : ∃ p ∈ second, p.1 = pair.1) : pair ∈ second := by
  obtain ⟨before, after, hpairs, hafter⟩ := h
  obtain ⟨p, hp, hkey⟩ := huser
  obtain ⟨rest, rfl, hrest⟩ | ⟨rest, rfl, hrest⟩ := List.append_eq_append_iff.1 hpairs
  · rw [hrest]
    simp
  · cases rest with
    | nil =>
      rw [List.nil_append] at hrest
      rw [← hrest]
      exact List.mem_cons_self
    | cons head rest =>
      obtain ⟨rfl, rfl⟩ := List.cons.inj hrest
      exact absurd hkey (hafter p (List.mem_append_right _ hp))

/-! ## Who is authenticated -/

/-- What a user is known as. -/
def identityOf (config : AuthConfig) (tenantId : Option String) (userId : String) : Identity :=
  ⟨userId, config.adminUsers.contains userId, tenantId⟩

theorem mem_entries {config : AuthConfig} {entry : String × String} : entry ∈ config.entries std ↔ entry ∈ config.apiKeys.items := by
  simp only [entries, List.mem_filterMap, (std.hashOrder_perm _).mem_iff, List.mem_map, KeyedList.get_eq_some]
  constructor
  · rintro ⟨_, -, hmem, -⟩
    exact hmem
  · intro hmem
    exact ⟨entry.1, ⟨entry, hmem, rfl⟩, hmem, rfl⟩

/-- The first entry with the presented secret says who the caller is. -/
theorem authenticate_key {key : String} (config : AuthConfig) (tenantId : Option String) (h : Str.trim key ≠ "") :
    authenticate std config (some key) tenantId =
      ((config.entries std).find? fun entry => secretsEqual entry.2 (Str.trim key)).map fun entry =>
        config.identityOf tenantId entry.1 := by
  simp only [authenticate, Option.pure_def, Option.bind_eq_bind, Option.bind_some, h, if_false]
  cases (config.entries std).find? fun entry => secretsEqual entry.2 (Str.trim key) <;> rfl

theorem authenticate_blank {key : String} (config : AuthConfig) (tenantId : Option String) (h : Str.trim key = "") :
    authenticate std config (some key) tenantId = none := by
  simp [authenticate, h]

theorem authenticate_eq_some {config : AuthConfig} {rawKey tenantId : Option String} {id : Identity}
    (h : authenticate std config rawKey tenantId = some id) :
    ∃ key userId, rawKey = some key ∧ Str.trim key ≠ "" ∧ (userId, Str.trim key) ∈ config.apiKeys.items ∧
      id = config.identityOf tenantId userId := by
  cases rawKey with
  | none => cases h
  | some key =>
    by_cases hblank : Str.trim key = ""
    · rw [authenticate_blank config tenantId hblank] at h
      cases h
    · rw [authenticate_key config tenantId hblank, Option.map_eq_some_iff] at h
      obtain ⟨⟨userId, secret⟩, hfind, rfl⟩ := h
      have hequal := List.find?_some hfind
      obtain rfl : secret = Str.trim key := secretsEqual_iff.1 hequal
      exact ⟨key, userId, rfl, hblank, mem_entries.1 (List.mem_of_find?_eq_some hfind), rfl⟩

/-- A holder of the presented secret is found, or another one is. -/
theorem authenticate_ne_none {config : AuthConfig} {key userId : String} (tenantId : Option String) (hkey : Str.trim key ≠ "")
    (hmem : (userId, Str.trim key) ∈ config.apiKeys.items) : authenticate std config (some key) tenantId ≠ none := by
  rw [authenticate_key config tenantId hkey, ne_eq, Option.map_eq_none_iff, List.find?_eq_none]
  intro hnone
  exact hnone _ (mem_entries.2 hmem) (secretsEqual_iff.2 rfl)

/-- A map that yields a user before all others. -/
def yielding (std : RustStd) (userId : String) : RustStd :=
  { std with
    hashOrder := fun keys => if userId ∈ keys then userId :: keys.erase userId else keys
    hashOrder_perm := fun keys => by
      split_ifs with h
      · exact (List.perm_cons_erase h).symm
      · exact .refl _ }

/-- Any holder of the presented secret is the first one in some order. -/
theorem authenticate_yielding {config : AuthConfig} {key userId : String} (tenantId : Option String) (hkey : Str.trim key ≠ "")
    (hmem : (userId, Str.trim key) ∈ config.apiKeys.items) :
    authenticate (yielding std userId) config (some key) tenantId = some (config.identityOf tenantId userId) := by
  have hget : config.apiKeys.get userId = some (userId, Str.trim key) := KeyedList.get_eq_some.2 ⟨hmem, rfl⟩
  have huser : userId ∈ config.apiKeys.items.map (·.1) := List.mem_map_of_mem hmem
  have hentries : config.entries (yielding std userId) = (userId, Str.trim key) ::
      ((config.apiKeys.items.map (·.1)).erase userId).filterMap config.apiKeys.get := by
    simp only [entries, yielding, huser, if_true]
    exact List.filterMap_cons_some hget
  have hequal : secretsEqual (Str.trim key) (Str.trim key) = true := secretsEqual_iff.2 rfl
  rw [authenticate_key config tenantId hkey, hentries]
  simp [hequal]

/-- Identity is a function of the configuration text and the presented key, only the
secrets in the texts are admitted, and only those in the second text for an admin. -/
def IdentityFixed (env : Environment) (oidc : Bool) (rawKey tenantId : Option String) : Prop :=
  (∀ std std', authenticate std (fromEnv env oidc) rawKey tenantId = authenticate std' (fromEnv env oidc) rawKey tenantId) ∧
    ∀ std id, authenticate std (fromEnv env oidc) rawKey tenantId = some id → ∃ key, rawKey = some key ∧
      (∃ userId, (userId, Str.trim key) ∈ written env) ∧
      (id.isAdmin = true → ∃ userId, (userId, Str.trim key) ∈ keyPairs (env "GRAPHNIGHT_ADMIN_KEYS"))

/-- No two users have the presented secret in their last pairs. -/
def OneHolder (env : Environment) (rawKey : Option String) : Prop :=
  ∀ key ∈ rawKey, Str.trim key ≠ "" → ∀ userId userId', LastPair (written env) (userId, Str.trim key) →
    LastPair (written env) (userId', Str.trim key) → userId = userId'

/-- Whatever order the map has, what is admitted is written, and an admin is written as one. -/
theorem admitted_written {rawKey tenantId : Option String} {id : Identity}
    (h : authenticate std (fromEnv env oidc) rawKey tenantId = some id) : ∃ key, rawKey = some key ∧
      (∃ userId, (userId, Str.trim key) ∈ written env) ∧
      (id.isAdmin = true → ∃ userId, (userId, Str.trim key) ∈ keyPairs (env "GRAPHNIGHT_ADMIN_KEYS")) := by
  obtain ⟨key, userId, rfl, -, hmem, rfl⟩ := authenticate_eq_some h
  rw [mem_apiKeys] at hmem
  refine ⟨key, rfl, ⟨userId, hmem.mem⟩, fun hadmin => ⟨userId, hmem.mem_right ?_⟩⟩
  rw [identityOf, List.contains_iff_mem] at hadmin
  exact mem_parseAdminUsers.1 hadmin

/-- A map that yields its keys as they were put in. -/
def someStd : RustStd := ⟨fun _ => false, id, List.Perm.refl, fun _ => 0, fun _ => none, id⟩

/-- Identity is fixed by the texts and the key exactly when one user at most holds the key. -/
theorem identity_fixed_iff (env : Environment) (oidc : Bool) (rawKey tenantId : Option String) :
    IdentityFixed env oidc rawKey tenantId ↔ OneHolder env rawKey := by
  constructor
  · rintro ⟨hfixed, -⟩ key hkey hne userId userId' hlast hlast'
    obtain rfl := Option.mem_def.1 hkey
    have hsame := hfixed (yielding someStd userId) (yielding someStd userId')
    rw [authenticate_yielding tenantId hne (mem_apiKeys.2 hlast), authenticate_yielding tenantId hne (mem_apiKeys.2 hlast')] at hsame
    exact congrArg Identity.userId (Option.some.inj hsame)
  · intro hone
    refine ⟨fun std std' => ?_, fun std id h => admitted_written h⟩
    cases h : authenticate std (fromEnv env oidc) rawKey tenantId with
    | none =>
      cases h' : authenticate std' (fromEnv env oidc) rawKey tenantId with
      | none => rfl
      | some id' =>
        obtain ⟨key, userId, rfl, hne, hmem, -⟩ := authenticate_eq_some h'
        exact absurd h (authenticate_ne_none tenantId hne hmem)
    | some id =>
      obtain ⟨key, userId, rfl, hne, hmem, rfl⟩ := authenticate_eq_some h
      cases h' : authenticate std' (fromEnv env oidc) (some key) tenantId with
      | none => exact absurd h' (authenticate_ne_none tenantId hne hmem)
      | some id' =>
        obtain ⟨key', userId', hkey, -, hmem', rfl⟩ := authenticate_eq_some h'
        cases hkey
        rw [hone key rfl hne userId userId' (mem_apiKeys.1 hmem) (mem_apiKeys.1 hmem')]

/-- A secret that `ops` shares with the admin `root`. -/
def sharedSecret : Environment := fun name =>
  if name = "GRAPHNIGHT_API_KEYS" then some "ops:s3cret"
  else if name = "GRAPHNIGHT_ADMIN_KEYS" then some "root:s3cret"
  else none

/-- Who presents a shared secret is an admin in one order of the map and none in another. -/
theorem shared_secret_varies : ¬IdentityFixed sharedSecret false (some "s3cret") none ∧
    authenticate (yielding someStd "ops") (fromEnv sharedSecret false) (some "s3cret") none = some ⟨"ops", false, none⟩ ∧
    authenticate (yielding someStd "root") (fromEnv sharedSecret false) (some "s3cret") none = some ⟨"root", true, none⟩ := by
  have hops : authenticate (yielding someStd "ops") (fromEnv sharedSecret false) (some "s3cret") none = some ⟨"ops", false, none⟩ := by
    decide +kernel
  have hroot : authenticate (yielding someStd "root") (fromEnv sharedSecret false) (some "s3cret") none = some ⟨"root", true, none⟩ := by
    decide +kernel
  refine ⟨fun hfixed => ?_, hops, hroot⟩
  have hsame := hfixed.1 (yielding someStd "ops") (yielding someStd "root")
  rw [hops, hroot] at hsame
  exact absurd hsame (by decide)

end AuthConfig

end GraphNight
