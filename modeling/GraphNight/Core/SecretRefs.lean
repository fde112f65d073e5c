import GraphNight.Core.Secrets
import GraphNight.Lib.Affix

/-!
# The recogniser and the extractor of secret references

`is_env_secret_ref` looks at the text behind `env:`, `env_secret_var_name` at what `trim`
leaves of it. They disagree on the references that name nothing but blanks: these pass the
check and go to the driver as they are.
-/

namespace GraphNight.Secrets

variable {env : Environment} {value : String}

/-- `env:` and at least one blank, and nothing else. -/
def BlankRef (value : String) : Prop := ∃ blanks, value = envSecretPrefix ++ blanks ∧ blanks ≠ "" ∧ Str.trim blanks = ""

/-- The recogniser and the extractor say the same of a text. -/
def RefAgrees (value : String) : Prop := isEnvSecretRef value = true ↔ (envSecretVarName value).isSome = true

/-- A text is resolved to the value of the variable it names, or to an error. -/
def Resolved (env : Environment) (value : String) : Prop :=
  (∃ name secret, envSecretVarName value = some name ∧ env name = some secret ∧ resolveConnectionString env value = .ok secret) ∨
    ∃ reason, resolveConnectionString env value = Res.fail reason

/-- With references required, a text that is accepted is resolved. -/
def RefsOnly (value : String) : Prop :=
  ∀ env, requireSecretRefsEnabled env = true → validateConnectionStringInput env value = .ok () → Resolved env value

theorem isEnvSecretRef_iff : isEnvSecretRef value = true ↔ ∃ name, value = envSecretPrefix ++ name ∧ name ≠ "" ∧ ':' ∉ name.toList := by
  rw [isEnvSecretRef, Option.any_eq_true]
  simp [Str.stripPrefix_eq_some, Str.containsChar]

theorem envSecretVarName_isSome_iff :
    (envSecretVarName value).isSome = true ↔ ∃ name, value = envSecretPrefix ++ name ∧ Str.trim name ≠ "" ∧ ':' ∉ name.toList := by
  have hcolon : ∀ name, Str.containsChar (Str.trim name) ':' = Str.containsChar name ':' := fun name =>
    Str.containsChar_trim (by decide)
  simp only [envSecretVarName, Option.isSome_iff_exists, Option.bind_eq_some_iff, Str.stripPrefix_eq_some, hcolon]
  simp [Str.containsChar]

/-- What a name is extracted from is recognised. -/
theorem isEnvSecretRef_of_isSome (h : (envSecretVarName value).isSome = true) : isEnvSecretRef value = true := by
  rw [envSecretVarName_isSome_iff] at h
  obtain ⟨name, rfl, htrim, hcolon⟩ := h
  refine isEnvSecretRef_iff.2 ⟨name, rfl, ?_, hcolon⟩
  rintro rfl
  exact htrim Str.trim_empty

/-- The converse fails on blanks alone. -/
theorem refAgrees_iff : RefAgrees value ↔ ¬BlankRef value := by
  constructor
  · rintro hagree ⟨blanks, rfl, hne, hblank⟩
    have hcolon : ':' ∉ blanks.toList := by
      rw [← Str.mem_trim (by decide), hblank]
      exact List.not_mem_nil
    obtain ⟨name, hname, htrim, -⟩ :=
      envSecretVarName_isSome_iff.1 (hagree.1 (isEnvSecretRef_iff.2 ⟨blanks, rfl, hne, hcolon⟩))
    rw [String.append_right_inj] at hname
    exact htrim (hname ▸ hblank)
  · intro hblank
    refine ⟨fun href => ?_, isEnvSecretRef_of_isSome⟩
    obtain ⟨name, rfl, hne, hcolon⟩ := isEnvSecretRef_iff.1 href
    exact envSecretVarName_isSome_iff.2 ⟨name, rfl, fun htrim => hblank ⟨name, rfl, hne, htrim⟩, hcolon⟩

theorem validate_ok_iff (h : requireSecretRefsEnabled env = true) :
    validateConnectionStringInput env value = .ok () ↔ isEnvSecretRef value = true := by
  rw [validateConnectionStringInput, h]
  cases isEnvSecretRef value <;> simp [Res.fail]

/-- An environment that requires references and holds nothing else. -/
def requiring : Environment := fun name => if name = "GRAPHNIGHT_REQUIRE_SECRET_REFS" then some "1" else none

theorem requiring_enabled : requireSecretRefsEnabled requiring = true := by decide

/-- A text is resolved exactly when it names a variable. -/
theorem resolved_iff : Resolved env value ↔ (envSecretVarName value).isSome = true := by
  constructor
  · rintro (⟨name, secret, hname, -, -⟩ | ⟨reason, hfail⟩)
    · rw [hname, Option.isSome_some]
    · by_contra hnone
      rw [Option.not_isSome_iff_eq_none] at hnone
      rw [resolveConnectionString, hnone] at hfail
      cases hfail
  · intro hsome
    obtain ⟨name, hname⟩ := Option.isSome_iff_exists.1 hsome
    cases hsecret : env name with
    | some secret => exact .inl ⟨name, secret, hname, hsecret, by simp [resolveConnectionString, hname, hsecret]⟩
    | none =>
      right
      rw [resolveConnectionString, hname]
      simp only [hsecret]
      exact ⟨_, rfl⟩

theorem refsOnly_iff : RefsOnly value ↔ ¬BlankRef value := by
  rw [← refAgrees_iff]
  constructor
  · intro honly
    refine ⟨fun href => resolved_iff.1 (honly requiring requiring_enabled ((validate_ok_iff requiring_enabled).2 href)), ?_⟩
    exact isEnvSecretRef_of_isSome
  · intro hagree env hrequired hvalid
    exact resolved_iff.2 (hagree.1 ((validate_ok_iff hrequired).1 hvalid))

/-- Secret references are recognised and resolved consistently except for the blank ones. -/
theorem secret_refs_hold_iff (value : String) : (RefAgrees value ∧ RefsOnly value) ↔ ¬BlankRef value := by
  rw [refAgrees_iff, refsOnly_iff, and_self]

/-- With references required, `env: ` is accepted and reaches the driver as it is. -/
theorem blank_ref_passes : ¬(RefAgrees "env: " ∧ RefsOnly "env: ") ∧
    validateConnectionStringInput requiring "env: " = .ok () ∧ resolveConnectionString requiring "env: " = .ok "env: " := by
  refine ⟨?_, rfl, rfl⟩
  rintro ⟨hagree, -⟩
  exact absurd (hagree.1 (by decide)) (by decide)

end GraphNight.Secrets
