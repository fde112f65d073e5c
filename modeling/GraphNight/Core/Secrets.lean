import GraphNight.Lib.Fault
import GraphNight.Lib.Str

/-!
# Secret references (`graphnight-core/src/secrets.rs`)

A connection string may name an environment variable instead of holding a secret. The
environment is what `env::var` answers.
-/

namespace GraphNight

abbrev Environment := String → Option String

namespace Secrets

/-- Prefix for environment-variable secret references. -/
def envSecretPrefix : String := "env:"

/-- True when `GRAPHNIGHT_REQUIRE_SECRET_REFS` is `1` / `true`. -/
def requireSecretRefsEnabled (env : Environment) : Bool :=
  match env "GRAPHNIGHT_REQUIRE_SECRET_REFS" with
  | some v => v == "1" || Str.eqIgnoreAsciiCase v "true"
  | none => false

/-- `value` is an `env:VARNAME` reference. -/
def isEnvSecretRef (value : String) : Bool :=
  (Str.stripPrefix value envSecretPrefix).any fun name => name != "" && !Str.containsChar name ':'

/-- Extract the variable name from an `env:VARNAME` reference. -/
def envSecretVarName (value : String) : Option String :=
  (Str.stripPrefix value envSecretPrefix).bind fun name =>
    let name := Str.trim name
    if name = "" ∨ Str.containsChar name ':' then none else some name

/-- Resolve `env:VARNAME` to the environment value; pass through other strings. -/
def resolveConnectionString (env : Environment) (value : String) : Res String String :=
  match envSecretVarName value with
  | some var =>
    Res.ofOption ("secret reference env:" ++ var ++ " is set but environment variable '" ++ var ++ "' is missing") (env var)
  | none => .ok value

/-- When `GRAPHNIGHT_REQUIRE_SECRET_REFS` is enabled, require `env:VARNAME` form. -/
def validateConnectionStringInput (env : Environment) (value : String) : Res String Unit :=
  if !requireSecretRefsEnabled env then .ok ()
  else if isEnvSecretRef value then .ok ()
  else
    Res.fail ("GRAPHNIGHT_REQUIRE_SECRET_REFS=1: connection_string must be env:VARNAME " ++
      "(e.g. env:GRAPHNIGHT_DATASOURCE_DEMO)")

end Secrets

end GraphNight
