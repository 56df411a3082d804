import QuestionQuery.Endpoint.Url
import QuestionQuery.Text.Blank

/-
  This file defines how an endpoint is configured.

  Key definitions include:
    * `Endpoint`
    * `Endpoint.ofUrl`
    * `Endpoint.ofEnvironment`
    * `Endpoint.timeoutMillis`
-/

namespace QuestionQuery

------------------------------------------------------------
-- Errors
------------------------------------------------------------

/- Why a configuration is not usable. -/
inductive ConfigError where
  | invalidUrl (given : String) (cause : UrlError)
  | notWeb (scheme : String)
  | invalidTimeout (given : String)
deriving DecidableEq

namespace Endpoint

/- The setting that holds the address. -/
def endpointKey : String :=
  "TREEQL_SPARQL_ENDPOINT"

/- The setting that holds the patience, in seconds. -/
def timeoutKey : String :=
  "TREEQL_SPARQL_TIMEOUT_SECS"

/- The setting that holds the name to give. -/
def userAgentKey : String :=
  "TREEQL_USER_AGENT"

end Endpoint

/- The message of an error, with the text as it was given. -/
def ConfigError.message : ConfigError → String
  | .invalidUrl given cause =>
    "invalid endpoint url `" ++ given ++ "`: " ++ cause.message
  | .notWeb scheme =>
    "endpoint url must be http(s), got scheme `" ++ scheme ++ "`"
  | .invalidTimeout given =>
    Endpoint.timeoutKey ++
      " must be a whole number of seconds, got `" ++ given ++ "`"

------------------------------------------------------------
-- Configurations
------------------------------------------------------------

/-
  Where an endpoint is, how many seconds to wait for it, and
  under which name to ask it.
-/
structure Endpoint where
  url : WebUrl
  timeoutSeconds : Nat
  userAgent : String
deriving DecidableEq

namespace Endpoint

/- The configuration if nothing else is said. -/
def default : Endpoint where
  url :=
    { isSecure := false
      user := ""
      password := ""
      host := .domain "dbpedia.org"
      port := none
      path := ["sparql"]
      query := none
      fragment := none }
  timeoutSeconds := 30
  userAgent := "treeql/0.3.0"

instance : Inhabited Endpoint :=
  ⟨default⟩

/- The web address in a setting, with blanks around it. -/
def urlOf
    (given : String) : Except ConfigError WebUrl :=
  match Url.ofText (Text.trim given) with
  | .ok (.web url) => .ok url
  | .ok (.other scheme) => .error (.notWeb scheme)
  | .error cause => .error (.invalidUrl given cause)

/- The value of decimal digits, at least one. -/
def naturalOf? : List Char → Option Nat
  | [] => none
  | cs => Ipv4.digits? 10 cs

/-
  The seconds in a setting, with blanks around them: digits
  behind at most one plus, and less than `2 ^ 64`.
-/
def timeoutOf
    (given : String) : Except ConfigError Nat :=
  let digits :=
    match (Text.trim given).toList with
    | '+' :: rest => rest
    | cs => cs
  match naturalOf? digits with
  | some n =>
    if n < Nat.pow 2 64 then .ok n else .error (.invalidTimeout given)
  | none => .error (.invalidTimeout given)

/- The configuration of an endpoint at an address. -/
def ofUrl
    (given : String) : Except ConfigError Endpoint := do
  let url ← urlOf given
  return { default with url }

/-
  The configuration of some settings, looked up by key.  The
  first one that is not usable is reported.
-/
def ofEnvironment
    (setting : String → Option String) :
    Except ConfigError Endpoint := do
  let url ←
    match setting endpointKey with
    | some given => urlOf given
    | none => pure default.url
  let timeoutSeconds ←
    match setting timeoutKey with
    | some given => timeoutOf given
    | none => pure default.timeoutSeconds
  let userAgent := (setting userAgentKey).getD default.userAgent
  return { url, timeoutSeconds, userAgent }

/- A configuration with other patience. -/
def withTimeout
    (config : Endpoint)
    (seconds : Nat) : Endpoint :=
  { config with timeoutSeconds := seconds }

/- The milliseconds to wait. -/
def timeoutMillis
    (config : Endpoint) : Nat :=
  config.timeoutSeconds * 1000

end Endpoint

end QuestionQuery
