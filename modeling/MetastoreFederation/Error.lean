import MetastoreFederation.Document.DataError

/-!
Errors of the federation, grouped by who is at fault: routing and access errors are the caller's,
backend errors belong to one metastore, registration and configuration errors come from
administration. Each cause has one text.
-/

set_option autoImplicit false
set_option relaxedAutoImplicit false

namespace MetastoreFederation

/-- Why a name leads to no metastore. -/
inductive RoutingError
  | noPrimary (database : String)
  | primaryNotConfigured
deriving DecidableEq, Repr

def RoutingError.message : RoutingError → String
  | .noPrimary database =>
    "no metastore can serve database '" ++ database ++ "': no primary metastore is configured"
  | .primaryNotConfigured => "no primary metastore is configured"

/-- Why the policy of a metastore forbids a request. -/
inductive AccessError
  | readOnly (metastore database : String)
  | notWhitelisted (metastore database : String)
  | createNotPermitted (metastore : String)
  | databaseNotMapped (metastore database : String)
  | tableNotMapped (metastore database table : String)
deriving DecidableEq, Repr

def AccessError.message : AccessError → String
  | .readOnly metastore database =>
    "metastore '" ++ metastore ++ "' is read-only, writes to database '" ++ database ++
      "' are not allowed"
  | .notWhitelisted metastore database =>
    "database '" ++ database ++ "' is not in the writable whitelist of metastore '" ++
      metastore ++ "'"
  | .createNotPermitted metastore =>
    "metastore '" ++ metastore ++ "' does not allow creating databases"
  | .databaseNotMapped metastore database =>
    "database '" ++ database ++ "' is not mapped by metastore '" ++ metastore ++ "'"
  | .tableNotMapped metastore database table =>
    "table '" ++ database ++ "." ++ table ++ "' is not mapped by metastore '" ++ metastore ++ "'"

/-- What a client reports that does not know the name of its metastore. -/
inductive ClientError
  | connection (reason : String)
  | timeout (millis : Nat)
  | remote (reason : String)
deriving DecidableEq, Repr

def ClientError.message : ClientError → String
  | .connection reason => "connection failed: " ++ reason
  | .timeout millis => s!"timed out after {millis}ms"
  | .remote reason => "remote error: " ++ reason

/-- How a metastore failed. -/
inductive BackendError
  | unavailable (metastore reason : String)
  | timeout (metastore : String) (millis : Nat)
  | remote (metastore reason : String)
deriving DecidableEq, Repr

def BackendError.message : BackendError → String
  | .unavailable metastore reason => "metastore unavailable: " ++ metastore ++ ": " ++ reason
  | .timeout metastore millis => s!"call to metastore {metastore} timed out after {millis}ms"
  | .remote metastore reason => "metastore " ++ metastore ++ " failed: " ++ reason

/-- A client's error under the name of its metastore. -/
def BackendError.ofClient (metastore : String) : ClientError → BackendError
  | .connection reason => .unavailable metastore reason
  | .timeout millis => .timeout metastore millis
  | .remote reason => .remote metastore reason

/-- Why a definition cannot be registered, replaced or removed. -/
inductive RegistrationError
  | duplicateName (name : String)
  | duplicatePrefix (databasePrefix owner : String)
  | duplicateDatabase (database owner : String)
  | primaryAlreadyRegistered (existing : String)
  | primaryUnregister (name : String)
  | roleChange (name : String)
  | notRegistered (name : String)
  | invalidDefinition (name reason : String)
  | client (name : String) (cause : ClientError)
deriving DecidableEq, Repr

def RegistrationError.message : RegistrationError → String
  | .duplicateName name => "metastore name '" ++ name ++ "' is already registered"
  | .duplicatePrefix databasePrefix owner =>
    "prefix '" ++ databasePrefix ++ "' is already registered by metastore '" ++ owner ++ "'"
  | .duplicateDatabase database owner =>
    "database '" ++ database ++ "' is already mapped by metastore '" ++ owner ++ "'"
  | .primaryAlreadyRegistered existing =>
    "primary metastore '" ++ existing ++ "' is already registered"
  | .primaryUnregister name => "primary metastore '" ++ name ++ "' cannot be unregistered"
  | .roleChange name => "metastore '" ++ name ++ "' cannot change its federation type"
  | .notRegistered name => "metastore not registered: " ++ name
  | .invalidDefinition name reason =>
    "invalid definition for metastore '" ++ name ++ "': " ++ reason
  | .client name cause =>
    "cannot create client for metastore '" ++ name ++ "': " ++ cause.message

/-- Why a configuration cannot be used or kept. -/
inductive ConfigError
  | missingFile (path : String)
  | unreadable (cause : Document.DataError)
  | invalid (problems : List String)
  | duration (value : String) (cause : Duration.ParseError)
deriving DecidableEq, Repr

def ConfigError.message : ConfigError → String
  | .missingFile path =>
    "federation file " ++ path ++ ": No such file or directory (os error 2)"
  | .unreadable cause => "cannot parse federation file: " ++ cause.message?.getD "not YAML"
  | .invalid problems => "invalid configuration: " ++ "; ".intercalate problems
  | .duration value cause => "invalid duration '" ++ value ++ "': " ++ cause.message

/-- Any error of the federation. -/
inductive Error
  | routing (cause : RoutingError)
  | access (cause : AccessError)
  | backend (cause : BackendError)
  | registration (cause : RegistrationError)
  | config (cause : ConfigError)
deriving DecidableEq, Repr

def Error.message : Error → String
  | .routing cause => cause.message
  | .access cause => cause.message
  | .backend cause => cause.message
  | .registration cause => cause.message
  | .config cause => cause.message

/-- Reads a span of time from a setting. -/
def Duration.ofSetting (value : String) : Except ConfigError Duration :=
  (Duration.parse value).mapError (ConfigError.duration value)

end MetastoreFederation
