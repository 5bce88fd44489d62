import Automation.Schema.Field
import Automation.Settings.Basic
import Automation.Text.Case

/-!
Settings as data from outside.

A setting is given directly, else in the environment under its name with `BLUEPRINT_` in front;
else it has its default. Names may be in letters of either case. What is not a setting is ignored.
-/

namespace Automation.Settings

/-- What comes before the name of a setting in the environment, in lower case. -/
def environmentMark : String := "blueprint_"

/-- The value under a name in lower case; the last one, if several differ in case only. -/
def foldedValue? (name : String) (values : Fields) : Option Value :=
  (values.reverse.find? fun entry => String.ofList (Text.lower entry.1.toList) == name).map
    Prod.snd

/-- Settings given directly over settings in the environment. -/
def overlay (given environment : Fields) (name : String) : Fields :=
  let found := (Entries.get? name given) <|> foldedValue? name given
    <|> foldedValue? (environmentMark ++ name) environment
  (found.map fun value => (name, value)).toList

/-- The names of levels. -/
def levelNames : List String := ["DEBUG", "INFO", "WARNING", "ERROR", "CRITICAL"]

/-- The level of a log, in capitals. -/
def readLevel (value : Value) : FieldResult String := do
  let level := String.ofList (Text.upper (← Field.readText value).toList)
  if levelNames.contains level then .ok level else .error .invalidValue

/-- The names of formats. -/
def formatNames : List String := ["text", "json"]

/-- The format of a log, in small letters. -/
def readFormat (value : Value) : FieldResult String := do
  let format := String.ofList (Text.lower (← Field.readText value).toList)
  if formatNames.contains format then .ok format else .error .invalidValue

/-- The parts of a path that matter: not the empty ones and not the single points. -/
def pathParts (text : List Char) : List (List Char) :=
  (Text.splitAt '/' text).filter fun part => part ≠ [] ∧ part ≠ ['.']

/-- The slashes that a path starts with: two stay, any other number of them becomes one. -/
def pathRoot : List Char → List Char
  | '/' :: '/' :: '/' :: _ => ['/']
  | '/' :: '/' :: _ => ['/', '/']
  | '/' :: _ => ['/']
  | _ => []

/-- A path in its plain form. -/
def plainPath (text : List Char) : List Char :=
  let plain := pathRoot text ++ ['/'].intercalate (pathParts text)
  if plain = [] then ['.'] else plain

/-- A path. -/
def readPath : Value → FieldResult String
  | .text characters => .ok (String.ofList (plainPath characters.toList))
  | _ => .error .notAPath

/-- Settings from what is given directly and from the environment, or everything that is wrong with
them. -/
def read (given environment : Fields) : Except FieldFaults Settings :=
  let setting {α : Type} (reader : Value → FieldResult α) (name : String) (default : α) :=
    Field.optional reader name default (overlay given environment name)
  let logLevel := setting readLevel "log_level" default.logLevel
  let logFormat := setting readFormat "log_format" default.logFormat
  let sanitizeLogs := setting Field.readBoolean "sanitize_logs" default.sanitizeLogs
  let timeout := setting Field.readDouble "http_timeout_seconds" default.httpTimeoutSeconds
  let connectTimeout :=
    setting Field.readDouble "http_connect_timeout_seconds" default.httpConnectTimeoutSeconds
  let maxConnections :=
    setting Field.readInteger "http_max_connections" default.httpMaxConnections
  let maxKeepalive := setting Field.readInteger "http_max_keepalive" default.httpMaxKeepalive
  let delay := setting Field.readInteger "default_delay_ms" default.defaultDelayMs
  let attempts := setting Field.readInteger "default_retry_attempts" default.defaultRetryAttempts
  let endpoint := setting Field.readOptionalText "agent_endpoint_url" default.agentEndpointUrl
  let agentKey := setting Field.readOptionalText "agent_api_key" default.agentApiKey
  let chatKey := setting Field.readText "openai_api_key" default.chatApiKey
  let chatModel := setting Field.readText "openai_model" default.chatModel
  let database := setting readPath "database_path" default.databasePath
  match logLevel, logFormat, sanitizeLogs, timeout, connectTimeout, maxConnections,
    maxKeepalive, delay, attempts, endpoint, agentKey, chatKey, chatModel, database with
  | .ok logLevel, .ok logFormat, .ok sanitizeLogs, .ok timeout, .ok connectTimeout,
    .ok maxConnections, .ok maxKeepalive, .ok delay, .ok attempts, .ok endpoint, .ok agentKey,
    .ok chatKey, .ok chatModel, .ok database =>
      .ok
        { logLevel := logLevel
          logFormat := logFormat
          sanitizeLogs := sanitizeLogs
          httpTimeoutSeconds := timeout
          httpConnectTimeoutSeconds := connectTimeout
          httpMaxConnections := maxConnections
          httpMaxKeepalive := maxKeepalive
          defaultDelayMs := delay
          defaultRetryAttempts := attempts
          agentEndpointUrl := endpoint
          agentApiKey := agentKey
          chatApiKey := chatKey
          chatModel := chatModel
          databasePath := database }
  | _, _, _, _, _, _, _, _, _, _, _, _, _, _ =>
      .error
        (logLevel.faults "log_level" ++ logFormat.faults "log_format"
          ++ sanitizeLogs.faults "sanitize_logs" ++ timeout.faults "http_timeout_seconds"
          ++ connectTimeout.faults "http_connect_timeout_seconds"
          ++ maxConnections.faults "http_max_connections"
          ++ maxKeepalive.faults "http_max_keepalive" ++ delay.faults "default_delay_ms"
          ++ attempts.faults "default_retry_attempts" ++ endpoint.faults "agent_endpoint_url"
          ++ agentKey.faults "agent_api_key" ++ chatKey.faults "openai_api_key"
          ++ chatModel.faults "openai_model" ++ database.faults "database_path")

/-- Settings as the fields of an object. -/
def toFields (settings : Settings) : Fields :=
  let optionalText (text : Option String) : Value := (text.map Value.text).getD .null
  [("log_level", .text settings.logLevel), ("log_format", .text settings.logFormat),
    ("sanitize_logs", .bool settings.sanitizeLogs),
    ("http_timeout_seconds", .float settings.httpTimeoutSeconds),
    ("http_connect_timeout_seconds", .float settings.httpConnectTimeoutSeconds),
    ("http_max_connections", .int settings.httpMaxConnections),
    ("http_max_keepalive", .int settings.httpMaxKeepalive),
    ("default_delay_ms", .int settings.defaultDelayMs),
    ("default_retry_attempts", .int settings.defaultRetryAttempts),
    ("agent_endpoint_url", optionalText settings.agentEndpointUrl),
    ("agent_api_key", optionalText settings.agentApiKey),
    ("openai_api_key", .text settings.chatApiKey), ("openai_model", .text settings.chatModel),
    ("database_path", .text settings.databasePath)]

/-- Whether there is an endpoint for agent calls. -/
def hasAgentEndpoint (settings : Settings) : Bool := settings.agentEndpointUrl.any (· != "")

end Automation.Settings
