import Automation.Number.Binary64

/-!
Settings of the engine and their defaults.
-/

namespace Automation

/-- Settings of the engine. -/
structure Settings where
  logLevel : String
  logFormat : String
  sanitizeLogs : Bool
  httpTimeoutSeconds : Binary64
  httpConnectTimeoutSeconds : Binary64
  httpMaxConnections : Int
  httpMaxKeepalive : Int
  defaultDelayMs : Int
  defaultRetryAttempts : Int
  agentEndpointUrl : Option String
  agentApiKey : Option String
  chatApiKey : String
  chatModel : String
  databasePath : String
  deriving DecidableEq, Repr

namespace Settings

/-- The settings where nothing is configured. -/
def default : Settings :=
  { logLevel := "INFO"
    logFormat := "text"
    sanitizeLogs := true
    httpTimeoutSeconds := Binary64.ofNat 30
    httpConnectTimeoutSeconds := Binary64.ofNat 10
    httpMaxConnections := 20
    httpMaxKeepalive := 10
    defaultDelayMs := 1000
    defaultRetryAttempts := 3
    agentEndpointUrl := none
    agentApiKey := none
    chatApiKey := ""
    chatModel := "gpt-4o-mini"
    databasePath := "blueprint-runs.db" }

end Settings
end Automation
