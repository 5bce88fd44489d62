import Automation.Failure
import Automation.Text.Case

/-!
Headers without the values that must not be logged.
-/

namespace Automation.Logging

/-- The headers whose values are credentials, in lower case. -/
def sensitiveHeaders : List String :=
  ["authorization", "proxy-authorization", "x-api-key", "api-key", "cookie", "set-cookie"]

/-- Whether the value of a header is a credential. -/
def isSensitive (name : String) : Bool :=
  sensitiveHeaders.contains (String.ofList (Text.lower name.toList))

/-- Headers with every credential hidden. -/
def redact (headers : Fields) : Fields :=
  headers.map fun entry => (entry.1, if isSensitive entry.1 then .text "[REDACTED]" else entry.2)

/-- A value as headers with every credential hidden. A value that counts as false has no headers,
and any other value but an object is a failure. -/
def redactValue (headers : Value) : Except Failure Fields :=
  match headers with
  | .object fields => .ok (redact fields)
  | other =>
      if other.truthy then
        .error (.raised "AttributeError" s!"'{other.kind}' object has no attribute 'items'")
      else .ok []

end Automation.Logging
