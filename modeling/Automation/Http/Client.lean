import Automation.Settings.Basic

/-!
HTTP clients that executors open when they first need one.
-/

namespace Automation.Http

/-- The limits of a client. -/
structure ClientLimits where
  maxConnections : Int
  maxKeepalive : Int
  keepaliveSeconds : Binary64
  timeoutSeconds : Binary64
  connectSeconds : Binary64
  deriving DecidableEq, Repr

/-- The limits that settings ask for. -/
def ClientLimits.ofSettings (settings : Settings) : ClientLimits :=
  { maxConnections := settings.httpMaxConnections
    maxKeepalive := settings.httpMaxKeepalive
    keepaliveSeconds := Binary64.ofNat 30
    timeoutSeconds := settings.httpTimeoutSeconds
    connectSeconds := settings.httpConnectTimeoutSeconds }

/-- The place of a client that an executor opens itself: empty until it is needed, and again after
the executor closes it. -/
abbrev ClientSlot := Option ClientLimits

namespace ClientSlot

/-- The client in a place, opened if there is none. -/
def acquire (settings : Settings) (slot : ClientSlot) : ClientLimits × ClientSlot :=
  let limits := slot.getD (ClientLimits.ofSettings settings)
  (limits, some limits)

/-- Close the client in a place. -/
def close (_ : ClientSlot) : ClientSlot := none

end ClientSlot
end Automation.Http
