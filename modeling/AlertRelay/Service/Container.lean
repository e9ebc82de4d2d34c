import AlertRelay.Environment
import AlertRelay.Sender

/-!
# Containers

A container holds a configuration with its client options filled in and the client that its
alerts are sent through. It closes the client only if it created it.

## Main definitions

* `Container`: what is put together once, when the service starts.
* `Container.assembly`, `Container.assemble`: puts a container together.
* `Container.close`: closes the client that the container owns.
-/

namespace AlertRelay

open Http

/-- A configuration and the client that its alerts are sent through. -/
structure Container where
  config : Config
  valid : Bool
  client : Nat
  ownsClient : Bool
  deriving DecidableEq, Repr

/-- The name under which the assembly of containers is logged. -/
def containerLogger : String := "webhook_alert.container"

namespace Container

/-- The configuration that is given, or the one of the environment. -/
def chooseConfig (config : Option Config) (env : Environment) : Except ConfigFault Config :=
  match config with
  | some config => .ok config
  | none => Config.ofEnvironment env

/-- Warns about a configuration without a URL. -/
def warnUnlessValid (valid : Bool) (w : World) : World :=
  if valid then w
  else
    w.log containerLogger .warning
      "Custom alert provider is not configured (CUSTOM_ALERT_URL is empty)."

/-- What the assembly of a container leaves: the container or what was in its way, the
configuration that was given or read for it, and the world. -/
structure Assembly where
  outcome : Except ConfigFault Container
  original : Option Config
  world : World

/-- Puts a container together; without a client one is created. A strict container must have a
URL to send to. The container works on a copy of the configuration, which it keeps. -/
def assembly (config : Option Config) (client : Option Nat) (strict : Bool) (env : Environment)
    (w : World) : Assembly :=
  match chooseConfig config env with
  | .error fault => ⟨.error fault, none, w⟩
  | .ok original =>
    let config := original.withDefaults
    let valid := config.hasUrl
    if strict && !valid then
      ⟨.error .urlRequired, some original, w⟩
    else
      let w := warnUnlessValid valid w
      match client with
      | some id => ⟨.ok { config, valid, client := id, ownsClient := false }, some original, w⟩
      | none =>
        let (w, id) := w.openClient (config.client.getD {}).client
        ⟨.ok { config, valid, client := id, ownsClient := true }, some original, w⟩

/-- The container that is put together, and the world after it. -/
def assemble (config : Option Config) (client : Option Nat) (strict : Bool) (env : Environment)
    (w : World) : Except ConfigFault Container × World :=
  let left := assembly config client strict env w
  (left.outcome, left.world)

/-- Closes the client if the container created it. -/
def close (c : Container) (w : World) : World := if c.ownsClient then w.closeClient c.client else w

/-- Sends an alert through the client of the container. -/
def send (c : Container) (target : Target) (w : World) : Except Failure Unit × World :=
  let (outcome, _, w) := AlertRelay.send c.config (some c.client) target w
  (outcome, w)

end Container

end AlertRelay
