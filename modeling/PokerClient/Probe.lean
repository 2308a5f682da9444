import PokerClient.Endpoint
import PokerClient.Http.Exchange
import PokerClient.Numeric.Layout
import PokerClient.Outcome
import PokerClient.Store

/-!
# The connectivity probe

Whether the backend can be reached and how fast it answers. The probe needs no
credential and takes no offence at a backend that is away.
-/

namespace PokerClient

open Http Numeric

namespace Probe

/-- Readings of a steady clock in seconds, before a request and after it. -/
structure Stopwatch where
  start : Binary64 := Binary64.zero
  finish : Binary64 := Binary64.zero

/-- The milliseconds between the readings. -/
def Stopwatch.elapsed (w : Stopwatch) : Binary64 := (w.finish.sub w.start).mul (Binary64.ofNat 1000)

/-- Sends the probe. -/
def ask (settings : Settings) (url : String) : Action Response := do
  let connection ← Action.ofFailure (Connection.build settings none url)
  Http.send connection "GET" Endpoint.health none

def check (settings : Settings) (watch : Stopwatch) (url : String) : Action ConnectionStatus := do
  match ← (ask settings url).attempt with
  | .error f =>
    Action.log .debug .probe s!"Backend {url} unreachable: {f.message}"
    return { connected := false, backendUrl := url }
  | .ok response =>
    Action.log .debug .probe
      s!"Health check {url}: HTTP {response.status} in {watch.elapsed.fixed 1}ms"
    return {
      connected := response.isSuccess
      backendUrl := url
      latency := some (watch.elapsed.roundTo 2) }

end Probe
end PokerClient
