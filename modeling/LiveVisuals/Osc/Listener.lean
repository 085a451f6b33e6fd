import LiveVisuals.Console

/-!
# The message listener

Messages come in over a datagram socket that can be opened and closed. The listener counts
every message that it received since the program started.

Main definitions:

- {lit}`Osc.Listener`: whether the socket is open, and the count.
- {lit}`Osc.Listener.start`, {lit}`Osc.Listener.stop`: open and close it.
-/

namespace LiveVisuals.Osc

/-- A listener. -/
structure Listener where
  listening : Bool
  received : Nat
deriving DecidableEq, Repr

namespace Listener

/-- A listener that has not been started. -/
def idle : Listener := ⟨false, 0⟩

/-- Count a message. -/
def count (l : Listener) : Listener := { l with received := l.received + 1 }

/-- Stop listening. -/
def stop (l : Listener) : Listener × List Notice :=
  if l.listening then ({ l with listening := false }, [.info "[osc] bridge stopped"])
  else (l, [])

/-- Listen at a port; a listener that runs is stopped first. -/
def start (l : Listener) (host port : String) : Listener × List Notice :=
  let again : List Notice :=
    if l.listening then [.warning "[osc] bridge already running, stopping previous instance"]
    else []
  let (l, stopped) := l.stop
  ( { l with listening := true }
  , again ++ stopped ++ [.info s!"[osc] bridge listening on udp://{host}:{port}"] )

/-- What is reported about an error of the socket. -/
def errorNotice : Notice := .failure "[osc] error:"

end Listener

end LiveVisuals.Osc
