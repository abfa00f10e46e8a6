import Redfish.Duration
import Redfish.Journal.Settings

/-!
# The journal of requests

Every request is entered once it is finished, with its outcome and the time it took, and counted.

The line `connection closed`, which a connection writes at the debug level when it ends badly, is no entry
of the journal: the connection runs on its own, may end after its request was entered, and the words are
those of the HTTP library. The lines of listings and updates are for other readers and left out as well.
-/

namespace Redfish

inductive Note
  | headers (shown : String)
  | answered (status : Nat) (elapsed : Duration)
  | failed (elapsed : Duration) (reason : String)
  deriving DecidableEq, Repr

structure Line where
  level : Level
  method : String
  target : String
  note : Note
  deriving DecidableEq, Repr

namespace Line

def render (time : Duration → String) (l : Line) : String :=
  l.level.name ++ " " ++ l.method ++ " " ++ l.target ++
    match l.note with
    | .headers shown => " headers=[" ++ shown ++ "]"
    | .answered status elapsed => " -> " ++ toString status ++ " in " ++ time elapsed
    | .failed elapsed reason => " failed in " ++ time elapsed ++ ": " ++ reason

def text (l : Line) : String := l.render Duration.text

end Line

structure Counters where
  total : UInt64
  successful : UInt64
  failed : UInt64
  deriving DecidableEq, Repr

namespace Counters

def zero : Counters := ⟨0, 0, 0⟩

def countSuccess (c : Counters) : Counters :=
  { c with total := c.total + 1, successful := c.successful + 1 }

def countFailure (c : Counters) : Counters :=
  { c with total := c.total + 1, failed := c.failed + 1 }

end Counters

structure Span where
  method : String
  target : String
  deriving DecidableEq, Repr

structure Journal where
  settings : JournalSettings
  counters : Counters
  lines : List Line
  deriving DecidableEq, Repr

namespace Journal

def new (settings : JournalSettings) : Journal := ⟨settings, .zero, []⟩

/-- Enters a line, unless its level is off. -/
def write (level : Level) (span : Span) (note : Note) (j : Journal) : Journal :=
  if level = .off then j
  else { j with lines := j.lines ++ [⟨level, span.method, span.target, note⟩] }

def noteHeaders (span : Span) (h : Http.Headers) (j : Journal) : Journal :=
  if j.settings.logHeaders then
    j.write j.settings.successLevel span (.headers (j.settings.showHeaders h))
  else j

def finishSuccess (span : Span) (status : Nat) (elapsed : Duration) (j : Journal) : Journal :=
  { j with counters := j.counters.countSuccess }.write j.settings.successLevel span
    (.answered status elapsed)

def finishError (span : Span) (reason : String) (elapsed : Duration) (j : Journal) : Journal :=
  { j with counters := j.counters.countFailure }.write j.settings.errorLevel span
    (.failed elapsed reason)

end Journal

end Redfish
