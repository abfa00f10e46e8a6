import Redfish.Url.Percent

/-!
# Paths

The path of a URL is kept as its segments, of which one that stands for the same place is dropped and
one that stands for the place above takes the one before it along.
-/

namespace Redfish.Url.Path

/-- A dot, which may be percent-encoded. -/
def dropDot? : List Char → Option (List Char)
  | '.' :: cs => some cs
  | '%' :: '2' :: 'e' :: cs => some cs
  | '%' :: '2' :: 'E' :: cs => some cs
  | _ => none

def isSingleDot (segment : List Char) : Bool := dropDot? segment = some []

def isDoubleDot (segment : List Char) : Bool := (dropDot? segment).bind dropDot? = some []

/-- A segment that names a drive stays where it is. -/
def isDrive : List Char → Bool
  | [c, ':'] => c.isAlpha
  | [c, '|'] => c.isAlpha
  | _ => false

/-- Leaves the place that the last of the segments leads to. The segments are in reverse. -/
def leave : List (List Char) → List (List Char)
  | [] => []
  | s :: before => if isDrive s then s :: before else before

/-- The segments that the segments of a text lead to, in reverse. Every segment but the last of the
text is followed by a slash; the place that the last one leads to ends in a slash if it is a dot. -/
def walk : (reached : List (List Char)) → List (List Char) → List (List Char)
  | reached, [] => reached
  | reached, [last] =>
    if isDoubleDot last then [] :: leave reached
    else if isSingleDot last then [] :: reached
    else last :: reached
  | reached, s :: next :: more =>
    if isDoubleDot s then walk (leave reached) (next :: more)
    else if isSingleDot s then walk reached (next :: more)
    else walk (s :: reached) (next :: more)

/-- Whether the segments lead to a drive before any other place. -/
def reachesDrive : (reached : List (List Char)) → List (List Char) → Bool
  | _, [] => false
  | reached, s :: more =>
    if isDoubleDot s then reachesDrive (leave reached) more
    else if isSingleDot s then reachesDrive reached more
    else (reached.isEmpty && isDrive s) || reachesDrive (s :: reached) more

def normal (cs : List Char) : List Char :=
  let segments := (cs.splitOn '/').map (percentEncode encodedInPath)
  (walk [] segments).reverse.flatMap ('/' :: ·)

end Redfish.Url.Path
