import ModuleDiscovery.Path.Basic

/-!
# Resolving dots in a path

`Path.clean` removes `.` and lets `..` take back the name before it, by the text
alone and without asking a disk.  A `..` above the root vanishes; one at the
front of a relative path stays.  What is left of an empty path is `.`.
-/

namespace ModuleDiscovery

namespace Segment

/-- Puts one more segment on a resolved path, kept last segment first. -/
def resolve (done : List Segment) : Segment → List Segment
  | here => done
  | up =>
    match done with
    | root :: _ => done
    | name _ :: before => before
    | _ => up :: done
  | segment => segment :: done

/-- The segments of the resolved path. -/
def clean (segments : List Segment) : List Segment :=
  match (segments.foldl resolve []).reverse with
  | [] => [here]
  | resolved => resolved

end Segment

namespace Path

/-- The path with its dots resolved. -/
def clean (p : Path) : Path :=
  ofSegments (Segment.clean p.segments)

end Path

/-! ## One path seen from another -/

namespace Segment

/-- Number of leading segments two paths share. -/
def commonLength : List Segment → List Segment → Nat
  | a :: as, b :: bs => if a = b then commonLength as bs + 1 else 0
  | _, _ => 0

/-- The way from the directory `base` to `target`: up from what only `base` has,
then down.  A target that shares no root with `base` is left as it is. -/
def relative (base target : List Segment) : List Segment :=
  let shared := commonLength base target
  let down := target.drop shared
  if shared = base.length then down
  else if down.head? = some root then down
  else List.replicate (base.length - shared) up ++ down.filter (· ≠ here)

end Segment

end ModuleDiscovery
