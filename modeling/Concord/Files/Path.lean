/-!
# Paths

A path is a text of segments between slashes. A dot stands for the directory itself and two dots for
the one around it; an empty segment stands for the root at the beginning, for nothing elsewhere, but
one at the end asks for a directory.
-/

namespace Concord.Files

/-- The segments of a path. -/
def segments (path : String) : List String :=
  (path.toList.splitOn '/').map String.ofList

/-- Whether a segment adds nothing to a path that it does not begin. -/
def isIdle (segment : String) : Bool := segment.isEmpty || segment = "."

/-- The segments, the last one first, without those at the end that add nothing. The first segment
of the path stays. -/
def dropIdle : List String → List String
  | [] => []
  | [first] => [first]
  | segment :: rest => if isIdle segment then dropIdle rest else segment :: rest

/-- The path of the directory that holds what a path names: all but the last segment that adds
something. Without such a segment it is the working directory. -/
def parent (path : String) : String :=
  let kept := dropIdle ((dropIdle (segments path).reverse).drop 1)
  if kept = [""] then "/"
  else if kept.isEmpty then "."
  else "/".intercalate kept.reverse

/-- The path of a name in a directory. -/
def join (directory name : String) : String :=
  if directory.endsWith "/" then directory ++ name else directory ++ "/" ++ name

end Concord.Files
