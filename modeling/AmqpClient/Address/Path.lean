/-!
# Paths of addresses

A path is resolved while it is read: a single-dot segment vanishes and a
double-dot segment removes the segment before it, but never the root and never a
segment that looks like a drive letter. Either may be written with `%2e`.
-/

set_option autoImplicit false

namespace AmqpClient.Address

def isSingleDot (segment : List Char) : Bool :=
  let lowered := String.ofList (segment.map Char.toLower)
  lowered == "." || lowered == "%2e"

def isDoubleDot (segment : List Char) : Bool :=
  let lowered := String.ofList (segment.map Char.toLower)
  lowered == ".." || lowered == "%2e." || lowered == ".%2e" || lowered == "%2e%2e"

/-- A letter and `:` or `|`, alone or before a separator. -/
def startsWithDrive (chars : List Char) : Bool :=
  match chars with
  | letter :: mark :: rest =>
    letter.isAlpha && (mark = ':' || mark = '|') &&
      match rest with
      | [] => true
      | next :: _ => next = '/' || next = '\\' || next = '?' || next = '#'
  | _ => false

/-- What precedes the last slash, and what follows it; `none` without a slash. -/
def splitLastSlash? (path : List Char) : Option (List Char × List Char) :=
  let reversed := path.reverse
  let last := reversed.takeWhile (· ≠ '/')
  match reversed.drop last.length with
  | _ :: before => some (before.reverse, last.reverse)
  | [] => none

/-- Whether the slash at the end of a path may go: another slash precedes it, and
the segment between the two is no drive letter. -/
def closesSegment (path : List Char) : Bool :=
  match splitLastSlash? path.dropLast with
  | some (_, segment) => !startsWithDrive (segment ++ ['/'])
  | none => false

def dropSegment (path : List Char) : List Char :=
  match splitLastSlash? path with
  | some (before, _) => before ++ ['/']
  | none => path

def appendSegment (path segment : List Char) (slash : Bool) : List Char :=
  if isDoubleDot segment then
    let open_ := if path.getLast? = some '/' && closesSegment path then path.dropLast else path
    let parent := dropSegment open_
    if slash && parent.getLast? ≠ some '/' then parent ++ ['/'] else parent
  else if isSingleDot segment then
    if path.getLast? = some '/' then path else path ++ ['/']
  else path ++ segment ++ (if slash then ['/'] else [])

def appendSegments (path segment : List Char) : List Char → List Char
  | [] => appendSegment path segment.reverse false
  | '/' :: rest => appendSegments (appendSegment path segment.reverse true) [] rest
  | char :: rest => appendSegments path (char :: segment) rest

def resolvePath (start written : List Char) : List Char :=
  appendSegments start [] written

end AmqpClient.Address
