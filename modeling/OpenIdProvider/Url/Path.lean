/-
  Reading paths: segments are escaped and appended one after the other, `.` adds nothing and `..`
  takes the last segment away. Drive letters at the front of `file` paths are kept.
-/
import OpenIdProvider.Url.Basic

namespace OpenIdProvider.Url

/-- A letter and a colon. -/
def isDriveLetter : List Char → Bool
  | [c, d] => Ascii.isLetter c && d = ':'
  | _ => false

/-- A letter and a colon or a bar. -/
def isLooseDriveLetter : List Char → Bool
  | [c, d] => Ascii.isLetter c && (d = ':' || d = '|')
  | _ => false

/-- A drive letter at the front of a text, followed by its end or by a mark that ends a segment. -/
def startsWithDriveLetter : List Char → Bool
  | [c, d] => Ascii.isLetter c && (d = ':' || d = '|')
  | c :: d :: e :: _ =>
    Ascii.isLetter c && (d = ':' || d = '|') && (e = '/' || e = '\\' || e = '?' || e = '#')
  | _ => false

def endsWithSlash (cs : List Char) : Bool := cs.getLast? = some '/'

def isSingleDot (segment : List Char) : Bool :=
  let s := String.ofList (segment.map Ascii.toLower)
  s == "." || s == "%2e"

def isDoubleDot (segment : List Char) : Bool :=
  let s := String.ofList (segment.map Ascii.toLower)
  s == ".." || s == "%2e%2e" || s == ".%2e" || s == "%2e."

/-- Whether the slash at the end of a path may go: not the root slash, and not the slash after a
drive letter. -/
def lastSlashCanGo (path : List Char) : Bool :=
  match Split.splitLast '/' path.dropLast with
  | some (front, _) => !startsWithDriveLetter (path.drop (front.length + 1))
  | none => false

/-- A path without what follows its last slash; a drive letter of a `file` path stays. -/
def popSegment (kind : SchemeKind) (path : List Char) : List Char :=
  match Split.splitLast '/' path with
  | some (front, last) =>
    if kind = .file ∧ isDriveLetter last then path else front ++ ['/']
  | none => path

/-- A path without its last segment. -/
def shorten (kind : SchemeKind) (path : List Char) : List Char :=
  if kind = .file ∧ isDriveLetter path then path else popSegment kind path

/-- What `..` makes of a path. -/
def goUp (kind : SchemeKind) (path : List Char) (slash : Bool) : List Char :=
  let path := if endsWithSlash path && lastSlashCanGo path then path.dropLast else path
  let path := shorten kind path
  if slash && !endsWithSlash path then path ++ ['/'] else path

/-- A path under construction, and whether its host is still wanted: a drive letter at the front
of a `file` path takes the place of the host. -/
structure PathState where
  path : List Char
  keepsHost : Bool

/-- Adds a segment that has been read, with the slash after it if there is one. The first segment
may turn a bar after a drive letter into a colon. -/
def addSegment (kind : SchemeKind) (first : Bool) (st : PathState) (segment : List Char)
    (slash : Bool) : PathState :=
  let mark := if slash then ['/'] else []
  if isDoubleDot segment then { st with path := goUp kind st.path slash }
  else if isSingleDot segment then
    { st with path := if endsWithSlash st.path then st.path else st.path ++ ['/'] }
  else if kind = .file ∧ first ∧ st.path = ['/'] ∧ isLooseDriveLetter segment then
    ⟨st.path ++ segment.take 1 ++ ':' :: mark, false⟩
  else { st with path := st.path ++ segment ++ mark }

/-- Reads segments up to the query or the fragment. The segment that is being read is kept in
reverse. -/
def readSegments (kind : SchemeKind) : Bool → PathState → List Char → List Char →
    PathState × List Char
  | first, st, segment, [] => (addSegment kind first st segment.reverse false, [])
  | first, st, segment, c :: rest =>
    if c = '/' ∨ (c = '\\' ∧ kind.isSpecial) then
      readSegments kind false (addSegment kind first st segment.reverse true) [] rest
    else if c = '?' ∨ c = '#' then (addSegment kind first st segment.reverse false, c :: rest)
    else readSegments kind first st ((escape pathSet c).reverse ++ segment) rest

/-- Reads a path that continues `start`; a `file` path gets exactly one slash at its front. -/
def readPath (kind : SchemeKind) (start input : List Char) : PathState × List Char :=
  let (st, rest) := readSegments kind true ⟨start, true⟩ [] input
  if kind = .file then
    ({ st with path := '/' :: st.path.dropWhile (· = '/') }, rest)
  else (st, rest)

end OpenIdProvider.Url
