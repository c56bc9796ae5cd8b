/-
  Reading URLs, absolute ones and references relative to a base. Spaces and control characters
  around the text are dropped, and so are tabs and line breaks within it.
-/
import OpenIdProvider.Url.Idna
import OpenIdProvider.Url.Path

namespace OpenIdProvider.Url

/-! ## Hosts -/

/-- Characters that the name of a host of other schemes may not hold. -/
def isForbiddenInHost (c : Char) : Bool := "\x00\t\n\r #/:<>?@[\\]^|".toList.contains c

/-- An IPv6 address between brackets. -/
def bracketed (cs : List Char) : Except Error Host :=
  match Split.dropSuffix? [']'] cs with
  | none => .error .invalidIpv6
  | some inner =>
    match Net.Ipv6.ofText? inner with
    | some a => .ok (.ipv6 a)
    | none => .error .invalidIpv6

/-- The host of a special scheme: an address or a domain. -/
def domainHost (cs : List Char) : Except Error Host :=
  match cs with
  | '[' :: rest => bracketed rest
  | _ =>
    match Idna.toAscii? (Utf8.decodeCharsLossy (Percent.decode (Utf8.encodeChars cs))) with
    | none => .error .invalidDomain
    | some [] => .error .emptyHost
    | some domain =>
      if Net.Ipv4.endsInNumber domain then
        match Net.Ipv4.ofLenient? domain with
        | some a => .ok (.ipv4 a)
        | none => .error .invalidIpv4
      else .ok (.name domain)

/-- The host of a scheme that is not special; an empty one is none. -/
def opaqueHost (cs : List Char) : Except Error (Option Host) :=
  match cs with
  | '[' :: rest => (bracketed rest).map some
  | [] => .ok none
  | _ =>
    if cs.any isForbiddenInHost then .error .invalidHostCharacter
    else .ok (some (.name (escapeAll "" cs)))

/-- The text of a host and what follows it. A colon within brackets does not end it. -/
def takeHost (kind : SchemeKind) : Bool → List Char → List Char × List Char
  | _, [] => ([], [])
  | inside, c :: rest =>
    if (c = ':' ∧ !inside) ∨ (c = '\\' ∧ kind.isSpecial) ∨ c = '/' ∨ c = '?' ∨ c = '#' then
      ([], c :: rest)
    else
      let inside := if c = '[' then true else if c = ']' then false else inside
      let (host, after) := takeHost kind inside rest
      (c :: host, after)

/-- The digits of a port after its colon. -/
def readPort : Option Nat → List Char → Except Error (Option Nat × List Char)
  | port, [] => .ok (port, [])
  | port, c :: rest =>
    match Ascii.digit? c with
    | some d =>
      let n := port.getD 0 * 10 + d
      if 65535 < n then .error .invalidPort else readPort (some n) rest
    | none =>
      if c = '/' ∨ c = '\\' ∨ c = '?' ∨ c = '#' then .ok (port, c :: rest)
      else .error .invalidPort

/-! ## Authorities -/

/-- Whether a character ends an authority. -/
def endsAuthority (kind : SchemeKind) (c : Char) : Bool :=
  c = '/' || c = '?' || c = '#' || (c = '\\' && kind.isSpecial)

/-- The user information before the last `@` of an authority, and what follows it. -/
def splitUserinfo (kind : SchemeKind) (input : List Char) : Option (List Char × List Char) :=
  let authority := input.takeWhile fun c => !endsAuthority kind c
  (Split.splitLast '@' authority).map fun (userinfo, after) =>
    (userinfo, after ++ input.dropWhile fun c => !endsAuthority kind c)

/-- The user name and the password of some user information. -/
def readUserinfo (userinfo : List Char) : List Char × List Char :=
  match Split.splitOnce ':' userinfo with
  | some (username, password) => (escapeAll userinfoSet username, escapeAll userinfoSet password)
  | none => (escapeAll userinfoSet userinfo, [])

/-- The user name, the password and the rest of an authority. -/
def takeUserinfo (kind : SchemeKind) (input : List Char) :
    Except Error ((List Char × List Char) × List Char) :=
  match splitUserinfo kind input with
  | none => .ok (([], []), input)
  | some (userinfo, rest) =>
    match userinfo, rest with
    | [], c :: _ => if endsAuthority kind c then .error .emptyHost else .ok (([], []), rest)
    | _, _ => .ok (readUserinfo userinfo, rest)

/-- The host of an authority of a scheme that is not `file`. -/
def readHost (kind : SchemeKind) (cs : List Char) : Except Error (Option Host) :=
  if kind.isSpecial then
    if cs = [] then .error .emptyHost else (domainHost cs).map some
  else opaqueHost cs

/-- Reads an authority from after its two slashes up to the path. -/
def readAuthority (kind : SchemeKind) (scheme input : List Char) :
    Except Error (Authority × List Char) := do
  let ((username, password), input) ← takeUserinfo kind input
  let (hostText, input) := takeHost kind false input
  let host ← readHost kind hostText
  let (port, input) ←
    match input with
    | ':' :: rest =>
      if host = none then .error .emptyHost else readPort none rest
    | _ => .ok (none, input)
  if host = none ∧ (username ≠ [] ∨ password ≠ []) then .error .emptyHost
  else
    let port := if port = defaultPort? scheme then none else port
    .ok (⟨username, password, host, port⟩, input)

/-! ## The parts after the path -/

/-- Adds the query and the fragment that follow a path. -/
def withTail (kind : SchemeKind) (u : Url) (tail : List Char) : Url :=
  let (beforeFragment, fragment) :=
    match Split.splitOnce '#' tail with
    | some (a, b) => (a, some (escapeAll fragmentSet b))
    | none => (tail, none)
  let query :=
    match beforeFragment with
    | '?' :: q => some (escapeAll (querySet kind) q)
    | _ => none
  { u with query, fragment }

/-- A URL whose path and tail follow its authority. -/
def afterAuthority (kind : SchemeKind) (scheme : List Char) (authority : Authority)
    (input : List Char) : Url :=
  let read (start input : List Char) : Url :=
    let (st, tail) := readPath kind start input
    withTail kind ⟨scheme, some authority, st.path, none, none⟩ tail
  if kind.isSpecial then
    match input with
    | c :: rest => if c = '/' ∨ c = '\\' then read ['/'] rest else read ['/'] input
    | [] => read ['/'] []
  else
    match input with
    | [] => withTail kind ⟨scheme, some authority, [], none, none⟩ []
    | c :: _ =>
      if c = '?' ∨ c = '#' then withTail kind ⟨scheme, some authority, [], none, none⟩ input
      else if c = '/' then read [] input
      else read ['/'] input

/-- A URL from after the two slashes of its authority. -/
def afterSlashes (kind : SchemeKind) (scheme input : List Char) : Except Error Url := do
  let (authority, input) ← readAuthority kind scheme input
  .ok (afterAuthority kind scheme authority input)

/-! ## Files -/

def emptyAuthority (host : Option Host) : Authority := ⟨[], [], host, none⟩

/-- The URL of a file whose path continues `start`; a drive letter may replace the host. -/
def fileUrl (host : Option Host) (start input : List Char) : Url :=
  let (st, tail) := readPath .file start input
  let host := if st.keepsHost then host else none
  withTail .file ⟨"file".toList, some (emptyAuthority host), st.path, none, none⟩ tail

def isSlash (c : Char) : Bool := c = '/' || c = '\\'

/-- The URL of a file from after its two slashes. -/
def fileWithHost (input : List Char) : Except Error Url :=
  let ends (c : Char) : Bool := isSlash c || c = '?' || c = '#'
  let hostText := input.takeWhile fun c => !ends c
  let rest := input.dropWhile fun c => !ends c
  if isLooseDriveLetter hostText then .ok (fileUrl none ['/'] input)
  else if hostText = [] then .ok (fileUrl none [] rest)
  else
    match domainHost hostText with
    | .error e => .error e
    | .ok host =>
      if host = .name "localhost".toList then .ok (fileUrl none [] rest)
      else
        match rest with
        | c :: after =>
          if isSlash c then .ok (fileUrl (some host) ['/'] after)
          else .ok (fileUrl (some host) ['/'] rest)
        | [] => .ok (fileUrl (some host) ['/'] [])

/-- The URL of a file from after its colon. -/
def readFile (input : List Char) : Except Error Url :=
  match input with
  | c :: d :: rest =>
    if isSlash c then
      if isSlash d then fileWithHost rest else .ok (fileUrl none [] input)
    else .ok (fileUrl none ['/'] input)
  | [c] => if isSlash c then .ok (fileUrl none [] input) else .ok (fileUrl none ['/'] input)
  | [] => .ok (fileUrl none ['/'] [])

/-! ## Whole URLs -/

/-- The scheme of a text in lower case, and what follows its colon. -/
def splitScheme : List Char → Option (List Char × List Char)
  | [] => none
  | c :: rest =>
    if Ascii.isLetter c then
      let isSchemeChar (c : Char) : Bool :=
        Ascii.isLetterOrDigit c || c = '+' || c = '-' || c = '.'
      match rest.dropWhile isSchemeChar with
      | ':' :: after => some ((c :: rest.takeWhile isSchemeChar).map Ascii.toLower, after)
      | _ => none
    else none

/-- The text without the spaces and control characters around it and without tabs and line breaks
within it. -/
def clean (s : String) : List Char :=
  let isPadding (c : Char) : Bool := c.toNat ≤ 0x20
  let cs := (s.toList.dropWhile isPadding).reverse.dropWhile isPadding
  cs.reverse.filter fun c => !(c = '\t' || c = '\n' || c = '\r')

/-- A URL without an authority: a path, or an opaque text up to the query. -/
def withoutAuthority (scheme input : List Char) : Url :=
  match input with
  | '/' :: rest =>
    let (st, tail) := readPath .other ['/'] rest
    withTail .other ⟨scheme, none, st.path, none, none⟩ tail
  | _ =>
    let isMark (c : Char) : Bool := c = '?' || c = '#'
    let path := escapeAll "" (input.takeWhile fun c => !isMark c)
    withTail .other ⟨scheme, none, path, none, none⟩ (input.dropWhile fun c => !isMark c)

/-- Reads what follows the colon of a scheme. -/
def readAfterScheme (scheme input : List Char) : Except Error Url :=
  match SchemeKind.ofScheme scheme with
  | .file => readFile input
  | .special => afterSlashes .special scheme (input.dropWhile isSlash)
  | .other =>
    match input with
    | '/' :: '/' :: rest => afterSlashes .other scheme rest
    | _ => .ok (withoutAuthority scheme input)

/-- Reads an absolute URL. -/
def parse (s : String) : Except Error Url :=
  match splitScheme (clean s) with
  | some (scheme, rest) => readAfterScheme scheme rest
  | none => .error .relativeWithoutBase

/-- Reads a reference without a scheme relative to a base with a special scheme other than
`file`. -/
def readRelative (base : Url) (input : List Char) : Except Error Url :=
  let kind := SchemeKind.ofScheme base.scheme
  let read (start input : List Char) : Except Error Url :=
    let (st, tail) := readPath kind start input
    .ok (withTail kind { base with path := st.path } tail)
  match input with
  | [] => .ok { base with fragment := none }
  | '?' :: _ => .ok (withTail kind base input)
  | '#' :: rest => .ok { base with fragment := some (escapeAll fragmentSet rest) }
  | '/' :: '/' :: rest => afterSlashes kind base.scheme rest
  | c :: rest =>
    if isSlash c then
      match rest with
      | d :: _ =>
        if isSlash d then afterSlashes kind base.scheme (input.dropWhile isSlash)
        else read ['/'] rest
      | [] => read ['/'] []
    else
      let start := popSegment kind base.path
      read (if start = [] then ['/'] else start) input

/-- Reads a URL, absolute or relative to a base with a special scheme other than `file`. -/
def resolve (base : Url) (s : String) : Except Error Url :=
  let input := clean s
  match splitScheme input with
  | some (scheme, rest) =>
    match rest with
    | c :: d :: _ =>
      if scheme = base.scheme ∧ !(isSlash c && isSlash d) then readRelative base rest
      else readAfterScheme scheme rest
    | _ => if scheme = base.scheme then readRelative base rest else readAfterScheme scheme rest
  | none => readRelative base input

end OpenIdProvider.Url
