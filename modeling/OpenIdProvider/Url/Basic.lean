/-
  URLs as their components, and the text they are written as. All components are kept in the form
  in which they are written: percent-encoded, and hosts in their canonical form.
-/
import OpenIdProvider.Codec.Percent
import OpenIdProvider.Net.Ipv6
import OpenIdProvider.Text.Utf8

namespace OpenIdProvider

/-- A host. Names of special schemes are domains in ASCII, those of other schemes any text. -/
inductive Url.Host
  | name (text : List Char)
  | ipv4 (address : Net.Ipv4)
  | ipv6 (address : Net.Ipv6)
deriving DecidableEq, Repr

/-- What stands between `//` and the path. An empty password is none, and so is an empty host. -/
structure Url.Authority where
  username : List Char
  password : List Char
  host : Option Url.Host
  port : Option Nat
deriving DecidableEq, Repr

structure Url where
  scheme : List Char
  authority : Option Url.Authority
  path : List Char
  query : Option (List Char)
  fragment : Option (List Char)
deriving DecidableEq, Repr

namespace Url

/-- The kinds of schemes. Special ones have an authority and treat `\` as `/`. -/
inductive SchemeKind
  | file
  | special
  | other
deriving DecidableEq

namespace SchemeKind

def ofScheme (scheme : List Char) : SchemeKind :=
  if scheme = "file".toList then .file
  else if ["http", "https", "ws", "wss", "ftp"].any fun s => s.toList = scheme then .special
  else .other

/-- Whether a backslash separates like a slash. -/
def isSpecial : SchemeKind → Bool
  | other => false
  | _ => true

end SchemeKind

/-- The port that a scheme implies and that is therefore not written. -/
def defaultPort? (scheme : List Char) : Option Nat :=
  if scheme = "http".toList ∨ scheme = "ws".toList then some 80
  else if scheme = "https".toList ∨ scheme = "wss".toList then some 443
  else if scheme = "ftp".toList then some 21
  else none

/-! ## Characters that are percent-encoded -/

/-- Bytes that need no escape anywhere: visible ASCII and the space. -/
def isPrintable (b : UInt8) : Bool := 0x20 ≤ b && b ≤ 0x7E

/-- Escapes the bytes outside visible ASCII and those of the given characters. -/
def escape (special : String) (c : Char) : List Char :=
  Percent.encode (fun b => isPrintable b && !special.toList.contains (Char.ofNat b.toNat))
    (String.utf8EncodeChar c)

def escapeAll (special : String) (cs : List Char) : List Char := cs.flatMap (escape special)

/-- Escaped in fragments. -/
def fragmentSet : String := " \"<>`"

/-- Escaped in paths. -/
def pathSet : String := " \"<>`#?\x7b\x7d^"

/-- Escaped in user names and passwords. -/
def userinfoSet : String := " \"<>`#?\x7b\x7d^/:;=@[\\]|"

/-- Escaped in queries; special schemes also escape the apostrophe. -/
def querySet (kind : SchemeKind) : String := if kind.isSpecial then " \"#<>'" else " \"#<>"

/-! ## Text -/

def Host.text : Host → List Char
  | .name text => text
  | .ipv4 a => a.text
  | .ipv6 a => '[' :: a.text ++ [']']

def Authority.userinfo (a : Authority) : List Char :=
  if a.username = [] ∧ a.password = [] then []
  else if a.password = [] then a.username ++ ['@']
  else a.username ++ ':' :: a.password ++ ['@']

def Authority.hostText (a : Authority) : List Char := (a.host.map Host.text).getD []

def Authority.portText (a : Authority) : List Char :=
  match a.port with
  | some p => ':' :: Ascii.digits 10 p
  | none => []

def Authority.text (a : Authority) : List Char := a.userinfo ++ a.hostText ++ a.portText

/-- What stands between the scheme and the path. Without an authority a path that begins with two
slashes is set off by `/.`, so that it is not read as one. -/
def beforePath (u : Url) : List Char :=
  match u.authority with
  | some a => '/' :: '/' :: a.text
  | none => if ['/', '/'].isPrefixOf u.path then ['/', '.'] else []

/-- The query and the fragment with their marks. -/
def afterPath (u : Url) : List Char :=
  (match u.query with
    | some q => '?' :: q
    | none => []) ++
  (match u.fragment with
    | some f => '#' :: f
    | none => [])

/-- The text of a URL. -/
def text (u : Url) : List Char := u.scheme ++ ':' :: u.beforePath ++ u.path ++ u.afterPath

/-- The host, if there is one that is not empty. -/
def host? (u : Url) : Option Host := u.authority.bind Authority.host

/-- Why a text is no URL. -/
inductive Error
  | emptyHost
  | invalidDomain
  | invalidPort
  | invalidIpv4
  | invalidIpv6
  | invalidHostCharacter
  | relativeWithoutBase
  | relativeToOpaqueBase
deriving DecidableEq, Repr

def Error.message : Error → String
  | .emptyHost => "empty host"
  | .invalidDomain => "invalid international domain name"
  | .invalidPort => "invalid port number"
  | .invalidIpv4 => "invalid IPv4 address"
  | .invalidIpv6 => "invalid IPv6 address"
  | .invalidHostCharacter => "invalid domain character"
  | .relativeWithoutBase => "relative URL without a base"
  | .relativeToOpaqueBase => "relative URL with a cannot-be-a-base base"

end Url

end OpenIdProvider
