import JsonSchema.Format.Host

/-!
# `JsonSchema.Format.Uri` — the `uri` format

An absolute address: a scheme, a colon, and a rest that the scheme's own rules accept. Schemes of
the web need a host, `file` may have one, and for all others a host is read only after two slashes.
Nothing after the host can be wrong.

## Contents
- **Parts.** `scheme?`, `SchemeKind`, `isDelimiter`.
- **Authority.** `UserInfo`, `hostText`, `isPort`, `isAuthority`.
- **Address.** `isFileRest`, `isUri`.
-/

namespace JsonSchema.Format

/-! ## Parts -/

/-- Whether a character may follow the first letter of a scheme. -/
def isSchemeChar (c : Char) : Bool := c.isAlphanum || c == '+' || c == '-' || c == '.'

/-- The scheme of a text and what follows its colon. -/
def scheme? (cs : List Char) : Option (List Char × List Char) :=
  let scheme := cs.takeWhile (· != ':')
  match scheme, cs.dropWhile (· != ':') with
  | first :: others, _ :: rest =>
    if first.isAlpha && others.all isSchemeChar then some (scheme, rest) else none
  | _, _ => none

/-- How the rest of an address is read. -/
inductive SchemeKind where
  | web | file | other
deriving DecidableEq

namespace SchemeKind

/-- The kind of a scheme, whose case does not matter. -/
def ofScheme (scheme : List Char) : SchemeKind :=
  let name := String.ofList (scheme.map Char.toLower)
  if name = "file" then .file
  else if ["http", "https", "ws", "wss", "ftp"].contains name then .web
  else .other

/-- Whether a character ends the authority. -/
def isDelimiter (kind : SchemeKind) (c : Char) : Bool :=
  c == '/' || c == '?' || c == '#' || (c == '\\' && kind != .other)

end SchemeKind

/-! ## Authority -/

/-- Whether text before an at sign names a user or a password. -/
def namesUser (info : List Char) : Bool := info != [] && info != [':']

/-- The text before the last at sign, if there is one, and the text after it. -/
def splitUser (authority : List Char) : Option (List Char) × List Char :=
  let host := (authority.reverse.takeWhile (· != '@')).reverse
  if host.length < authority.length then
    (some (authority.take (authority.length - host.length - 1)), host)
  else (none, authority)

/-- The host at the start of a text: what stands before the first colon outside brackets. -/
def hostText : Bool → List Char → List Char
  | _, [] => []
  | inBrackets, c :: rest =>
    if c = ':' ∧ !inBrackets then []
    else c :: hostText (if c = '[' then true else if c = ']' then false else inBrackets) rest

/-- Whether a text is a port number: digits up to 65535, or nothing. -/
def isPort (cs : List Char) : Bool :=
  match Text.numeral? 10 cs with
  | some n => n ≤ 65535
  | none => false

/-- Whether a character ends a port number. Only here a backslash always does. -/
def endsPort (c : Char) : Bool := c == '/' || c == '\\' || c == '?' || c == '#'

/-- Whether a host may be empty, given who is named before it and what follows it. -/
def mayBeEmpty (kind : SchemeKind) (user : Option (List Char)) (afterUser afterHost : List Char) :
    Bool :=
  kind == .other && afterHost.isEmpty &&
    match user with
    | none => true
    | some [] => afterUser.isEmpty
    | some info => !namesUser info

/-- Whether the text after the slashes begins with an authority that is in order. -/
def isAuthority (kind : SchemeKind) (cs : List Char) : Bool :=
  let authority := cs.takeWhile fun c => !kind.isDelimiter c
  let (user, rest) := splitUser authority
  let host := hostText false rest
  let afterHost := rest.drop host.length
  let port := (afterHost.drop 1).takeWhile fun c => !endsPort c
  if host.isEmpty then mayBeEmpty kind user (cs.drop (authority.length - rest.length)) afterHost
  else
    (if kind == .web then Host.isDomainHost host else Host.isOpaqueHost host) && isPort port

/-! ## Address -/

/-- Whether a text is a drive letter and its mark. -/
def isDrive (cs : List Char) : Bool :=
  match cs with
  | [letter, mark] => letter.isAlpha && (mark == ':' || mark == '|')
  | _ => false

/-- Whether the rest of a `file` address is in order: two slashes bring a host, which may be
missing, or a drive in its place. -/
def isFileRest (rest : List Char) : Bool :=
  match rest with
  | a :: b :: after =>
    if (a == '/' || a == '\\') && (b == '/' || b == '\\') then
      let host := after.takeWhile fun c => !SchemeKind.file.isDelimiter c
      host.isEmpty || isDrive host || Host.isDomainHost host
    else true
  | _ => true

/-- Whether the rest of an address is in order. -/
def isRest (kind : SchemeKind) (rest : List Char) : Bool :=
  match kind with
  | .file => isFileRest rest
  | .web => isAuthority .web (rest.dropWhile fun c => c == '/' || c == '\\')
  | .other =>
    match rest with
    | '/' :: '/' :: after => isAuthority .other after
    | _ => true

/-- Whether a character can stand in no address at all. -/
def isBlankOrControl (c : Char) : Bool :=
  Unicode.Property.whiteSpace.contains c.toNat || Unicode.Category.control.contains c.toNat

/-- Whether a text is an absolute address. -/
def isUri (text : String) : Bool :=
  let cs := text.toList
  !cs.any isBlankOrControl &&
    match scheme? cs with
    | some (scheme, rest) => isRest (.ofScheme scheme) rest
    | none => false

end JsonSchema.Format
