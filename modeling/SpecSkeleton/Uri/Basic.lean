import SpecSkeleton.Text.Quoted
import SpecSkeleton.Uri.Host
import SpecSkeleton.Uri.Percent

/-!
# URIs

A URI names a document. Only its scheme, host and path matter here; what follows a question mark or
a number sign is left out. Parts are percent-decoded one by one, after they have been told apart.
-/

namespace SpecSkeleton

structure Uri where
  scheme : String
  host : String
  path : String
  deriving DecidableEq, Repr

/-- Why a text is no URI; each is a matter of the host. -/
inductive UriFault where
  | misplacedBracket
  | badLaterAddress
  | fourPartAddress
  | noAddress (host : String)
  | disguisedSign (host : String)
  deriving DecidableEq, Repr

def UriFault.message : UriFault → String
  | misplacedBracket => "Invalid IPv6 URL"
  | badLaterAddress => "IPvFuture address is invalid"
  | fourPartAddress => "An IPv4 address cannot be in brackets"
  | noAddress host => s!"{Text.quoted host} does not appear to be an IPv4 or IPv6 address"
  | disguisedSign host =>
    s!"netloc '{host}' contains invalid characters under NFKC normalization"

namespace Uri

/-- Control characters and the space, which do not count at the start. -/
def isLeadingBlank (c : Char) : Bool :=
  c.toNat ≤ 0x20

def isLineOrTab (c : Char) : Bool :=
  c == '\t' || c == '\r' || c == '\n'

def isSchemeChar (c : Char) : Bool :=
  c.isAlphanum || c == '+' || c == '-' || c == '.'

/-- The scheme before the first colon in lower case, and what follows. -/
def splitScheme (cs : List Char) : List Char × List Char :=
  let scheme := cs.takeWhile isSchemeChar
  match scheme, cs.dropWhile isSchemeChar with
  | first :: _, ':' :: rest => if first.isAlpha then (scheme.map Char.toLower, rest) else ([], cs)
  | _, _ => ([], cs)

/-- The host after two slashes, and what follows. -/
def splitHost : List Char → List Char × List Char
  | '/' :: '/' :: rest =>
    let isHostChar (c : Char) := c != '/' && c != '?' && c != '#'
    (rest.takeWhile isHostChar, rest.dropWhile isHostChar)
  | cs => ([], cs)

/-- Characters that stand for a sign with a meaning in URIs, in another form. -/
def disguisedSigns : List Nat :=
  [0x2047, 0x2048, 0x2049, 0x2100, 0x2101, 0x2105, 0x2106, 0x2A74, 0xFE13, 0xFE16, 0xFE55, 0xFE56,
    0xFE5F, 0xFE6B, 0xFF03, 0xFF0F, 0xFF1A, 0xFF1F, 0xFF20]

/-- What is wrong with the text between brackets. -/
def bracketFault? (address : List Char) : Option UriFault :=
  match address with
  | 'v' :: rest => if Host.isLaterAddress rest then none else some .badLaterAddress
  | _ =>
    if Host.isFourPart address then some .fourPartAddress
    else if Host.isZonedAddress address then none
    else some (.noAddress (String.ofList address))

/-- A host without the name of a user before an at sign. -/
def withoutUser (host : List Char) : List Char :=
  (host.reverse.takeWhile (· != '@')).reverse

/-- What is wrong with a host that has brackets. They hold the address; only a port may follow. If
the brackets are in the name of the user alone, what comes before the port is taken for the
address. -/
def addressFault? (host : List Char) : Option UriFault :=
  match withoutUser host with
  | '[' :: cs =>
    let address := cs.takeWhile (· != ']')
    match cs.drop (address.length + 1) with
    | [] | ':' :: _ => bracketFault? address
    | _ => some .misplacedBracket
  | cs =>
    if cs.contains '[' then some .misplacedBracket else bracketFault? (cs.takeWhile (· != ':'))

def disguiseFault? (host : List Char) : Option UriFault :=
  if host.any fun c => disguisedSigns.contains c.toNat then
    some (.disguisedSign (String.ofList host))
  else none

def hostFault? (host : List Char) : Option UriFault :=
  let opened := host.contains '['
  if opened != host.contains ']' then some .misplacedBracket
  else if opened then (addressFault? host).or (disguiseFault? host)
  else disguiseFault? host

/-- The schemes whose last path part may carry parameters, which are no part of the path. -/
def schemesWithParameters : List String :=
  ["", "ftp", "hdl", "prospero", "http", "imap", "https", "shttp", "rtsp", "rtspu", "sip", "sips",
    "mms", "sftp", "tel"]

/-- The path without parameters after a semicolon in its last part. -/
def withoutParameters (path : List Char) : List Char :=
  let last := (path.reverse.takeWhile (· != '/')).reverse
  path.take (path.length - last.length) ++ last.takeWhile (· != ';')

def ofString (s : String) : Except UriFault Uri :=
  let cs := (s.toList.dropWhile isLeadingBlank).filter fun c => !isLineOrTab c
  let (scheme, rest) := splitScheme cs
  let (host, rest) := splitHost rest
  match hostFault? host with
  | some fault => .error fault
  | none =>
    let path := (rest.takeWhile (· != '#')).takeWhile (· != '?')
    let scheme := String.ofList scheme
    let path := if schemesWithParameters.contains scheme then withoutParameters path else path
    .ok ⟨Percent.decode scheme, Percent.decode (String.ofList host),
      Percent.decode (String.ofList path)⟩

/-- A path that starts with a drive letter after its slash, without the slash. -/
def drivePath? (path : String) : Option String :=
  match path.toList with
  | '/' :: drive :: ':' :: rest =>
    if drive.isAlpha then some (String.ofList (drive.toLower :: ':' :: rest)) else none
  | _ => none

/-- The path of a file, if the URI names one. -/
def filePath? (u : Uri) : Option String :=
  if u.scheme ≠ "file" then none
  else if u.host ≠ "" ∧ u.path ≠ "" then some ("//" ++ u.host ++ u.path)
  else some ((drivePath? u.path).getD u.path)

/-- The path by which a document goes: that of its file, or just the path part. -/
def documentPath (u : Uri) : String :=
  u.filePath?.getD u.path

/-- The URI of an absolute path. -/
def ofPath (path : String) : String :=
  "file://" ++ Percent.encode path

end Uri

end SpecSkeleton
