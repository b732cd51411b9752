import FrameHost.Origin.Domain
import FrameHost.Origin.Ip
import FrameHost.Text.Percent

/-!
# Addresses and origins of URLs

Of a URL only the scheme, the host and the port matter here: they say which pages may embed a frame.
`Address.parse?` finds them in a text, and `origin?` finds the origin by which two URLs are told
apart: only the network schemes have one, and a blob has the origin of the URL inside it.
-/

namespace FrameHost.Origin

open Text (numeral?)

/-- The scheme, host and port of a URL that has a host. -/
structure Address where
  /-- The scheme, in lower case. -/
  scheme : String
  /-- The host in its normal form. -/
  host : String
  /-- The port, unless it is the default one of the scheme. -/
  port : Option Nat
deriving DecidableEq, Repr, Inhabited

/-! ## Schemes -/

/-- The default port of a scheme. -/
def defaultPort? (scheme : List Char) : Option Nat :=
  match String.ofList scheme with
  | "http" | "ws" => some 80
  | "https" | "wss" => some 443
  | "ftp" => some 21
  | _ => none

/-- Whether a scheme is for hosts on the network, so that its URLs always have a host. -/
def isNetwork (scheme : List Char) : Bool := (defaultPort? scheme).isSome

/-- Whether a scheme names files. -/
def isFile (scheme : List Char) : Bool := scheme = ['f', 'i', 'l', 'e']

/-- Whether a character can stand in a scheme after the first one. -/
def isSchemeChar (c : Char) : Bool := c.isAlphanum || c = '+' || c = '-' || c = '.'

/-- The text without the blanks around it and the line breaks and tabs inside it. -/
def clean (cs : List Char) : List Char :=
  let trimmed := ((cs.dropWhile (·.toNat ≤ 0x20)).reverse.dropWhile (·.toNat ≤ 0x20)).reverse
  trimmed.filter fun c => c ≠ '\t' && c ≠ '\n' && c ≠ '\r'

/-- The scheme of a URL in lower case, and what follows its colon. -/
def cutScheme? (cs : List Char) : Option (List Char × List Char) :=
  match cs with
  | [] => none
  | c :: _ =>
    if c.isAlpha then
      match cs.span isSchemeChar with
      | (scheme, ':' :: rest) => some (scheme.map Char.toLower, rest)
      | _ => none
    else none

/-! ## Hosts -/

/-- Whether a character ends the authority of a URL; a backslash does in URLs whose scheme is
special. -/
def endsAuthority (special : Bool) (c : Char) : Bool :=
  c = '/' || c = '?' || c = '#' || (special && c = '\\')

/-- The authority of a URL: what stands before its path. -/
def authority (special : Bool) (cs : List Char) : List Char :=
  cs.takeWhile fun c => !endsAuthority special c

/-- What follows the last `@` of an authority. -/
def afterUser (cs : List Char) : List Char := (cs.reverse.takeWhile (· ≠ '@')).reverse

/-- The host and the port text of an authority; a colon between brackets belongs to the host. -/
def cutPort (bracketed : Bool) : List Char → List Char × Option (List Char)
  | [] => ([], none)
  | c :: cs =>
    if c = ':' ∧ !bracketed then ([], some cs)
    else
      let inside := if c = '[' then true else if c = ']' then false else bracketed
      let (host, port) := cutPort inside cs
      (c :: host, port)

/-- The bytes of a percent-encoded text. -/
def percentDecode : List Char → List UInt8
  | [] => []
  | '%' :: a :: b :: cs =>
    match numeral? 16 0 [a, b] with
    | some n => UInt8.ofNat n :: percentDecode cs
    | none => '%'.toNat.toUInt8 :: percentDecode (a :: b :: cs)
  | c :: cs => Text.bytes (String.singleton c) ++ percentDecode cs

/-- The host between brackets. -/
def bracketedHost? (cs : List Char) : Option (List Char) :=
  match cs.getLast? with
  | some ']' => (ipv6? cs.dropLast).map fun ps => '[' :: renderIpv6 ps ++ [']']
  | _ => none

/-- The normal form of the host of a special URL: an IP address or a domain. -/
def specialHost? (cs : List Char) : Option (List Char) :=
  match cs with
  | '[' :: cs => bracketedHost? cs
  | cs =>
    match String.fromUTF8? (ByteArray.mk (percentDecode cs).toArray) with
    | none => none
    | some text =>
      match domainToAscii? text.toList with
      | none | some [] => none
      | some domain => if endsInNumber domain then (ipv4? domain).map renderIpv4 else some domain

/-- Whether a character cannot stand in the host of a URL that is not special. -/
def isForbiddenOpaque (c : Char) : Bool :=
  c ∈ ['\x00', '\t', '\n', '\r', ' ', '#', '/', ':', '<', '>', '?', '@', '[', '\\', ']', '^', '|']

/-- A byte, encoded if it is a control or not ASCII. -/
def encodeControl (b : UInt8) : List Char :=
  if b < 0x20 || 0x7e < b then Text.percentByte b else [Char.ofNat b.toNat]

/-- A text with controls and all that is not ASCII encoded. -/
def encodeControls (cs : List Char) : List Char :=
  (Text.bytes (String.ofList cs)).flatMap encodeControl

/-- The normal form of the host of a URL that is not special. -/
def opaqueHost? (cs : List Char) : Option (List Char) :=
  match cs with
  | '[' :: cs => bracketedHost? cs
  | cs => if cs.any isForbiddenOpaque then none else some (encodeControls cs)

/-- The port that a text writes; no digits are no port. -/
def port? (scheme : List Char) (cs : List Char) : Option (Option Nat) :=
  match cs with
  | [] => some none
  | cs =>
    match numeral? 10 0 cs with
    | none => none
    | some n =>
      if 65535 < n then none
      else some (if defaultPort? scheme = some n then none else some n)

/-- The address of an authority. -/
def authorityAddress? (scheme : List Char) (cs : List Char) : Option Address :=
  let (host, port) := cutPort false (afterUser cs)
  let host? := if isNetwork scheme then specialHost? host else opaqueHost? host
  -- A backslash ends the port of a URL whose scheme is not special.
  let digits := (port.getD []).takeWhile (· ≠ '\\')
  match host?, port? scheme digits with
  | some (c :: cs), some port => some ⟨String.ofList scheme, String.ofList (c :: cs), port⟩
  | _, _ => none

/-! ## Files -/

/-- Whether a text is a drive, such as `C:`. -/
def isDrive (cs : List Char) : Bool :=
  match cs with
  | [c, d] => c.isAlpha && (d = ':' || d = '|')
  | _ => false

/-- Whether a path segment stands for its directory. -/
def isSingleDot (cs : List Char) : Bool :=
  let s := String.ofList (cs.map Char.toLower)
  s = "." || s = "%2e"

/-- Whether a path segment stands for the directory above. -/
def isDoubleDot (cs : List Char) : Bool :=
  let s := String.ofList (cs.map Char.toLower)
  s = ".." || s = ".%2e" || s = "%2e." || s = "%2e%2e"

/-- Whether the first directory of a path is a drive, given how many directories come before. -/
def startsWithDrive : (depth : Nat) → List (List Char) → Bool
  | _, [] => false
  | depth, s :: ss =>
    if isSingleDot s then startsWithDrive depth ss
    else if isDoubleDot s then startsWithDrive (depth - 1) ss
    else if depth = 0 ∧ isDrive s then true
    else startsWithDrive (depth + 1) ss

/-- The segments of the path of a file. -/
def fileSegments (cs : List Char) : List (List Char) :=
  let path := (cs.takeWhile fun c => c ≠ '?' && c ≠ '#').map fun c => if c = '\\' then '/' else c
  Text.split '/' (path.drop 1)

/-- The address of a file: the local host and a drive have none. -/
def fileAddress? (cs : List Char) : Option Address :=
  match cs with
  | a :: b :: rest =>
    if (a = '/' ∨ a = '\\') ∧ (b = '/' ∨ b = '\\') then
      let host := authority true rest
      if host = [] ∨ isDrive host then none
      else
        match specialHost? host with
        | none => none
        | some name =>
          if name = "localhost".toList ∨ startsWithDrive 0 (fileSegments (rest.drop host.length))
          then none
          else some ⟨"file", String.ofList name, none⟩
    else none
  | _ => none

/-! ## Addresses and origins -/

/-- The address of a URL whose scheme is given. -/
def schemeAddress? (scheme rest : List Char) : Option Address :=
  if isFile scheme then fileAddress? rest
  else if isNetwork scheme then
    authorityAddress? scheme (authority true (rest.dropWhile fun c => c = '/' || c = '\\'))
  else
    match rest with
    | '/' :: '/' :: rest => authorityAddress? scheme (authority false rest)
    | _ => none

/-- The scheme, host and port of a URL, if the text is a URL that has a host. -/
def Address.parse? (text : String) : Option Address :=
  (cutScheme? (clean text.toList)).bind fun (scheme, rest) => schemeAddress? scheme rest

/-- The origin of a URL; `fuel` bounds how deep blobs nest. -/
def originOf? : (fuel : Nat) → List Char → Option Address
  | 0, _ => none
  | fuel + 1, cs =>
    match cutScheme? (clean cs) with
    | none => none
    | some (scheme, rest) =>
      if scheme = "blob".toList then
        originOf? fuel (encodeControls (rest.takeWhile fun c => c ≠ '?' && c ≠ '#'))
      else if isNetwork scheme then schemeAddress? scheme rest
      else none

/-- The origin of a URL, if it has one that another URL can share. -/
def origin? (text : String) : Option Address := originOf? (text.length + 1) text.toList

/-- Whether two URLs have the same scheme, host and port. -/
def sameOrigin (a b : String) : Bool :=
  match origin? a, origin? b with
  | some x, some y => x == y
  | _, _ => false

end FrameHost.Origin
