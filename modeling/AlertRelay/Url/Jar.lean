import AlertRelay.Host.Address
import AlertRelay.Url.Basic
import AlertRelay.Url.Parts

/-!
# URLs before a cookie jar

The cookie jar of a client is shown every response together with the URL that was asked for. It
reads the text of this URL by rules of its own, and some URLs that can be sent to do not pass: it
wants a type in front of a first colon, and an authority whose brackets hold an address and in
which no character stands for a mark that would end it.

## Main definitions

* `JarFault`: why a cookie jar does not take a URL.
* `jarFaultOfText?`, `Url.jarFault?`: the first of these faults.
-/

namespace AlertRelay.Url

open AlertRelay.Host AlertRelay.Number

/-- Why a cookie jar does not take a URL. -/
inductive JarFault
  /-- Nothing that could be a type stands in front of a colon. -/
  | untyped (text : String)
  /-- The authority has brackets on one side only. -/
  | bracket
  /-- An address between brackets begins like one of a later version, but is none. -/
  | laterVersion
  /-- An address between brackets has no colons. -/
  | ipv4
  /-- What stands between the brackets is no address. -/
  | notAddress (text : String)
  /-- A character of the authority stands for a mark that ends it, or a part of it. -/
  | mark (authority : String)
  deriving DecidableEq, Repr

/-- The message of a fault. -/
def JarFault.message : JarFault → String
  | .untyped text => "unknown url type: " ++ Text.quoted text
  | .bracket => "Invalid IPv6 URL"
  | .laterVersion => "IPvFuture address is invalid"
  | .ipv4 => "An IPv4 address cannot be in brackets"
  | .notAddress text => Text.quoted text ++ " does not appear to be an IPv4 or IPv6 address"
  | .mark authority =>
    "netloc '" ++ authority ++ "' contains invalid characters under NFKC normalization"

/-- The text in front of the last number sign. -/
def beforeTag (s : List Char) : List Char :=
  if s.contains '#' then ((s.reverse.dropWhile (· ≠ '#')).drop 1).reverse else s

/-- A text without a number sign at its end. -/
def dropEmptyTag (s : List Char) : List Char := if s.getLast? = some '#' then s.dropLast else s

/-- Characters that a type may have. -/
def isTypeChar (c : Char) : Bool := c ≠ '/' && c ≠ ':'

/-- Whether a text begins with a type and a colon. -/
def hasType (s : List Char) : Bool :=
  s.takeWhile isTypeChar ≠ [] && (s.dropWhile isTypeChar).head? = some ':'

/-- An address of a later version: its version in hexadecimal digits, a point, and more. -/
def isLaterAddress (s : List Char) : Bool :=
  match s with
  | 'v' :: version =>
    let isHex (c : Char) : Bool := (hexDigit? c).isSome
    version.takeWhile isHex ≠ [] &&
      match version.dropWhile isHex with
      | '.' :: rest => rest ≠ []
      | _ => false
  | _ => false

/-- The fault of what stands between brackets. -/
def bracketedFault? (s : List Char) : Option JarFault :=
  if s.head? = some 'v' then
    if isLaterAddress s then none else some .laterVersion
  else if isIpv4 s then some .ipv4
  else if isIpv6 s then none
  else some (.notAddress (String.ofList s))

/-- Characters outside ASCII that stand for a slash, a question mark, a number sign, an at sign or
a colon, alone or among others. -/
def markVariants : List Nat :=
  [0x2047, 0x2048, 0x2049, 0x2100, 0x2101, 0x2105, 0x2106, 0x2a74, 0xfe13, 0xfe16, 0xfe55, 0xfe56,
   0xfe5f, 0xfe6b, 0xff03, 0xff0f, 0xff1a, 0xff1f, 0xff20]

/-- The first fault of an authority: of its brackets, of what stands between them, or of its
characters. -/
def authorityFault? (s : List Char) : Option JarFault :=
  if s.contains '[' ≠ s.contains ']' then some .bracket
  else
    let bracketed :=
      if s.contains '[' then
        bracketedFault? (((s.dropWhile (· ≠ '[')).drop 1).takeWhile (· ≠ ']'))
      else none
    match bracketed with
    | some fault => some fault
    | none =>
      if s.any fun c => markVariants.contains c.toNat then some (.mark (String.ofList s)) else none

/-- Why a cookie jar does not take a URL of a text, if it does not. -/
def jarFaultOfText? (s : List Char) : Option JarFault :=
  let text := dropEmptyTag s
  if hasType (beforeTag s) then authorityFault? (splitSlashes (splitScheme text).2).1
  else some (.untyped (String.ofList text))

/-- Why a cookie jar does not take a URL, if it does not. -/
def jarFault? (u : Url) : Option JarFault := jarFaultOfText? u.toText.toList

end AlertRelay.Url
