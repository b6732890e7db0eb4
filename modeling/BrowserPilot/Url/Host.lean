import BrowserPilot.Url.Address
import BrowserPilot.Url.Domain

namespace BrowserPilot.Url

/-!
# Hosts

The host of an address is a name or a number. Schemes that know no names take the
host as it is.
-/

/-- Why a text is not an address. -/
inductive Problem
  | emptyHost
  | badDomain
  | badPort
  | badFourBytes
  | badEightGroups
  | badHostCharacter
  | noScheme
  deriving DecidableEq, Repr

/-- The wording of a problem. -/
def Problem.message : Problem → String
  | emptyHost => "empty host"
  | badDomain => "invalid international domain name"
  | badPort => "invalid port number"
  | badFourBytes => "invalid IPv4 address"
  | badEightGroups => "invalid IPv6 address"
  | badHostCharacter => "invalid domain character"
  | noScheme => "relative URL without a base"

/-- A host. -/
inductive Host
  | name (name : String)
  | fourBytes (value : Nat)
  | eightGroups (groups : List Nat)
  deriving DecidableEq, Repr

namespace Host

/-- The written form of a host. -/
def text : Host → String
  | name n => n
  | fourBytes value => fourBytesText value
  | eightGroups groups => s!"[{eightGroupsText groups}]"

/-- Reads what stands between brackets, of which the first has been seen. -/
def readBracketed (cs : List Char) : Except Problem Host :=
  if cs.getLast? = some ']' then
    match readEightGroups? cs.dropLast with
    | some groups => .ok (.eightGroups groups)
    | none => .error .badEightGroups
  else .error .badEightGroups

/-- Reads the host of an address whose scheme knows names. -/
def read (cs : List Char) : Except Problem Host :=
  match cs with
  | '[' :: rest => readBracketed rest
  | _ =>
    match Domain.ofBytes? (unescape (utf8 cs)) with
    | none => .error .badDomain
    | some [] => .error .emptyHost
    | some domain =>
      if endsInNumber domain then
        match readFourBytes? domain with
        | some value => .ok (.fourBytes value)
        | none => .error .badFourBytes
      else .ok (.name (String.ofList domain))

/-- The characters that no host holds. -/
def isForbidden (c : Char) : Bool := "\x00\t\n\r #/:<>?@[\\]^|".contains c

/-- Checks the host of an address whose scheme knows no names. -/
def checkOpaque (cs : List Char) : Except Problem Unit :=
  match cs with
  | '[' :: rest => (readBracketed rest).map fun _ ↦ ()
  | _ => if cs.any isForbidden then .error .badHostCharacter else .ok ()

end Host

end BrowserPilot.Url
