import BrowserPilot.Text.Ascii
import BrowserPilot.Text.Blank
import BrowserPilot.Url.Host

namespace BrowserPilot.Url

/-!
# Reading addresses

The browser opens only addresses that are fetched over a secure connection. Such
an address is brought into its canonical form: the scheme and the host in lower
case, the default port left out, the dots in the path resolved, and every
character that may not stand there encoded. An address of another scheme is still
checked, so that a malformed one is told apart from a refused one.
-/

/-- The scheme of the addresses that may be opened. -/
def secureScheme : String := "https"

/-- The port of that scheme. -/
def securePort : Nat := 443

/-- An address that may be opened, each part in its encoded form. -/
structure SecureUrl where
  user : List Char := []
  password : Option (List Char) := none
  host : Host
  port : Option Nat := none
  path : List (List Char)
  query : Option (List Char) := none
  fragment : Option (List Char) := none

/-- Why an address is not opened. -/
inductive Refusal
  | malformed (why : Problem)
  | otherScheme (scheme : String)
  deriving DecidableEq, Repr

namespace SecureUrl

/-- What stands before the host. -/
def credentials (u : SecureUrl) : List Char :=
  match u.password with
  | some p => u.user ++ ':' :: p ++ ['@']
  | none => if u.user.isEmpty then [] else u.user ++ ['@']

/-- The written form of an address. -/
def text (u : SecureUrl) : String :=
  secureScheme ++ "://" ++ String.ofList (
    u.credentials ++ u.host.text.toList ++
    (u.port.map fun p ↦ ':' :: (toString p).toList).getD [] ++
    u.path.flatMap (fun s ↦ '/' :: s) ++
    (u.query.map fun q ↦ '?' :: q).getD [] ++
    (u.fragment.map fun f ↦ '#' :: f).getD [])

end SecureUrl

/-! ## The outer parts -/

/-- The text without the control characters and spaces around it, and without line breaks and tabs
anywhere. -/
def clean (cs : List Char) : List Char :=
  let atEdge (c : Char) : Bool := c ≤ ' '
  (((cs.dropWhile atEdge).reverse.dropWhile atEdge).reverse).filter
    fun c ↦ c != '\t' && c != '\n' && c != '\r'

/-- Whether a character may stand in a scheme. -/
def isSchemeChar (c : Char) : Bool :=
  Text.isLetter c || Text.isDigit c || c = '+' || c = '-' || c = '.'

/-- The scheme in lower case, and what follows the colon. -/
def cutScheme (cs : List Char) : Except Problem (String × List Char) :=
  match cs.takeWhile isSchemeChar, cs.dropWhile isSchemeChar with
  | c :: scheme, ':' :: rest =>
    if Text.isLetter c then .ok (String.ofList ((c :: scheme).map Text.lowerChar), rest)
    else .error .noScheme
  | _, _ => .error .noScheme

/-- The schemes that know names of hosts, with their ports. -/
def namedSchemes : List (String × Nat) :=
  [("http", 80), (secureScheme, securePort), ("ws", 80), ("wss", 443), ("ftp", 21)]

/-- Whether a character separates the parts of an address whose scheme knows names. -/
def isSlash (c : Char) : Bool := c = '/' || c = '\\'

/-- Whether the part with the host ends before a character. -/
def endsAuthority (named : Bool) (c : Char) : Bool :=
  c = '/' || c = '?' || c = '#' || (named && c = '\\')

/-! ## Host, port and credentials -/

/-- What stands before and after the last `@`; nothing before if there is none. -/
def cutAtLastAt (cs : List Char) : Option (List Char) × List Char :=
  if cs.contains '@' then
    (some ((cs.reverse.dropWhile (· ≠ '@')).drop 1).reverse,
      (cs.reverse.takeWhile (· ≠ '@')).reverse)
  else (none, cs)

/-- What stands before and after the first colon outside of brackets; the colon is kept. -/
def cutAtPort (bracketed : Bool) : List Char → List Char × List Char
  | [] => ([], [])
  | c :: cs =>
    if c = ':' && !bracketed then ([], c :: cs)
    else
      let inside := c = '[' || (bracketed && c != ']')
      let (host, port) := cutAtPort inside cs
      (c :: host, port)

/-- The number of a port, at most 65535; none where there are no digits. -/
def readPort (cs : List Char) : Except Problem (Option Nat) :=
  let digits := cs.takeWhile Text.isDigit
  let rest := cs.dropWhile Text.isDigit
  let port := (digitsIn? 10 digits).getD 0
  if 65535 < port then .error .badPort
  else match rest with
    | [] | '\\' :: _ => .ok (if digits.isEmpty then none else some port)
    | _ :: _ => .error .badPort

/-- The port that follows a host, if any does. -/
def portOf : List Char → Except Problem (Option Nat)
  | ':' :: cs => readPort cs
  | _ => .ok none

/-- The user's name and the password, encoded. An empty password counts as none. -/
def readCredentials (cs : List Char) : List Char × Option (List Char) :=
  let user := escape inCredentials (cs.takeWhile (· ≠ ':'))
  match (cs.dropWhile (· ≠ ':')).drop 1 with
  | [] => (user, none)
  | password => (user, some (escape inCredentials password))

/-- The parts of an address up to the path. -/
structure Authority where
  user : List Char
  password : Option (List Char)
  host : Host
  port : Option Nat

/-- Reads what stands before the path of an address whose scheme knows names. -/
def readAuthority (default : Nat) (cs : List Char) : Except Problem Authority := do
  let (credentials, place) := cutAtLastAt cs
  let (host, port) := cutAtPort false place
  if host.isEmpty then throw .emptyHost
  let host ← Host.read host
  let port ← portOf port
  let (user, password) := readCredentials (credentials.getD [])
  return ⟨user, password, host, if port = some default then none else port⟩

/-- Checks what stands before the path of an address whose scheme knows no names. A host may be
missing only if nothing belongs to it. -/
def checkAuthority (cs : List Char) (atEnd : Bool) : Except Problem Unit := do
  let (credentials, place) := cutAtLastAt cs
  if credentials = some [] ∧ place.isEmpty ∧ !atEnd then throw .emptyHost
  let (host, port) := cutAtPort false place
  Host.checkOpaque host
  if host.isEmpty ∧ !port.isEmpty then throw .emptyHost
  let _ ← portOf port
  let (user, password) := readCredentials (credentials.getD [])
  if host.isEmpty ∧ (!user.isEmpty ∨ password.isSome) then throw .emptyHost

/-- Whether a host is the letter of a drive. -/
def isDrive : List Char → Bool
  | [c, d] => Text.isLetter c && (d = ':' || d = '|')
  | _ => false

/-- Checks the host of a file, which may be missing. -/
def checkFile (cs : List Char) : Except Problem Unit :=
  match cs with
  | a :: b :: rest =>
    if isSlash a && isSlash b then
      let host := rest.takeWhile fun c ↦ !endsAuthority true c
      if host.isEmpty || isDrive host then .ok () else (Host.read host).map fun _ ↦ ()
    else .ok ()
  | _ => .ok ()

/-! ## Path, query and fragment -/

/-- Whether a segment stands for the place itself. -/
def isDot (cs : List Char) : Bool :=
  let lowered := cs.map Text.lowerChar
  lowered = ['.'] || lowered = ['%', '2', 'e']

/-- Whether a segment stands for the place above. -/
def isDoubleDot (cs : List Char) : Bool :=
  let dot := ['.']
  let escaped := ['%', '2', 'e']
  let lowered := cs.map Text.lowerChar
  lowered = dot ++ dot || lowered = dot ++ escaped || lowered = escaped ++ dot ||
    lowered = escaped ++ escaped

/-- The segments without the last, which is kept if it is the letter of a drive. -/
def goUp (segments : List (List Char)) : List (List Char) :=
  match segments.getLast? with
  | some last => if isDrive last then segments else segments.dropLast
  | none => []

/-- Resolves dots, given the segments so far. A path that ends in dots ends with a slash. -/
def resolve (done : List (List Char)) : List (List Char) → List (List Char)
  | [] => done
  | [s] =>
    if isDoubleDot s then goUp done ++ [[]] else if isDot s then done ++ [[]] else done ++ [s]
  | s :: rest =>
    if isDoubleDot s then resolve (goUp done) rest
    else if isDot s then resolve done rest
    else resolve (done ++ [s]) rest

/-- The segments of a path, whose first slash may be missing. -/
def readPath (cs : List Char) : List (List Char) :=
  let cs := match cs with
    | c :: rest => if isSlash c then rest else cs
    | [] => []
  resolve [] ((Text.pieces isSlash cs).map (escape inPath))

/-- The fragment, if there is one. -/
def readFragment : List Char → Option (List Char)
  | '#' :: cs => some (escape inFragment cs)
  | _ => none

/-- The query, if there is one, where the fragment does not begin first. -/
def readQuery : List Char → Option (List Char)
  | '?' :: cs => some (escape inQuery (cs.takeWhile (· ≠ '#')))
  | _ => none

/-! ## The whole -/

/-- Reads an address whose scheme knows names, from the slashes on. -/
def readNamed (scheme : String) (default : Nat) (cs : List Char) : Except Refusal SecureUrl :=
  let cs := cs.dropWhile isSlash
  let rest := cs.dropWhile fun c ↦ !endsAuthority true c
  match readAuthority default (cs.takeWhile fun c ↦ !endsAuthority true c) with
  | .error why => .error (.malformed why)
  | .ok a =>
    if scheme = secureScheme then
      .ok { user := a.user, password := a.password, host := a.host, port := a.port
            path := readPath (rest.takeWhile fun c ↦ c != '?' && c != '#')
            query := readQuery (rest.dropWhile fun c ↦ c != '?' && c != '#')
            fragment := readFragment (rest.dropWhile (· ≠ '#')) }
    else .error (.otherScheme scheme)

/-- Checks an address of a scheme that knows no names, from the colon on. -/
def checkOther (cs : List Char) : Except Problem Unit :=
  match cs with
  | '/' :: '/' :: rest =>
    checkAuthority (rest.takeWhile fun c ↦ !endsAuthority false c)
      (rest.all fun c ↦ !endsAuthority false c)
  | _ => .ok ()

/-- An address of a scheme that may not be opened, if it is well-formed. -/
def refuse (scheme : String) : Except Problem Unit → Refusal
  | .error why => .malformed why
  | .ok () => .otherScheme scheme

/-- Reads an address that may be opened. -/
def SecureUrl.read (s : String) : Except Refusal SecureUrl :=
  match cutScheme (clean s.toList) with
  | .error why => .error (.malformed why)
  | .ok (scheme, rest) =>
    match namedSchemes.lookup scheme with
    | some default => readNamed scheme default rest
    | none =>
      .error (refuse scheme (if scheme = "file" then checkFile rest else checkOther rest))

/-- An address in its written form, with its scheme. -/
structure Address where
  scheme : String
  text : String
  deriving DecidableEq, Repr

/-- Reads an address, or says why it is none. One that may not be opened stays as it was given. -/
def parse (s : String) : Except String Address :=
  match SecureUrl.read s with
  | .ok url => .ok ⟨secureScheme, url.text⟩
  | .error (.otherScheme scheme) => .ok ⟨scheme, s⟩
  | .error (.malformed why) => .error why.message

/-- What reads addresses. -/
class Reader where
  parse : String → Except String Address

instance : Reader := ⟨parse⟩

end BrowserPilot.Url
