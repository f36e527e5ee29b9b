import LicenseChooser.Url.Host.Domain
import LicenseChooser.Url.Host.Ipv4
import LicenseChooser.Url.Host.Ipv6
import LicenseChooser.Url.Percent

/-!
Hosts. In the schemes with a fixed syntax a host is an address or a domain name; in all others its
text is taken as it is.
-/

namespace LicenseChooser.Url

open Text

inductive Host where
  | name (text : String)
  | ipv4 (value : Nat)
  | ipv6 (pieces : List Nat)
  deriving DecidableEq, Repr

namespace Host

def toString : Host → String
  | name text => text
  | ipv4 value => Ipv4.print value
  | ipv6 pieces => Ipv6.print pieces

/-- The address between brackets. -/
def parseBracketed (cs : List Char) : Except Error Host :=
  if cs.getLast? = some ']' ∧ cs.length > 1 then (Ipv6.parse cs.dropLast.tail).map ipv6
  else .error .invalidIpv6

/-- A host that names a computer. -/
def parse (cs : List Char) : Except Error Host :=
  if cs.head? = some '[' then parseBracketed cs
  else do
    let domain ← Domain.toAscii (percentDecode cs)
    if domain.isEmpty then .error .emptyHost
    else if Ipv4.endsInNumber domain then (Ipv4.parse domain).map ipv4
    else .ok (.name (String.ofList domain))

/-- The characters that separate a host from what surrounds it. -/
def delimits (c : Char) : Bool :=
  ['\x00', '\t', '\n', '\r', ' ', '#', '/', ':', '<', '>', '?', '@', '[', '\\', ']', '^',
    '|'].contains c

/-- A host whose text has no further meaning. -/
def parseOpaque (cs : List Char) : Except Error Host :=
  if cs.head? = some '[' then parseBracketed cs
  else if cs.any delimits then .error .invalidHostCharacter
  else .ok (.name (String.ofList (percentEncode controlSet cs)))

end Host

end LicenseChooser.Url
