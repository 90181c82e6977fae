import Portcullis.Url.Domain
import Portcullis.Url.Ipv6

/-!
# Hosts

The host of a URL: a domain name, an IPv4 or an IPv6 address, in the one form in which hosts are compared.
-/

namespace Portcullis.Host

/-- An IPv6 address in brackets. -/
def bracketed? (cs : List Char) : Option String :=
  if cs.getLast? = some ']' then
    (Ipv6.parse? (cs.drop 1).dropLast).map fun groups => "[" ++ Ipv6.text groups ++ "]"
  else none

/-- The host of a URL whose scheme is a known one: escapes are read, domain names are written in ASCII, and a name that
ends in a number is an address. -/
def parse? (cs : List Char) : Option String :=
  if cs.head? = some '[' then bracketed? cs
  else do
    let name ← Domain.toAscii? (← Utf8.decode? (Percent.decode cs))
    if name.isEmpty then none
    else if Ipv4.endsInNumber name then (Ipv4.parse? name).map Ipv4.text
    else some (String.ofList name)

/-- Characters that no host may hold, whatever the scheme. -/
def isForbidden (c : Char) : Bool :=
  c.toNat = 0 || "\t\n\r #/:<>?@[\\]^|".toList.contains c

/-- The host of a URL of any other scheme: kept as it is, with escapes for what is not printable ASCII. -/
def parseOther? (cs : List Char) : Option String :=
  if cs.head? = some '[' then bracketed? cs
  else if cs.any isForbidden then none
  else some (String.ofList (cs.flatMap fun c =>
    if 32 ≤ c.toNat ∧ c.toNat < 127 then [c] else (String.utf8EncodeChar c).flatMap Percent.escape))

end Portcullis.Host
