import PayLink.Url.Basic
import PayLink.Url.Domain
import PayLink.Url.Ipv4
import PayLink.Url.Ipv6
/-!
# Hosts

How the host of a link is read and written. Under a special scheme a host is an address or a domain
name, in one written form; under any other scheme it is a text with hardly any rules.
-/

namespace PayLink.Url.Host

open PayLink.Text

/-- A host in brackets, without the opening one. -/
def bracketed (inner : List Char) : Except Flaw (List Char) :=
  if inner.getLast? = some ']' then
    match Ipv6.ofText? inner.dropLast with
    | some gs => .ok ('[' :: Ipv6.text gs ++ [']'])
    | none => .error .ipv6
  else .error .ipv6

/-- The characters that no host has. -/
def isForbidden (c : Char) : Bool :=
  "\x00\t\n\r #/:<>?@[\\]^|".toList.contains c

/-- A host under an ordinary scheme. -/
def ordinary : List Char → Except Flaw (List Char)
  | '[' :: inner => bracketed inner
  | cs => if cs.any isForbidden then .error .domainCharacter
      else .ok (Percent.encode Percent.isControl cs)

/-- A domain name in its ASCII form, or the IPv4 address that it writes. -/
def ofDomain (name : List Char) : Except Flaw (List Char) :=
  if name.isEmpty then .error .emptyHost
  else if Ipv4.endsInNumber name then
    match Ipv4.ofHost? name with
    | some n => .ok (Ipv4.text n)
    | none => .error .ipv4
  else .ok name

/-- A host under a special scheme. -/
def special : List Char → Except Flaw (List Char)
  | '[' :: inner => bracketed inner
  | cs =>
    match Domain.toAscii? (Utf8.decodeLenient (Percent.decode cs)) with
    | none => .error .domainName
    | some name => ofDomain name

end PayLink.Url.Host
