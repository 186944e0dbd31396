import IndexWatch.Url.Address
import IndexWatch.Url.Name
import IndexWatch.Url.Percent

namespace IndexWatch.Url

inductive Error where
  | noScheme
  | emptyHost
  | invalidPort
  | invalidIPv4
  | invalidIPv6
  | invalidName
  | invalidCharacter
  deriving DecidableEq, Repr

def Error.message : Error → String
  | noScheme => "relative URL without a base"
  | emptyHost => "empty host"
  | invalidPort => "invalid port number"
  | invalidIPv4 => "invalid IPv4 address"
  | invalidIPv6 => "invalid IPv6 address"
  | invalidName => "invalid international domain name"
  | invalidCharacter => "invalid domain character"

inductive Host where
  | domain (name : List Char)
  | ipv4 (address : IPv4)
  | ipv6 (address : IPv6)
  deriving DecidableEq

namespace Host

def text : Host → List Char
  | domain name => name
  | ipv4 a => a.text
  | ipv6 a => '[' :: (a.text ++ [']'])

def bracketed? (cs : List Char) : Option (Except Error Host) :=
  match cs with
  | '[' :: rest =>
    if rest.getLast? = some ']' then
      match IPv6.read? rest.dropLast with
      | some a => some (.ok (.ipv6 a))
      | none => some (.error .invalidIPv6)
    else some (.error .invalidIPv6)
  | _ => none

-- A host that is a name or an address. A name that ends in a number has to be an address.
def read (cs : List Char) : Except Error Host :=
  match bracketed? cs with
  | some host => host
  | none => do
    let some text := (WireText.ofBytes (Percent.decode cs)).toString? | throw .invalidName
    let some name := Name.read? text.toList | throw .invalidName
    if name.isEmpty then throw .emptyHost
    if IPv4.endsInNumber name then
      let some a := IPv4.read? name | throw .invalidIPv4
      return .ipv4 a
    return .domain name

-- A host of a scheme without rules of its own: its name is only encoded.
def readPlain (cs : List Char) : Except Error Host :=
  match bracketed? cs with
  | some host => host
  | none =>
    if cs.any Name.isForbiddenInHost then throw .invalidCharacter
    else return .domain (Percent.encode Percent.isControl cs)

end Host

end IndexWatch.Url
