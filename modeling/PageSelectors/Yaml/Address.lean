/-!
Addresses, which tags are made of. They are bytes: an escape in an address may name any byte, so
not every address is a text. A zero byte ends an address, and what comes after it does not count.
-/

namespace PageSelectors.Yaml

structure Address where
  bytes : List UInt8
  deriving DecidableEq, Repr

namespace Address

/-- The address of some bytes: those before the first zero. -/
def ofBytes (bytes : List UInt8) : Address :=
  ⟨bytes.takeWhile (· != 0)⟩

def ofString (text : String) : Address :=
  ofBytes text.toUTF8.toList

def isEmpty (address : Address) : Bool :=
  address.bytes.isEmpty

instance : Append Address where
  append left right := ⟨left.bytes ++ right.bytes⟩

def unspecific : Address :=
  ofString "!"

def core (word : String) : Address :=
  ofString ("tag:yaml.org,2002:" ++ word)

def ownName? (address : Address) : Option String :=
  match address.bytes with
  | 0x21 :: name => String.fromUTF8? name.toByteArray
  | _ => none

end Address

end PageSelectors.Yaml
