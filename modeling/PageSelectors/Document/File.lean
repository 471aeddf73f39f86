import PageSelectors.Fault

/-!
Files: the text of their bytes, and the format their names speak of.
-/

namespace PageSelectors

def FileFault.decode (bytes : ByteArray) : Except FileFault String :=
  match String.fromUTF8? bytes with
  | some text => .ok text
  | none => .error .notText

/-- What follows the last dot of a file name. A dot at the very start does not count. -/
def extension? (name : List Char) : Option (List Char) :=
  let reversed := name.reverse
  let stem := (reversed.dropWhile (· ≠ '.')).drop 1
  if stem.isEmpty then none else some (reversed.takeWhile (· ≠ '.')).reverse

def fileName (path : String) : List Char :=
  (path.toList.reverse.takeWhile (· ≠ '/')).reverse

def Format.ofPath (path : String) : Format :=
  if extension? (fileName path) = some "json".toList then .json else .yaml

end PageSelectors
