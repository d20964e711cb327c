/-!
# Short names of types

The full name of a type is a path of segments with two colons between them; type arguments may
follow in angle brackets, and are full names again. The short name is the last segment of the
path, so everything from the first bracket on is cut off before the path is looked at.

## Main definitions

* `TypeName.short` — the last segment of the path
-/

namespace Testbed.TypeName

/-- What follows the last two colons in a row, or else what is held. -/
def afterColons (held : List Char) : List Char → List Char
  | [] => held
  | c :: rest =>
    if c = ':' ∧ rest.head? = some ':' then afterColons rest.tail rest else afterColons held rest

/-- The last segment of the path, as characters. -/
def shortChars (full : List Char) : List Char :=
  let path := full.takeWhile (· ≠ '<')
  afterColons path path

/-- The last segment of the path. -/
def short (full : String) : String :=
  String.ofList (shortChars full.toList)

end Testbed.TypeName
