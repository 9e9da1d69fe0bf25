import Passcode.Text.Split

/-!
# What log lines may show

Addresses and connection strings are masked before they are logged. Of an address only the first
character and the domain stay visible, and an identity without an `@` is masked as a whole. Of a
connection string everything between the scheme and the last `@` is hidden.
-/

namespace Passcode.Mask

/-- A part of an address with everything after its first character hidden; one character alone is
hidden too. -/
def segment : List Char → List Char
  | [] => []
  | [_] => ['*']
  | c :: _ :: _ => [c, '*', '*', '*']

/-- The masked characters of an identity. -/
def identityChars (s : List Char) : List Char :=
  match Text.splitAtLast '@' s with
  | some (before, domain) => segment before ++ '@' :: domain
  | none => segment s

/-- An identity as log lines show it. -/
def identity (s : String) : String := String.ofList (identityChars s.toList)

/-- The mark between the scheme of a connection string and the rest. -/
def schemeMark : List Char := [':', '/', '/']

/-- The masked characters of a connection string. -/
def urlChars (s : List Char) : List Char :=
  match Text.splitAtText schemeMark s with
  | none => s
  | some (scheme, rest) =>
    match Text.splitAtLast '@' rest with
    | none => s
    | some (_, host) => scheme ++ schemeMark ++ ['*', '*', '*', '*', '@'] ++ host

/-- A connection string as log lines show it. -/
def url (s : String) : String := String.ofList (urlChars s.toList)

end Passcode.Mask
