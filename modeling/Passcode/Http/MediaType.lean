import Passcode.Text.Split

/-!
# Media types

The header that says what a body is. A body counts as JSON if the header is well-formed and its
subtype, or the suffix after the last plus sign, is `json` in any case of the letters; parameters
do not matter as long as they are well-formed.
-/

namespace Passcode.Http

/-- Whether a character may stand in a name. -/
def isTokenChar (c : Char) : Bool :=
  c.isAlphanum
    || ['!', '#', '$', '%', '&', '\'', '*', '+', '-', '.', '^', '_', '\x60', '|', '~'].contains c

/-- Whether a character may stand in a quoted value. -/
def isQuotedChar (c : Char) : Bool := ' ' ≤ c && c ≤ '~'

/-- The text after a quoted value, whose first quote is taken. A value holds at least one
character, which may be a quote itself; a backslash does not protect anything. -/
def afterQuoted : List Char → Option (List Char)
  | [] => none
  | first :: rest =>
    if isQuotedChar first then (Text.splitAtFirst '"' rest).bind fun (value, rest) =>
      if value.all isQuotedChar then some rest else none
    else none

/-- Whether a row of parameters is well-formed; blanks may stand before each. -/
def areParameters : Nat → List Char → Bool
  | 0, _ => false
  | fuel + 1, s =>
    match s with
    | [] => true
    | ' ' :: rest => areParameters fuel rest
    | s =>
      match s.takeWhile isTokenChar, s.dropWhile isTokenChar with
      | _ :: _, '=' :: '"' :: rest =>
        match afterQuoted rest with
        | none => false
        | some rest =>
          match rest.dropWhile (· = ' ') with
          | [] => true
          | ';' :: rest => areParameters fuel rest
          | _ => false
      | _ :: _, '=' :: rest =>
        match rest.takeWhile isTokenChar, rest.dropWhile isTokenChar with
        | [], [] => true
        | _ :: _, [] => true
        | _ :: _, ';' :: rest => areParameters fuel rest
        | _, _ => false
      | _, _ => false

/-- Whether a name is `json`. -/
def isJsonName (s : List Char) : Bool := String.ofList (s.map Char.toLower) = "json"

/-- Whether a media type is one of JSON. -/
def isJsonType (header : String) : Bool :=
  match Text.splitAtFirst '/' header.toList with
  | none => false
  | some (type, rest) =>
    let (subtype, parameters) := (Text.splitAtFirst ';' rest).getD (rest, [])
    let wellFormed := type ≠ [] && type.all isTokenChar && subtype.all isTokenChar
      && (subtype ≠ [] || !rest.contains ';') && areParameters (parameters.length + 1) parameters
    wellFormed &&
      match subtype with
      | [] => false
      | first :: more =>
        match Text.splitAtLast '+' more with
        | none => isJsonName subtype
        | some (before, suffix) => isJsonName (first :: before) || isJsonName suffix

end Passcode.Http
