import Passcode.Text.Numeral

/-!
# The tokens of a TOML text

Words, quoted texts, marks and blanks. A line feed is a token of its own, because a TOML text is
read line by line; a carriage return counts only as part of a line end, and `unixLines` removes
those beforehand.
-/

namespace Passcode.Toml

/-- A token of a TOML text. -/
inductive Token where
  | newline
  | blank (s : List Char)
  | comment
  | equals
  | period
  | comma
  | colon
  | plus
  | leftBrace
  | rightBrace
  | leftBracket
  | rightBracket
  /-- Letters, digits, hyphens and underscores: a bare key, a number or a part of a date. -/
  | word (s : List Char)
  /-- A quoted text; one that may go over several lines is no key. -/
  | quoted (s : List Char) (multiline : Bool)
deriving Repr, DecidableEq

/-- Write line ends as single line feeds, and drop a byte order mark before the text. -/
def unixLines (s : List Char) : List Char :=
  let rec fold : List Char → List Char
    | [] => []
    | '\r' :: '\n' :: rest => '\n' :: fold rest
    | c :: rest => c :: fold rest
  match fold s with
  | '\ufeff' :: rest => rest
  | s => s

/-- Whether a character may stand in a word. -/
def isWordChar (c : Char) : Bool := c.isAlphanum || c = '-' || c = '_'

/-- Whether a character separates tokens on a line. -/
def isSpace (c : Char) : Bool := c = ' ' || c = '\t'

/-- Whether a character may stand in a comment. -/
def isCommentChar (c : Char) : Bool := c = '\t' || ' ' ≤ c

/-- Whether a character may stand for itself in a quoted text. -/
def isTextChar (c : Char) : Bool := c = '\t' || (' ' ≤ c && c ≠ '\x7f')

/-- The character named by hexadecimal digits. -/
def charOfHex? (ds : List Char) : Option Char :=
  ((Text.natInBase? 16 ds).filter fun n => n.isValidChar).map Char.ofNat

/-- What an escape of one letter stands for. -/
def escaped? : Char → Option Char
  | '"' => some '"'
  | '\\' => some '\\'
  | 'b' => some '\x08'
  | 'f' => some '\x0c'
  | 'n' => some '\n'
  | 'r' => some '\r'
  | 't' => some '\t'
  | _ => none

/-- The text after a backslash in a quoted text over several lines: a line end with the blanks
before it, and all blanks and line ends after it, count for nothing. -/
def afterLineJoin? (s : List Char) : Option (List Char) :=
  let skip (s : List Char) := s.dropWhile fun c => isSpace c || c = '\n'
  match s.dropWhile isSpace with
  | '\n' :: rest => some (skip rest)
  | [] => some []
  | _ => none

/-- An escape after its backslash: the characters it stands for, and the text after it. -/
def takeEscape (multiline : Bool) (s : List Char) : Option (List Char × List Char) :=
  match s with
  | 'u' :: rest =>
    if rest.length < 4 then none
    else (charOfHex? (rest.take 4)).map fun c => ([c], rest.drop 4)
  | 'U' :: rest =>
    if rest.length < 8 then none
    else (charOfHex? (rest.take 8)).map fun c => ([c], rest.drop 8)
  | c :: rest =>
    match escaped? c with
    | some d => some ([d], rest)
    | none =>
      if multiline && (isSpace c || c = '\n') then (afterLineJoin? (c :: rest)).map fun t => ([], t)
      else none
  | [] => none

/-- A quoted text after its opening quotes, and the text after its closing quotes. Up to two more
quotes before the closing three belong to a text over several lines, and its first line feed does
not. -/
def takeQuoted (delim : Char) (multiline : Bool) :
    Nat → Bool → List Char → Option (List Char × List Char)
  | 0, _, _ => none
  | fuel + 1, first, s =>
    match s with
    | [] => none
    | '\n' :: rest =>
      if multiline then
        (takeQuoted delim multiline fuel false rest).map fun (t, after) =>
          (if first then t else '\n' :: t, after)
      else none
    | c :: rest =>
      if c = delim then
        if multiline then
          let more := (rest.takeWhile (· == delim)).length
          if more ≥ 2 then
            let extra := min 2 (more - 2)
            some (List.replicate extra delim, rest.drop (2 + extra))
          else
            (takeQuoted delim multiline fuel false (rest.drop more)).map fun (t, after) =>
              (List.replicate (more + 1) delim ++ t, after)
        else some ([], rest)
      else if c = '\\' && delim = '"' then
        match takeEscape multiline rest with
        | none => none
        | some (cs, rest) =>
          (takeQuoted delim multiline fuel false rest).map fun (t, after) => (cs ++ t, after)
      else if isTextChar c then
        (takeQuoted delim multiline fuel false rest).map fun (t, after) => (c :: t, after)
      else none

/-- A quoted text after its first quote. -/
def takeString (delim : Char) (s : List Char) : Option (Token × List Char) :=
  match s with
  | c :: d :: rest =>
    if c = delim && d = delim then
      (takeQuoted delim true (rest.length + 1) true rest).map
        fun (t, after) => (.quoted t true, after)
    else if c = delim then some (.quoted [] false, d :: rest)
    else
      (takeQuoted delim false (s.length + 1) true s).map
        fun (t, after) => (.quoted t false, after)
  | [c] => if c = delim then some (.quoted [] false, []) else none
  | [] => none

/-- The next token and the text after it; the inner `none` stands for the end of the text, the
outer one for a character that starts no token. -/
def Token.next (s : List Char) : Option (Option (Token × List Char)) :=
  match s with
  | [] => some none
  | c :: rest =>
    let mark (t : Token) : Option (Option (Token × List Char)) := some (some (t, rest))
    match c with
    | '\n' => mark .newline
    | '#' => some (some (.comment, rest.dropWhile isCommentChar))
    | '=' => mark .equals
    | '.' => mark .period
    | ',' => mark .comma
    | ':' => mark .colon
    | '+' => mark .plus
    | '\x7b' => mark .leftBrace
    | '\x7d' => mark .rightBrace
    | '[' => mark .leftBracket
    | ']' => mark .rightBracket
    | '\'' => (takeString '\'' rest).map some
    | '"' => (takeString '"' rest).map some
    | c =>
      if isSpace c then some (some (.blank (s.takeWhile isSpace), s.dropWhile isSpace))
      else if isWordChar c then some (some (.word (s.takeWhile isWordChar), s.dropWhile isWordChar))
      else none

end Passcode.Toml
