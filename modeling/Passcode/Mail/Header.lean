import Passcode.Mail.Mailbox
import Passcode.Text.Base64

/-!
# Header lines

A header line is written from left to right. Blanks between words are held back until the next
word is written, so a line that would grow too long can be folded before them: the word then starts
a new line, which begins with the blanks. Text outside ASCII is written in encoded words, each of
which fits on its line.
-/

namespace Passcode.Mail

open Passcode.Text (base64 splitOn utf8Bytes)

/-- The end of a line of a message. -/
def lineEnd : String := "\r\n"

/-- The longest line that folding leaves, in bytes. -/
def maxLine : Nat := 76

/-- A header that is being written: the text so far, the length of its last line, the blanks that
are held back, and whether the last line has something of the value that could be folded after. -/
structure HeaderWriter where
  text : String
  column : Nat
  blanks : Nat
  canFold : Bool
deriving Repr, DecidableEq

namespace HeaderWriter

/-- A header of which only the name is written. -/
def ofName (name : String) : HeaderWriter := ⟨name ++ ": ", name.length + 2, 0, false⟩

/-- Hold back one more blank. -/
def blank (w : HeaderWriter) : HeaderWriter := { w with blanks := w.blanks + 1 }

/-- Hold back some more blanks. -/
def blankMany (w : HeaderWriter) (count : Nat) : HeaderWriter :=
  { w with blanks := w.blanks + count }

/-- Write the blanks that are held back, and then some ASCII text. -/
def put (w : HeaderWriter) (s : List Char) : HeaderWriter where
  text := w.text ++ String.ofList (List.replicate w.blanks ' ' ++ s)
  column := w.column + w.blanks + s.length
  blanks := 0
  canFold := true

/-- Start a new line. -/
def newLine (w : HeaderWriter) : HeaderWriter :=
  { w with text := w.text ++ lineEnd, column := 0, canFold := false }

/-- Write a word, on a new line if it does not fit and there is a blank to fold at. -/
def putWord (w : HeaderWriter) (word : List Char) : HeaderWriter :=
  if word = [] then w
  else if w.canFold && w.blanks ≥ 1 && w.column + w.blanks + word.length > maxLine then
    w.newLine.put word
  else w.put word

/-- Write words with blanks between them. -/
def putFolded (w : HeaderWriter) (s : List Char) : HeaderWriter :=
  match splitOn ' ' s with
  | [] => w
  | first :: more => more.foldl (fun w word => w.blank.putWord word) (w.putWord first)

/-- The whole header. -/
def finish (w : HeaderWriter) : String := (w.put []).text ++ lineEnd

end HeaderWriter

/-! ## Encoded words -/

/-- What an encoded word starts with. -/
def encodedMark : List Char := "=?utf-8?b?".toList

/-- What an encoded word ends with. -/
def encodedEnd : List Char := "?=".toList

/-- The first characters of a text that have at most `room` bytes together, and those after. -/
def takeFitting : Nat → List Char → List Char × List Char
  | _, [] => ([], [])
  | room, c :: s =>
    if c.utf8Size ≤ room then
      let (taken, rest) := takeFitting (room - c.utf8Size) s
      (c :: taken, rest)
    else ([], c :: s)

theorem length_takeFitting (room : Nat) (s : List Char) :
    (takeFitting room s).2.length ≤ s.length := by
  fun_induction takeFitting room s with
  | case1 => simp
  | case2 room c s h taken rest hr ih => simp only [hr, List.length_cons] at ih ⊢; omega
  | case3 => simp

namespace HeaderWriter

/-- The number of bytes that an encoded word can hold on the current line, with the end of the line.
The blanks before it are not counted. -/
def room (w : HeaderWriter) : Nat :=
  (maxLine - (encodedMark.length + encodedEnd.length + lineEnd.length + w.column)) / 4 * 3

/-- A new line that starts with a blank. -/
def continuation (w : HeaderWriter) : HeaderWriter :=
  { w.newLine with blanks := max 1 w.blanks }

/-- Write a text in encoded words. A further one, or one after a blank, goes to a new line if
nothing fits on the current one; and an encoded word holds at least one character. -/
def putEncoded (isFirst : Bool) (w : HeaderWriter) (s : List Char) : HeaderWriter :=
  match s with
  | [] => w
  | c :: s =>
    let w := if c.utf8Size > w.room && (!isFirst || w.blanks > 0) then w.continuation else w
    let chunk := takeFitting (w.room - c.utf8Size) s
    putEncoded false
      (w.put (encodedMark ++ base64 (utf8Bytes (c :: chunk.1)) ++ encodedEnd)) chunk.2
termination_by s.length
decreasing_by exact Nat.lt_succ_of_le (length_takeFitting _ _)

end HeaderWriter

/-! ## Free text -/

/-- Whether a character can stand in a header as it is. -/
def isHeaderChar (c : Char) : Bool :=
  1 ≤ c.toNat && c.toNat ≤ 0x7f && c ≠ '\n' && c ≠ '\r'

/-- A text cut after every blank. -/
def wordsWithBlanks : List Char → List (List Char)
  | [] => []
  | c :: s =>
    if c = ' ' then [c] :: wordsWithBlanks s
    else
      match wordsWithBlanks s with
      | [] => [[c]]
      | word :: words => (c :: word) :: words

/-- Free text that is being written: the header, and the words that wait to be encoded together. -/
structure FreeText where
  writer : HeaderWriter
  waiting : List Char

namespace FreeText

/-- Encode the words that wait. The blanks after them are written as they are. -/
def flush (t : FreeText) : HeaderWriter :=
  let kept := (t.waiting.reverse.dropWhile (· = ' ')).reverse
  (t.writer.putEncoded true kept).blankMany (t.waiting.length - kept.length)

/-- Take the next word. -/
def take (t : FreeText) (word : List Char) : FreeText :=
  if word.all isHeaderChar then ⟨t.flush.putFolded word, []⟩
  else { t with waiting := t.waiting ++ word }

end FreeText

/-- Write free text, such as a subject. Words that can stand as they are do so; neighbours that
cannot share encoded words. -/
def HeaderWriter.putText (w : HeaderWriter) (s : List Char) : HeaderWriter :=
  ((wordsWithBlanks s).foldl FreeText.take ⟨w, []⟩).flush

/-! ## Mailboxes -/

/-- Whether a character of a name needs no quotes. -/
def isPlainInName (c : Char) : Bool := c.isAlphanum || c = '-' || c = '_' || c = '.'

/-- Whether a character of a name can stand between quotes. -/
def isQuotableInName (c : Char) : Bool := isPlainInName c || c = ' ' || c = '"' || c = '\\'

/-- A text with a backslash before every quote and every backslash. -/
def escapeQuotes (s : List Char) : List Char :=
  s.flatMap fun c => if c = '"' || c = '\\' then ['\\', c] else [c]

/-- Write the quoted part of a name. Where something has to be escaped, every character is written
by itself, so a line is folded only after it is full. -/
def HeaderWriter.putQuoted (w : HeaderWriter) (name : List Char) : HeaderWriter :=
  if escapeQuotes name = name then w.putFolded name
  else (escapeQuotes name).foldl (fun w c => w.putFolded [c]) w

/-- Write the name of a mailbox. -/
def HeaderWriter.putName (w : HeaderWriter) (name : List Char) : HeaderWriter :=
  if name.all isPlainInName then w.putFolded name
  else if name.all isQuotableInName then ((w.put ['"']).putQuoted name).put ['"']
  else w.putEncoded true name

/-- Write a mailbox. -/
def HeaderWriter.putMailbox (w : HeaderWriter) (m : Mailbox) : HeaderWriter :=
  match m.name? with
  | none => w.put m.address.text.toList
  | some name => ((w.putName name.toList).blank).put ('<' :: m.address.text.toList ++ ['>'])

end Passcode.Mail
