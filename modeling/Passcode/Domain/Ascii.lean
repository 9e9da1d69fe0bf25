import Passcode.Domain.Label
import Passcode.Domain.Mapping
import Passcode.Domain.Punycode

/-!
# Domains in ASCII

The names of hosts are known by names in ASCII. `asciiForm?` finds that of a domain in any script:
characters are replaced by what they stand for, the text is composed, and labels outside ASCII are
carried by labels within it, which `carrierMark` tells from others. A label that is already carried
has to be one that this would give.
-/

namespace Passcode.Domain

open Passcode.Text (splitOn)

/-- What the labels start with that carry others. -/
def carrierMark : List Char := "xn--".toList

/-- A label as it is read and as it is carried. -/
structure Label where
  text : List Char
  carried : List Char
deriving Repr, DecidableEq

/-- The label that a carrier stands for. -/
def Label.ofCarrier? (carrier : List Char) : Option Label := do
  let text ← ofPunycode? (carrier.drop carrierMark.length)
  guard (!text.all isAscii && meaningOf? text = some text && composed text = text)
  return ⟨text, carrier⟩

/-- A label from the text between two points. -/
def Label.ofText? (s : List Char) : Option Label :=
  if carrierMark.isPrefixOf s then Label.ofCarrier? s
  else if s.all isAscii then some ⟨s, s⟩
  else some ⟨s, carrierMark ++ punycode s⟩

/-- Whether a label may be one of a domain: it does not start with a mark, and joiners stand only
where they show. -/
def Label.isSound (label : Label) : Bool :=
  !label.text.head?.any isMark && areJoinersPlaced [] label.text

/-- Whether labels may stand together. -/
def areOrdered (labels : List Label) : Bool :=
  !labels.any (fun label => hasRight label.text) || labels.all fun label => isOrdered label.text

/-- The name in ASCII of a domain. -/
def asciiForm? (domain : List Char) : Option (List Char) := do
  let meaning ← meaningOf? domain
  let labels ← (splitOn '.' (composed meaning)).mapM Label.ofText?
  guard (labels.all Label.isSound && areOrdered labels)
  return ['.'].intercalate (labels.map Label.carried)

end Passcode.Domain
