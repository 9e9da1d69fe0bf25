import Passcode.Proofs.Message.Markup
import Passcode.Proofs.Service.Lifetime

/-!
# The two bodies of a message

The marked-up body of a message is one paragraph with the code set off. Read as what it is, it shows
the plain body if the name of the product is plain text; a name with something in it that is markup
is not shown as it is, since names are written into both bodies unchanged.

## Main definitions

* `Markup.paragraph` — a paragraph with one part set off

## Main statements

* `Template.read_html_of_isPlain` — the marked-up body is such a paragraph
* `Template.bodies_agree_iff` — when both bodies say the same
-/

namespace Passcode

open Markup

/-- The pieces of a paragraph of text in which one part, and nothing else, is set off. -/
def Markup.paragraph (before strong after : List Char) : List Piece :=
  .tag "p".toList :: (before.map .char ++ .tag "strong".toList :: (strong.map .char
    ++ .tag "/strong".toList :: (after.map .char ++ [.tag "/p".toList])))

theorem Markup.shown_paragraph (before strong after : List Char) :
    shown (paragraph before strong after) = before ++ strong ++ after := by
  simp [paragraph, shown_append]

/-- The text of a tag. -/
def Markup.tagText (inner : String) : String := "<" ++ inner ++ ">"

theorem Markup.toList_tagText (inner : String) :
    (tagText inner).toList = '<' :: inner.toList ++ ['>'] := by
  have hless : "<".toList = ['<'] := by decide
  have hgreater : ">".toList = ['>'] := by decide
  rw [tagText, String.toList_append, String.toList_append, hless, hgreater, List.singleton_append]

/-- The text of a tag is read as that tag. -/
theorem Markup.read_tagText {inner : String} (hopens : inner.toList.head?.any opensTag = true)
    (hclose : '>' ∉ inner.toList) (t : List Char) :
    read none ((tagText inner).toList ++ t) = .tag inner.toList :: read none t := by
  rw [toList_tagText, List.append_assoc, List.singleton_append, read_tag hopens hclose]

namespace Template

variable (t : Template) (code : Code)

/-- What a message says before the code. -/
def lead : String := "Your " ++ t.productName ++ " verification code is "

/-- What a message says after the code. -/
def tail : String := ". " ++ t.validity

/-- The marked-up body from the code on. -/
def markedCode : List Char :=
  code.text.toList ++ ((tagText "/strong").toList ++ (t.tail.toList ++ (tagText "/p").toList))

/-- The marked-up body after the blank that follows the name of the product. -/
def markedRest : List Char :=
  "verification code is ".toList ++ ((tagText "strong").toList ++ t.markedCode code)

theorem text_render (identity : String) :
    (t.render identity code).text = t.lead ++ code.text ++ t.tail := by
  simp only [render, lead, tail, String.append_assoc]

theorem html?_render (identity : String) : ∃ html, (t.render identity code).html? = some html
    ∧ html.toList = (tagText "p").toList
      ++ ("Your ".toList ++ (t.productName.toList ++ ' ' :: t.markedRest code)) := by
  have hstart : "<p>Your " = tagText "p" ++ "Your " := by decide
  have hopen : " verification code is <strong>" = " verification code is " ++ tagText "strong" := by
    decide
  have hclose : "</strong>. " = tagText "/strong" ++ ". " := by decide
  have hend : "</p>" = tagText "/p" := by decide
  have hblank : " verification code is ".toList = ' ' :: "verification code is ".toList := by
    decide
  refine ⟨_, rfl, ?_⟩
  unfold markedRest markedCode
  rw [hstart, hopen, hclose, hend, tail]
  simp only [String.toList_append, hblank, List.append_assoc, List.cons_append]

theorem not_mem_code : '<' ∉ code.text.toList ∧ '&' ∉ code.text.toList := by
  rw [Code.text, String.toList_ofList]
  constructor <;> exact fun h => absurd (Json.isDigit_of_mem_toDigits h) (by decide)

theorem not_mem_tail : '<' ∉ t.tail.toList ∧ '&' ∉ t.tail.toList := by
  rw [tail, validity_eq, String.toList_append]
  cases t.announcement with
  | never => exact ⟨by decide, by decide⟩
  | minutes n =>
    have hnumber : '<' ∉ (toString n).toList ∧ '&' ∉ (toString n).toList := by
      constructor <;> exact fun h => absurd (Text.isDigit_of_mem_toString h) (by decide)
    have hunit : '<' ∉ (Announcement.unit n).toList ∧ '&' ∉ (Announcement.unit n).toList := by
      unfold Announcement.unit
      split <;> exact ⟨by decide, by decide⟩
    rw [Announcement.toList_sentence_minutes]
    simp only [List.mem_append, not_or]
    exact ⟨⟨by decide, ⟨by decide, hnumber.1⟩, hunit.1⟩,
      ⟨by decide, ⟨by decide, hnumber.2⟩, hunit.2⟩⟩

/-- After the name of the product the paragraph goes on to the code. -/
theorem read_markedRest : read none (' ' :: t.markedRest code)
    = " verification code is ".toList.map .char ++ .tag "strong".toList
      :: read none (t.markedCode code) := by
  have hblank : ' ' :: "verification code is ".toList = " verification code is ".toList := by
    decide
  unfold markedRest
  rw [← List.cons_append, hblank, read_append_of_not_mem (by decide) (by decide),
    read_tagText (by decide) (by decide)]

/-- From the code on the paragraph is as it should be. -/
theorem read_markedCode : read none (t.markedCode code)
    = code.text.toList.map .char ++ .tag "/strong".toList
      :: (t.tail.toList.map .char ++ [.tag "/p".toList]) := by
  have hend : read none (tagText "/p").toList = [.tag "/p".toList] := by decide
  unfold markedCode
  rw [read_append_of_not_mem (not_mem_code code).1 (not_mem_code code).2,
    read_tagText (by decide) (by decide),
    read_append_of_not_mem (not_mem_tail t).1 (not_mem_tail t).2, hend]

/-- A tag that is open after the name of the product swallows some of the paragraph. -/
theorem length_shown_some_le (inner : List Char) :
    (shown (read (some inner) (' ' :: t.markedRest code))).length
      ≤ (shown (read none (' ' :: t.markedRest code))).length := by
  have hclose : ' ' :: t.markedRest code
      = " verification code is <strong".toList ++ '>' :: t.markedCode code := by
    have htexts : ' ' :: ("verification code is ".toList ++ (tagText "strong").toList)
        = " verification code is <strong".toList ++ ['>'] := by decide
    unfold markedRest
    rw [← List.append_assoc, ← List.cons_append, htexts, List.append_assoc, List.singleton_append]
  rw [read_markedRest, hclose, read_some_append (by decide), shown_tag, shown_append, shown_tag,
    List.length_append]
  exact Nat.le_add_left _ _

/-- What the marked-up body shows, but for the name of the product, is what the plain body says. -/
theorem toList_text (identity : String) : (t.render identity code).text.toList
    = "Your ".toList ++ (t.productName.toList ++ shown (read none (' ' :: t.markedRest code))) := by
  rw [text_render, read_markedRest, read_markedCode, lead]
  simp only [String.toList_append, shown_append, shown_map_char, shown_tag, shown_nil,
    List.append_assoc, List.append_nil]

/-- The marked-up body, read. -/
theorem read_html {identity html : String} (h : (t.render identity code).html? = some html) :
    read none html.toList = .tag "p".toList :: ("Your ".toList.map .char
      ++ read none (t.productName.toList ++ ' ' :: t.markedRest code)) := by
  obtain ⟨html', hhtml, hread⟩ := t.html?_render code identity
  rw [Option.some_inj.1 (h.symm.trans hhtml), hread, read_tagText (by decide) (by decide),
    read_append_of_not_mem (by decide) (by decide)]

/-- With a name that is plain text, the marked-up body is the paragraph that it should be. -/
theorem read_html_of_isPlain {identity html : String} (hplain : IsPlain t.productName.toList)
    (h : (t.render identity code).html? = some html) :
    read none html.toList = paragraph t.lead.toList code.text.toList t.tail.toList := by
  rw [read_html t code h, read_append_of_isPlain hplain, read_markedRest, read_markedCode,
    paragraph, lead, String.toList_append, String.toList_append, List.map_append, List.map_append]
  simp only [List.append_assoc]

/-- With any other name, it shows less than the plain body says. -/
theorem length_shown_html_lt {identity html : String} (hplain : ¬IsPlain t.productName.toList)
    (h : (t.render identity code).html? = some html) :
    (shown (read none html.toList)).length < (t.render identity code).text.toList.length := by
  have hless := length_shown_lt (t.length_shown_some_le code) hplain
  rw [read_html t code h, toList_text, shown_tag, shown_append, shown_map_char,
    List.length_append, List.length_append, List.length_append]
  omega

/-- **Both bodies of a message say the same exactly if the name of the product is plain text**, and
then, and only then, the marked-up body is a paragraph in which the code and nothing else is set
off. -/
theorem bodies_agree_iff (identity : String) : ∃ html, (t.render identity code).html? = some html ∧
    (shown (read none html.toList) = (t.render identity code).text.toList
      ↔ IsPlain t.productName.toList) ∧
    (read none html.toList = paragraph t.lead.toList code.text.toList t.tail.toList
      ↔ IsPlain t.productName.toList) := by
  obtain ⟨html, hhtml, -⟩ := t.html?_render code identity
  have htext : shown (paragraph t.lead.toList code.text.toList t.tail.toList)
      = (t.render identity code).text.toList := by
    rw [shown_paragraph, text_render, String.toList_append, String.toList_append]
  have hagree (h : shown (read none html.toList) = (t.render identity code).text.toList) :
      IsPlain t.productName.toList := by
    by_contra hplain
    exact (t.length_shown_html_lt code hplain hhtml).ne (congrArg List.length h)
  refine ⟨html, hhtml, ⟨hagree, fun hplain => ?_⟩, ⟨fun h => hagree ?_, fun hplain => ?_⟩⟩
  · rw [t.read_html_of_isPlain code hplain hhtml, htext]
  · rw [h, htext]
  · exact t.read_html_of_isPlain code hplain hhtml

/-- A name in bold is written into the marked-up body as it is, and the tags around it are not
shown. -/
theorem bold_name_is_not_shown :
    let t : Template := { productName := "<b>Acme</b>" }
    let message := t.render "a@x.com" (Code.ofDraw 23456)
    message.text
        = "Your <b>Acme</b> verification code is 123456. It is valid for 10 minutes." ∧
    message.html?.map (fun html => String.ofList (shown (read none html.toList)))
        = some "Your Acme verification code is 123456. It is valid for 10 minutes." := by
  decide

end Template

end Passcode
