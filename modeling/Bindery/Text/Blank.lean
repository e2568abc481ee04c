/-
This file holds closed spans of code points, the form in which the tables of character classes are
written, and the class of blank characters, which surround a value without belonging to it, with
the two ways of cutting them off. A class is a list of spans in increasing order, and a character
belongs to it when one of them contains its code point. Besides the white space of layout the
blanks include the four separators U+001C to U+001F and the blanks of other scripts, but no
zero-width character.
-/

namespace Bindery.Text

/-- The first and the last code point of a run of characters. -/
abbrev Span := Nat × Nat

/-- Both ends belong to the span. -/
def Span.contains (span : Span) (code : Nat) : Bool :=
  decide (span.1 ≤ code) && decide (code ≤ span.2)

/-- Membership in a class given by its spans. -/
def inSpans (spans : List Span) (c : Char) : Bool :=
  spans.any fun span => span.contains c.toNat

/-- Blank characters by code point. -/
def blankSpans : List Span := [
  (0x9, 0xD), (0x1C, 0x20), (0x85, 0x85), (0xA0, 0xA0), (0x1680, 0x1680), (0x2000, 0x200A),
  (0x2028, 0x2029), (0x202F, 0x202F), (0x205F, 0x205F), (0x3000, 0x3000)]

/-- Whether a character is blank. -/
def isBlank (c : Char) : Bool := inSpans blankSpans c

/-- The text without the blanks at its end. -/
def dropBlankEnd (text : List Char) : List Char :=
  (text.reverse.dropWhile isBlank).reverse

/-- The text without the blanks at both ends. -/
def trimBlank (text : List Char) : List Char :=
  dropBlankEnd (text.dropWhile isBlank)

/-- The text without the blanks at its end. -/
def trimEnd (text : String) : String := String.ofList (dropBlankEnd text.toList)

/-- Whether the text holds nothing but blanks. -/
def allBlank (text : String) : Bool := text.toList.all isBlank

end Bindery.Text
