import Treewalk.Text.BreakClass

/-! # Line breaking

Where a line may end. A place between two characters is judged by the classes of the character
after it and of the last one before it that is no space. Marks go with the character they combine
with, and count as letters if there is none. -/

namespace Treewalk.Text

namespace BreakClass

/-- The class ends a line by itself. -/
def endsLine (k : BreakClass) : Bool :=
  k ∈ [lineEnd, carriageReturn, lineFeed, nextLine]

/-- The class goes with the character before. -/
def combines (k : BreakClass) : Bool := k ∈ [combining, joiner]

def isLetter (k : BreakClass) : Bool := k ∈ [alphabetic, hebrew]

def isPicture (k : BreakClass) : Bool := k ∈ [ideograph, pictureBase, pictureModifier]

/-- The class is part of a Hangul syllable. -/
def isHangul (k : BreakClass) : Bool :=
  k ∈ [leadingJamo, vowelJamo, trailingJamo, openSyllable, closedSyllable]

/-- The class opens what another closes. -/
def opens (k : BreakClass) : Bool := k ∈ [opening, eastAsianOpening]

def isUnit (k : BreakClass) : Bool := k ∈ [unitBefore, unitAfter]

/-- No line starts with the class, not even after spaces. -/
def neverStarts (k : BreakClass) : Bool :=
  k ∈ [wordJoiner, closing, closingBracket, exclamation, separator, solidus]

/-- Spaces between the two classes do not part them. -/
def holdsAcross (a b : BreakClass) : Bool :=
  a.opens || (a = quotation && b.opens) ||
    (a ∈ [closing, closingBracket] && b = nonstarter) || (a = breakBoth && b = breakBoth)

/-- The two classes belong together in a number, a sum of money or the like. -/
def holdsNumber (a b : BreakClass) : Bool :=
  (a.isLetter && b = numeral) || (a = numeral && b.isLetter) ||
    (a = unitBefore && b.isPicture) || (a.isPicture && b = unitAfter) ||
    (a.isUnit && b.isLetter) || (a.isLetter && b.isUnit) ||
    (a ∈ [closing, closingBracket, numeral] && b.isUnit) ||
    (a.isUnit && (b.opens || b = numeral)) ||
    (a ∈ [hyphen, separator, numeral, solidus] && b = numeral)

/-- The two classes belong together in a Hangul syllable, or in a number of things so written. -/
def holdsSyllable (a b : BreakClass) : Bool :=
  (a = leadingJamo && b ∈ [leadingJamo, vowelJamo, openSyllable, closedSyllable]) ||
    (a ∈ [vowelJamo, openSyllable] && b ∈ [vowelJamo, trailingJamo]) ||
    (a ∈ [trailingJamo, closedSyllable] && b = trailingJamo) ||
    (a.isHangul && b = unitAfter) || (a = unitBefore && b.isHangul)

/-- The two classes belong together in a word. An opening mark goes with a letter or numeral before
it, unless it is one of East Asian writing, which is set without spaces. -/
def holdsWord (a b : BreakClass) : Bool :=
  (a.isLetter && b.isLetter) || (a = separator && b.isLetter) ||
    ((a.isLetter || a = numeral) && b = opening) ||
    (a = closingBracket && (b.isLetter || b = numeral)) ||
    (a = pictureBase && b = pictureModifier)

end BreakClass

/-- What is known of the text before a place. -/
structure Before where
  /-- The class of the last character that is no space. -/
  last : Option BreakClass
  /-- Spaces follow it. -/
  spaces : Bool
  /-- It is the first of a pair of regional indicators. -/
  firstOfPair : Bool
  /-- It is a hyphen or the like after a Hebrew letter. -/
  afterHebrew : Bool
  /-- The character just before is a joiner. -/
  joined : Bool

namespace Before

open BreakClass

/-- The start of a text. -/
def start : Before := ⟨none, false, false, false, false⟩

/-- The class combines with the character before the place. -/
def takes (b : Before) (next : BreakClass) : Bool :=
  next.combines && !b.spaces && b.last.any fun k => !k.endsLine && k ≠ zeroWidthSpace

/-- The class that counts in place of a mark that combines with nothing. -/
def resolve (next : BreakClass) : BreakClass := if next.combines then alphabetic else next

/-- A line may end between two classes that stand next to each other. -/
def mayPart (b : Before) (a next : BreakClass) : Bool :=
  if a ∈ [wordJoiner, glue] then false
  else if next = glue && a ∉ [breakAfter, hyphen] then false
  else if next.neverStarts || holdsAcross a next then false
  else if a = quotation || next = quotation then false
  else if a = contingent || next = contingent then true
  else if next ∈ [breakAfter, hyphen, nonstarter, inseparable] || a = breakBefore then false
  else if b.afterHebrew || (a = solidus && next = hebrew) then false
  else if holdsNumber a next || holdsSyllable a next || holdsWord a next then false
  else !(b.firstOfPair && next = regional)

/-- A line may end at the place, before a character of the class `next`. -/
def mayBreak (b : Before) (next : BreakClass) : Bool :=
  match b.last, b.spaces with
  | none, false => false
  | none, true =>
    !(next.endsLine || next ∈ [space, zeroWidthSpace] || (resolve next).neverStarts)
  | some a, spaces =>
    if a.endsLine && !spaces then !(a = carriageReturn && next = lineFeed)
    else if next.endsLine || next ∈ [space, zeroWidthSpace] then false
    else if a = zeroWidthSpace then true
    else if b.joined || b.takes next then false
    else if spaces then !((resolve next).neverStarts || holdsAcross a (resolve next))
    else b.mayPart a (resolve next)

/-- What is known after one more character. -/
def advance (b : Before) (next : BreakClass) : Before :=
  if b.takes next then { b with joined := next = joiner }
  else if next = space then
    { b with
      last := if b.last.any endsLine then none else b.last
      spaces := true
      joined := false }
  else
    let adjacent (k : BreakClass) : Bool := b.last = some k && !b.spaces
    { last := some (resolve next)
      spaces := false
      firstOfPair := next = regional && !(adjacent regional && b.firstOfPair)
      afterHebrew := next ∈ [breakAfter, hyphen] && adjacent hebrew
      joined := next = joiner }

end Before

/-- For each character of a text, whether a line may end before it. -/
def breaks (b : Before) : List Char → List Bool
  | [] => []
  | c :: rest =>
    let k := BreakClass.ofChar c
    b.mayBreak k :: breaks (b.advance k) rest

end Treewalk.Text
