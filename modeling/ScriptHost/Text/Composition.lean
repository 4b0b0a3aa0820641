import ScriptHost.Text.CodeTable
import ScriptHost.Text.CompositionTables

/-!
The composed form of a text: characters are taken apart, marks are put in the order of their classes,
and what can be put together is. Syllables of the Korean script are counted rather than listed.
-/
namespace ScriptHost.Text

def decompositions : CodeTable := .ofText decompositionText

def compositions : CodeTable := .ofText compositionText

def markClasses : CodeTable := .ofText markClassText

/-- The class of a mark; letters have class zero. -/
def markClass (char : Char) : Nat :=
  if char.toNat < 0x300 then 0 else (markClasses.value? char).getD 0

namespace Syllable

/-- The first syllable, leading consonant, vowel and trailing consonant; the trailing consonants are
counted from none at all. -/
def first : Nat := 0xAC00

def firstLeading : Nat := 0x1100

def firstVowel : Nat := 0x1161

def beforeTrailing : Nat := 0x11A7

def leadings : Nat := 19

def vowels : Nat := 21

def trailings : Nat := 28

/-- The parts of a syllable. -/
def parts? (char : Char) : Option (List Char) :=
  let index := char.toNat - first
  if first ≤ char.toNat ∧ index < leadings * vowels * trailings then
    let front := [firstLeading + index / (vowels * trailings),
      firstVowel + index / trailings % vowels]
    let trailing := index % trailings
    some ((if trailing = 0 then front else front ++ [beforeTrailing + trailing]).map Char.ofNat)
  else none

/-- The syllable of two parts: of a consonant and a vowel, or of a syllable without a trailing
consonant and one. -/
def ofParts? (front behind : Char) : Option Char :=
  let leading := front.toNat - firstLeading
  let vowel := behind.toNat - firstVowel
  let index := front.toNat - first
  let trailing := behind.toNat - beforeTrailing
  if firstLeading ≤ front.toNat ∧ leading < leadings ∧ firstVowel ≤ behind.toNat ∧
      vowel < vowels then
    some (Char.ofNat (first + (leading * vowels + vowel) * trailings))
  else if first ≤ front.toNat ∧ index < leadings * vowels * trailings ∧ index % trailings = 0 ∧
      beforeTrailing < behind.toNat ∧ trailing < trailings then
    some (Char.ofNat (front.toNat + trailing))
  else none

end Syllable

/-- The parts of a character, itself alone if it has none. -/
def decompose (char : Char) : List Char :=
  if char.toNat < 0xC0 then [char]
  else ((Syllable.parts? char).or (decompositions.image? char)).getD [char]

/-- The character of two parts. -/
def compose? (front behind : Char) : Option Char :=
  (Syllable.ofParts? front behind).or (compositions.source? front behind)

/-- Put a character in front of an ordered text; a mark goes behind those of lower classes. -/
def insertMark (char : Char) : List Char → List Char
  | [] => [char]
  | next :: rest =>
    if 0 < markClass next ∧ markClass next < markClass char then next :: insertMark char rest
    else char :: next :: rest

/-- Put together what follows a letter with it. Marks that stay are kept in reverse; one of them
keeps off all that follow in its own class or a lower one. -/
def composeBehind (letter : Char) (marks : List Char) : List Char → List Char
  | [] => letter :: marks.reverse
  | char :: rest =>
    let isFree := match marks with
      | [] => true
      | mark :: _ => markClass mark < markClass char
    match if isFree then compose? letter char else none with
    | some joined => composeBehind joined marks rest
    | none =>
      if markClass char = 0 then letter :: marks.reverse ++ composeBehind char [] rest
      else composeBehind letter (char :: marks) rest

/-- Put together what can be. Marks in front of all letters stay alone. -/
def composeOrdered : List Char → List Char
  | [] => []
  | char :: rest =>
    if markClass char = 0 then composeBehind char [] rest else char :: composeOrdered rest

/-- The composed form of a text. -/
def compose (chars : List Char) : List Char :=
  composeOrdered ((chars.flatMap decompose).foldr insertMark [])

end ScriptHost.Text
