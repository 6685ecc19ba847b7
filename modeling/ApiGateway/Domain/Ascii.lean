import ApiGateway.Domain.Mapping
import ApiGateway.Domain.Punycode
import ApiGateway.Unicode.BidiClass
import ApiGateway.Unicode.JoiningType
import ApiGateway.Unicode.Mark
import ApiGateway.Unicode.Normal

/-! # Domain names in ASCII

The ASCII form of a domain name: characters are mapped and normalized, each label is checked, and
labels with other than ASCII characters are written in Punycode. Hyphens are free, and neither
empty labels nor long ones are refused.
-/

namespace ApiGateway.Domain

/-- The ASCII characters that no domain name may hold. -/
def isForbidden (c : Char) : Bool :=
  c.toNat ≤ 0x20 || c.toNat = 0x7F || "#%/:<>?@[\\]^|".toList.contains c

def zeroWidthNonJoiner : Char := '\u200c'
def zeroWidthJoiner : Char := '\u200d'

/-- Whether a cursive letter that joins the next one stands, behind transparent characters, at the
end of reversed text, or one that joins the one before it at the start of text. -/
def joins (types : List Unicode.JoiningType) : Text → Bool
  | [] => false
  | c :: s =>
    match Unicode.joiningType? c with
    | some .transparent => joins types s
    | some type => types.contains type
    | none => false

/-- Joiners stand behind a virama; a non-joiner also stands between letters that would join.
`before` is the text before, in reverse. -/
def joinersFit (before : Text) : Text → Bool
  | [] => true
  | c :: after =>
    let behindVirama := before.head?.any fun d => Unicode.combiningClass d = Unicode.virama
    let fits :=
      if c = zeroWidthJoiner then behindVirama
      else if c = zeroWidthNonJoiner then
        behindVirama || (joins [.left, .dual] before && joins [.right, .dual] after)
      else true
    fits && joinersFit (c :: before) after

/-- What a label may hold after mapping and normalization. -/
def isValidLabel (label : Text) : Bool :=
  label.all (fun c => isValidChar c && !isForbidden c) &&
    !label.head?.any Unicode.marks.contains &&
    joinersFit [] label

def encodedMark : Text := "xn--"

/-- The label that an ASCII label with the mark of Punycode stands for. It has at least one
character outside ASCII and is itself in normal form. -/
def decodeLabel? (body : Text) : Option Text := do
  let label ← Punycode.decode? body
  if !Text.isAscii label ∧ Unicode.nfc label = label ∧ isValidLabel label ∧
      encodedMark.isPrefixOf? label = none then some label
  else none

/-- A label as it is checked: what it stands for, if it is in Punycode. -/
def unicodeLabel? (label : Text) : Option Text :=
  match encodedMark.isPrefixOf? label with
  | some body => if Text.isAscii body then decodeLabel? body else none
  | none => if isValidLabel label then some label else none

open Unicode (BidiClass bidiClass) in
def fitsRightToLeft (classes : List BidiClass) : Bool :=
  let allowed := [.rightToLeft, .arabicLetter, .arabicNumber, .europeanNumber, .europeanSeparator,
    .commonSeparator, .europeanTerminator, .otherNeutral, .boundaryNeutral, .nonspacingMark]
  let last := (classes.reverse.dropWhile (· = .nonspacingMark)).head?
  classes.all allowed.contains &&
    last.any [.rightToLeft, .arabicLetter, .europeanNumber, .arabicNumber].contains &&
    !(classes.contains .europeanNumber && classes.contains .arabicNumber)

open Unicode (BidiClass bidiClass) in
def fitsLeftToRight (classes : List BidiClass) : Bool :=
  let allowed := [.leftToRight, .europeanNumber, .europeanSeparator, .commonSeparator,
    .europeanTerminator, .otherNeutral, .boundaryNeutral, .nonspacingMark]
  let last := (classes.reverse.dropWhile (· = .nonspacingMark)).head?
  classes.all allowed.contains && last.any [.leftToRight, .europeanNumber].contains

/-- A label's direction is that of its first character, which has to have one. -/
def fitsDirection (label : Text) : Bool :=
  let classes := label.map Unicode.bidiClass
  match classes.head? with
  | none => true
  | some .rightToLeft => fitsRightToLeft classes
  | some .arabicLetter => fitsRightToLeft classes
  | some .leftToRight => fitsLeftToRight classes
  | some _ => false

/-- Whether a label makes its name subject to the rules on directions. -/
def hasRightToLeft (label : Text) : Bool :=
  label.any fun c => [.rightToLeft, .arabicLetter, .arabicNumber].contains (Unicode.bidiClass c)

def asciiLabel (label : Text) : Text :=
  if Text.isAscii label then label else encodedMark ++ Punycode.encode label

def toAscii? (name : Text) : Option Text := do
  let mapped ← name.mapM mapChar?
  let labels ← ((Unicode.nfc mapped.flatten).split '.').mapM unicodeLabel?
  if labels.any hasRightToLeft ∧ !labels.all fitsDirection then none
  else some (Text.join ['.'] (labels.map asciiLabel))

end ApiGateway.Domain
