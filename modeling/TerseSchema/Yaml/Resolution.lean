import TerseSchema.Text.Pattern
/-!
# Tags of plain scalars

The text of a plain scalar decides what it is: the first rule whose pattern it matches, of those
for its first character. A text that no rule matches is a string.
-/

namespace TerseSchema.Yaml

open TerseSchema.Text

/-! ## Tags -/

def standardAddress : String := "tag:yaml.org,2002:"

def standardTag (name : String) : String := standardAddress ++ name

def nullTag : String := standardTag "null"
def boolTag : String := standardTag "bool"
def intTag : String := standardTag "int"
def floatTag : String := standardTag "float"
def binaryTag : String := standardTag "binary"
def timestampTag : String := standardTag "timestamp"
def omapTag : String := standardTag "omap"
def pairsTag : String := standardTag "pairs"
def setTag : String := standardTag "set"
def strTag : String := standardTag "str"
def seqTag : String := standardTag "seq"
def mapTag : String := standardTag "map"
def mergeTag : String := standardTag "merge"
def valueTag : String := standardTag "value"
def indicatorTag : String := standardTag "yaml"

/-! ## Patterns -/

section
open Pattern

def digit : Pattern := .char [('0', '9')]

def digitOrUnderscore : Pattern := .char [('0', '9'), ('_', '_')]

def sign : Pattern := optionally (oneOf "-+")

def sixtieths : Pattern :=
  atLeastOnce (sequence [literally ":", optionally (.char [('0', '5')]), digit])

def floatExponent : Pattern :=
  optionally (sequence [oneOf "eE", oneOf "-+", atLeastOnce digit])

/-- A number with a decimal point. An exponent has a sign, and digits after a leading
point have none before it. -/
def floatPattern : Pattern := oneOfAll [
  sequence [sign, digit, .star digitOrUnderscore, literally ".",
    .star digitOrUnderscore, floatExponent],
  sequence [literally ".", digit, .star digitOrUnderscore, floatExponent],
  sequence [sign, digit, .star digitOrUnderscore, sixtieths, literally ".",
    .star digitOrUnderscore],
  sequence [sign, literally ".", words ["inf", "Inf", "INF"]],
  sequence [literally ".", words ["nan", "NaN", "NAN"]]]

def intPattern : Pattern := oneOfAll [
  sequence [sign, literally "0b", atLeastOnce (.char [('0', '1'), ('_', '_')])],
  sequence [sign, literally "0", atLeastOnce (.char [('0', '7'), ('_', '_')])],
  sequence [sign, literally "0"],
  sequence [sign, .char [('1', '9')], .star digitOrUnderscore],
  sequence [sign, literally "0x",
    atLeastOnce (.char [('0', '9'), ('a', 'f'), ('A', 'F'), ('_', '_')])],
  sequence [sign, .char [('1', '9')], .star digitOrUnderscore, sixtieths]]

def timestampPattern : Pattern := oneOfAll [
  sequence [digit, digit, digit, digit, literally "-", digit, digit,
    literally "-", digit, digit],
  sequence [digit, digit, digit, digit, literally "-", digit, optionally digit, literally "-",
    digit, optionally digit, .alt (oneOf "Tt") (atLeastOnce (oneOf " \t")),
    digit, optionally digit, literally ":", digit, digit, literally ":", digit, digit,
    optionally (.seq (literally ".") (.star digit)),
    optionally (.seq (.star (oneOf " \t")) (.alt (literally "Z")
      (sequence [oneOf "-+", digit, optionally digit,
        optionally (sequence [literally ":", digit, digit])])))]]

end

/-! ## Rules -/

structure ScalarRule where
  tag : String
  /-- The first characters to which the rule applies; none stands for the empty text. -/
  first : List (Option CodePoint)
  pattern : Pattern

def startingWith (s : String) : List (Option CodePoint) :=
  s.toList.map fun c => some (.char c)

def classicRules : List ScalarRule := [
  ⟨boolTag, startingWith "yYnNtTfFoO",
    .words ["yes", "Yes", "YES", "no", "No", "NO", "true", "True",
      "TRUE", "false", "False", "FALSE", "on", "On", "ON", "off", "Off", "OFF"]⟩,
  ⟨floatTag, startingWith "-+0123456789.", floatPattern⟩,
  ⟨intTag, startingWith "-+0123456789", intPattern⟩,
  ⟨mergeTag, startingWith "<", .literally "<<"⟩,
  ⟨nullTag, none :: startingWith "~nN", .words ["~", "null", "Null", "NULL", ""]⟩,
  ⟨timestampTag, startingWith "0123456789", timestampPattern⟩,
  ⟨valueTag, startingWith "=", .literally "="⟩,
  ⟨indicatorTag, startingWith "!&*", .words ["!", "&", "*"]⟩]

/-- The rule for truth values, of which there are only the words for true and false. -/
def boolRule : ScalarRule :=
  ⟨boolTag, startingWith "tTfF", .words ["true", "True", "TRUE", "false", "False", "FALSE"]⟩

/-- The rules in force: no dates, and only words for true and false as truth values. -/
def scalarRules : List ScalarRule :=
  classicRules.filter (fun r => r.tag != boolTag && r.tag != timestampTag) ++ [boolRule]

def resolveWith (rules : List ScalarRule) (text : Text) : String :=
  match rules.find? fun r => r.first.contains text.head? && r.pattern.matchesLine text with
  | some r => r.tag
  | none => strTag

def resolve (text : Text) : String := resolveWith scalarRules text

end TerseSchema.Yaml
