import OData.Unicode.Composition
import OData.Unicode.Direction
import OData.Unicode.HostCharacter
import OData.Unicode.Joining
import OData.Url.Punycode

/-!
# Labels of host names

The parts of a host name between its dots. A label that starts with `xn--` is the code of
a label in another script, and a name is refused if one of them stands for no label in
its final form, or if writing directions meet in it that would make its order unclear.
-/

namespace OData.Url.Label

open OData.Unicode

/-- The joiners follow a mark that suppresses a vowel; the one that keeps letters apart
may also stand between two letters that would connect. `before` is the text up to here,
last character first. -/
def joinersFit (before : List Char) : List Char → Bool
  | [] => true
  | c :: cs =>
    let bound := before.head?.any (combiningClass · == 9)
    let apart := reaches joiningNext joiningBoth before && reaches joiningPrevious joiningBoth cs
    let fits :=
      if c == '\u200D' then bound
      else if c == '\u200C' then bound || apart
      else true
    fits && joinersFit (c :: before) cs

/-- Whether a text is a label in its final form. -/
def isFinal (cs : List Char) : Bool :=
  cs.all isHostCharacter && !(cs.head?.any isMark) && composed cs == cs && joinersFit [] cs

/-- The longest code that is read. -/
def codeLimit : Nat := 2000

/-- The label that a label in small ASCII letters stands for. -/
def read? (label : List Char) : Option (List Char) :=
  if "xn--".toList.isPrefixOf label then
    let code := label.drop 4
    if label.getLast? == some '-' || codeLimit < code.length then none
    else (Punycode.decode code).filter isFinal
  else some label

/-! ## Directions -/

/-- Whether a label makes the order of the names that hold it a matter of direction. -/
def turns (cs : List Char) : Bool :=
  cs.any fun c => direction c == .rightToLeft || direction c == .arabicNumber

/-- Whether a label keeps to the direction of its first letter, up to its end. -/
def keepsDirection (cs : List Char) : Bool :=
  let ds := cs.map direction
  let last := (ds.reverse.dropWhile (· == .mark)).head?
  match ds.head? with
  | none => true
  | some .leftToRight =>
    ds.all (fun d => d != .rightToLeft && d != .arabicNumber) &&
      (last == some .leftToRight || last == some .europeanNumber)
  | some .rightToLeft =>
    !(ds.contains .leftToRight) && last != some .neutral &&
      !(ds.contains .europeanNumber && ds.contains .arabicNumber)
  | some _ => false

/-- Whether a name in small ASCII letters has only labels that stand for labels. -/
def isName (name : List Char) : Bool :=
  match (name.splitOn '.').mapM read? with
  | some labels => !(labels.any turns) || labels.all keepsDirection
  | none => false

end OData.Url.Label
