import Std.Data.TreeMap
import Std.Data.TreeSet
import SceneMarkup.Options
import SceneMarkup.Unicode.WhiteSpace

/-!
# Fonts

* `weight`, `isItalic`: what the name of a font style says;
* `FontSet`: font families with the weights of each, both in ascending order;
* `FontSet.add`: a family and a weight, unless the options leave the family out;
* `FontSet.url?`: the address of a request for the fonts.
-/

namespace SceneMarkup.Typography

/-- Names of weights. Compound names come first, since they contain others. -/
def weightNames : List (String × Nat) :=
  [("hairline", 100), ("thin", 100), ("extralight", 200), ("ultralight", 200), ("semibold", 600),
    ("demibold", 600), ("extrabold", 800), ("ultrabold", 800), ("light", 300), ("medium", 500),
    ("bold", 700), ("black", 900), ("heavy", 900)]

/-- The weight of letters that no name gives another one. -/
def regularWeight : Nat := 400

/-- The weight that a font style names, whatever its case, blanks and hyphens. -/
def weight (style : String) : Nat :=
  let name := (Unicode.lowerCase style.toList).filter fun c => !Unicode.isWhiteSpace c && c != '-'
  match weightNames.find? fun entry => Text.occurs entry.1.toList name with
  | some entry => entry.2
  | none => regularWeight

/-- The font style names a slant. -/
def isItalic (style : String) : Bool :=
  let name := Unicode.lowerCase style.toList
  Text.occurs "italic".toList name || Text.occurs "oblique".toList name

/-- Font families and the weights of each. -/
structure FontSet where
  families : Std.TreeMap String (Std.TreeSet Nat) := {}

namespace FontSet

instance : Inhabited FontSet := ⟨{}⟩

def isEmpty (fonts : FontSet) : Bool := fonts.families.isEmpty

/-- A family that is requested: fonts are, the name is not blank, and it marks no icon font. -/
def requests (options : Options) (family : String) : Bool :=
  options.includeFonts && !Unicode.isBlank family && !options.isIconFont family

/-- One weight more for a family. -/
def insert (fonts : FontSet) (family : String) (weight : Nat) : FontSet :=
  ⟨fonts.families.insert family ((fonts.families.getD family {}).insert weight)⟩

/-- One weight more for a family that is requested. -/
def add (options : Options) (fonts : FontSet) (family : String) (weight : Nat) : FontSet :=
  if requests options family then fonts.insert family weight else fonts

/-- The families and their weights, both in ascending order. -/
def toList (fonts : FontSet) : List (String × List Nat) :=
  fonts.families.toList.map fun entry => (entry.1, entry.2.toList)

/-- Where fonts are requested. -/
def origin : String := "https://fonts.googleapis.com"

/-- Where font files come from. -/
def fileOrigin : String := "https://fonts.gstatic.com"

/-- A family name in an address: a blank is a plus sign, all else stands as it is. -/
def familyText (family : String) : String := family.map fun c => if c = ' ' then '+' else c

/-- The part of an address that requests a family. -/
def familyQuery (entry : String × List Nat) : String :=
  "family=" ++ familyText entry.1 ++ ":wght@" ++ ";".intercalate (entry.2.map toString)

/-- The address of a request for all families, if there are any. -/
def url? (fonts : FontSet) : Option String :=
  if fonts.isEmpty then none
  else
    some (origin ++ "/css2?" ++ "&".intercalate (fonts.toList.map familyQuery) ++ "&display=swap")

end FontSet

end SceneMarkup.Typography
