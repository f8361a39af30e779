import SceneMarkup.Picture.Token

/-!
# Pictures within a document

Pictures of one document share its identifiers, so each one gets a suffix of its own.

* `withoutProlog`: a picture without the declarations in front of its root;
* `body`: a picture without those and without white space at its end;
* `inlined`: the body with a suffix to every identifier and every reference to one.
-/

namespace SceneMarkup.Picture

/-- What follows the first occurrence of a text in another one. -/
def afterFirst? (pattern : List Char) : List Char → Option (List Char)
  | [] => after? pattern []
  | c :: text =>
    match after? pattern (c :: text) with
    | some rest => some rest
    | none => afterFirst? pattern text

/-- A text without what begins and ends in a given way; the text, if it does not begin or never ends
so. -/
def withoutSection (opening closing text : List Char) : List Char :=
  ((after? opening text).bind (afterFirst? closing)).getD text

/-- A picture without the declarations in front of its root, and without blanks around those. -/
def withoutProlog (text : List Char) : List Char :=
  let text := withoutSection "<?xml".toList "?>".toList (text.dropWhile isBlank)
  let text := withoutSection "<!DOCTYPE".toList ">".toList (text.dropWhile isBlank)
  text.dropWhile isBlank

/-- What of a picture is shown. -/
def body (text : List Char) : List Char := Unicode.trimEnd (withoutProlog text)

/-- What of a picture is shown, with a suffix to its names. -/
def inlinedChars (text suffix : List Char) : List Char :=
  (tokens (body text)).flatMap fun token => (token.rename suffix).chars

/-- What of a picture is shown, with a suffix to its names. -/
def inlined (picture suffix : String) : String :=
  String.ofList (inlinedChars picture.toList suffix.toList)

end SceneMarkup.Picture
