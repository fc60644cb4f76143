import DockCheck.Text.Blank
import DockCheck.Text.LetterCase

/-!
# The base image

The base image of a Dockerfile is the word after the keyword of its first `FROM` line.
`checkBaseImage` compares it with the image that is expected, character by character.
-/

namespace DockCheck.Dockerfile

/-- Is this the keyword of a line that names a base image? -/
def isFrom (word : Text) : Bool :=
  let keyword : Text := "from"
  word.map Text.asciiLower == keyword

/-- The base image: the second word of the first line whose first word is the keyword. -/
def baseImage? : List Text → Option Text
  | [] => none
  | line :: lines =>
    match Text.words line with
    | [] => baseImage? lines
    | word :: others => if isFrom word then others.head? else baseImage? lines

end DockCheck.Dockerfile

namespace DockCheck

/-- The verdict on a base image. -/
inductive ImageStatus where
  | valid
  | invalid
  | missing
  deriving DecidableEq, Repr

/-- The word for a verdict. -/
def ImageStatus.name : ImageStatus → Text
  | .valid => "valid"
  | .invalid => "invalid"
  | .missing => "missing"

/-- The verdicts, in the order in which messages list them. -/
def ImageStatus.all : List ImageStatus := [.valid, .invalid, .missing]

/-- The outcome of the check of a base image. -/
structure ImageCheck where
  status : ImageStatus
  expected : Text
  image : Option Text
  deriving DecidableEq, Repr

/-- Did the base image pass? -/
def ImageCheck.valid (check : ImageCheck) : Bool := check.status == .valid

/-- The image as messages show it. -/
def ImageCheck.shownImage (check : ImageCheck) : Text := check.image.getD "None"

/-- The verdict in words. -/
def ImageCheck.message (check : ImageCheck) : Text :=
  match check.status with
  | .missing => "Base image not found"
  | .valid => "Base image is valid: " ++ check.shownImage
  | .invalid =>
    "Invalid base image: " ++ check.shownImage ++ ". Expected: " ++ check.expected

/-- Compares the base image of a Dockerfile with the expected one. -/
def checkBaseImage (lines : List Text) (expected : Text) : ImageCheck :=
  match Dockerfile.baseImage? lines with
  | none => ⟨.missing, expected, none⟩
  | some image => ⟨if image = expected then .valid else .invalid, expected, some image⟩

end DockCheck
