import DockCheck.Dockerfile.BaseImage
import DockCheck.Proofs.Traversal

/-!
# The base image of a file

The base image is what the first line that opens with the keyword `FROM` says.  `NamesImage` is
this as a relation between lines and an image, and `valid_checkBaseImage_iff` says that the check
passes exactly if the lines name the expected image.
-/

namespace DockCheck

namespace Dockerfile

/-- The first word of the line is the keyword, in any letter case. -/
def IsFromLine (line : Text) : Prop :=
  ∃ keyword others, Text.words line = keyword :: others ∧ isFrom keyword

/-- The first line whose first word is the keyword has the image as its second word. -/
def NamesImage (lines : List Text) (image : Text) : Prop :=
  Reaches (fun line => ¬ IsFromLine line)
    (fun line => ∃ keyword others, Text.words line = keyword :: image :: others ∧ isFrom keyword)
    lines

/-- The base image is the one that the lines name. -/
lemma baseImage?_eq_some_iff {lines : List Text} {image : Text} :
    baseImage? lines = some image ↔ NamesImage lines image := by
  induction lines with
  | nil => exact iff_of_false nofun (not_reaches_nil _ _)
  | cons line lines ih =>
    rw [NamesImage, reaches_cons, ← NamesImage, ← ih, baseImage?]
    cases hwords : Text.words line with
    | nil => simp [IsFromLine, hwords]
    | cons keyword others =>
      have hline : IsFromLine line ↔ isFrom keyword := by simp [IsFromLine, hwords]
      cases hfrom : isFrom keyword with
      | false => simp [hline, hfrom]
      | true => cases others <;> simp [hline, hfrom]

end Dockerfile

/-- A base image passes exactly if the lines name the expected one. -/
lemma valid_checkBaseImage_iff {lines : List Text} {expected : Text} :
    (checkBaseImage lines expected).valid ↔ Dockerfile.NamesImage lines expected := by
  rw [← Dockerfile.baseImage?_eq_some_iff, checkBaseImage]
  cases Dockerfile.baseImage? lines with
  | none => simp [ImageCheck.valid]
  | some image => by_cases h : image = expected <;> simp [ImageCheck.valid, h]

end DockCheck
