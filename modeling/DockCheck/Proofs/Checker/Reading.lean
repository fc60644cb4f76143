import DockCheck.Inputs
import DockCheck.Proofs.Checker.Stages
import DockCheck.Proofs.Text.Newlines
import DockCheck.Proofs.Text.Utf8

/-!
# Dockerfiles in files and in memory

A Dockerfile that is read from a file has line feeds for all its newlines.  A check asks a
Dockerfile for its lines only, and these are the same with other newlines (`check_newlines`).

The main statement, `reading_keeps_lines`, says that a file with the bytes of a text is checked like
the text itself, whatever newlines the text has.
-/

namespace DockCheck

variable {files : Files} {path : Path} {t : Text}

/-- The text of a file that holds the bytes of a text has line feeds for newlines. -/
lemma readText_of_find (h : files.find path = .ok (.file (Utf8.encode t))) :
    files.readText path = .ok (Text.newlines t) := by
  have hbytes : files.readBytes path = .ok (Utf8.encode t) := by
    rw [Files.readBytes, h]
  rw [Files.readText, hbytes]
  simp only [Bind.bind, Except.bind, Utf8.decode_encode]
  rfl

/-- A Dockerfile in a file that holds the bytes of a text can be read. -/
lemma readDockerfile_of_find (h : files.find path = .ok (.file (Utf8.encode t))) :
    readDockerfile files path = .ok (Text.newlines t) := by
  have hexists : files.exists? path (fun _ => true) = .ok true := by
    rw [Files.exists?, h]
  rw [readDockerfile, hexists, readText_of_find h]
  rfl

namespace Checker

/-- A check does not tell the newlines of a Dockerfile apart. -/
lemma check_newlines (files : Files) (checker : Checker) (content : Text) :
    checker.check files (Text.newlines content) = checker.check files content := by
  unfold check
  rw [Text.lines_newlines]

/-- Line feeds for the newlines of a text do not change its lines.  So a Dockerfile in a file that
holds the bytes of a text can be read, and what is read has the same check, report and records, as
the text.  And lines without line boundaries are those of the text that has a line feed behind each
of them. -/
theorem reading_keeps_lines :
    (∀ content, Text.lines (Text.newlines content) = Text.lines content)
      ∧ (∀ (files : Files) (path : Path) (content : Text),
        files.find path = .ok (.file (Utf8.encode content)) →
        ∃ read, readDockerfile files path = .ok read
          ∧ read = Text.newlines content
          ∧ ∀ (others : Files) (checker : Checker),
            checker.check others read = checker.check others content)
      ∧ ∀ found : List Text, (∀ line ∈ found, ∀ c ∈ line, ¬ Text.isLineBoundary c) →
        Text.lines (found.flatMap fun line => line ++ ['\n']) = found := by
  refine ⟨Text.lines_newlines, ?_, ?_⟩
  · intro files path content hfind
    refine ⟨_, readDockerfile_of_find hfind, rfl, ?_⟩
    intro others checker
    exact check_newlines others checker content
  · intro found hlines
    exact Text.lines_flatMap_newline hlines

/-- Two carriage returns and a line feed end a line and an empty one, also after the reading. -/
theorem reading_keeps_lines_mixed :
    let content : Text := "FROM alpine\r\r\nRUN python3.9\n\rRUN go1.2\r"
    let path := Path.ofText "Dockerfile"
    let files := (Files.fresh []).write path (.file (Utf8.encode content))
    let checker := ofStandards exampleStandards none none none
    let found : List Text := ["FROM alpine", "", "RUN python3.9", "", "RUN go1.2"]
    files.find path = .ok (.file (Utf8.encode content))
      ∧ Text.lines (Text.newlines content) = found
      ∧ (∃ read, readDockerfile files path = .ok read
        ∧ checker.check files read = checker.check files content)
      ∧ (∀ line ∈ found, ∀ c ∈ line, ¬ Text.isLineBoundary c)
      ∧ Text.lines (found.flatMap fun line => line ++ ['\n']) = found := by
  intro content path files checker found
  obtain ⟨hlines, hread, hfound⟩ := reading_keeps_lines
  have hfind : files.find path = .ok (.file (Utf8.encode content)) := rfl
  have hcontent : Text.lines content = found := by decide +kernel
  have hall : found.all (fun line => line.all fun c => !Text.isLineBoundary c) = true := by
    decide +kernel
  have hnone : ∀ line ∈ found, ∀ c ∈ line, ¬ Text.isLineBoundary c := by
    intro line hline c hc
    have hc' := List.all_eq_true.mp (List.all_eq_true.mp hall line hline) c hc
    simpa using hc'
  obtain ⟨read, hok, -, hcheck⟩ := hread files path content hfind
  exact ⟨hfind, (hlines content).trans hcontent, ⟨read, hok, hcheck files checker⟩, hnone,
    hfound found hnone⟩

end Checker

end DockCheck
