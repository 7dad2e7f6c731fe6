import PresentationVerifier.Presentation

/-!
# Stages of a run

A run takes a response through a row of stages. What the stages have made so far is the `Progress` of
the run; a stage changes it and may stop the run with an error. `advance` performs stages in order: a
stage that does not stop the run becomes the one reached.

Within a stage the presentations or credentials are taken in order, and the first error stops the
stage. `updateEach` and `firstError` are the two ways to do that.
-/

namespace PresentationVerifier

/-! ## Progress -/

/-- How far a run has come. -/
inductive Stage where
  | initial
  | errorChecked
  | stateChecked
  | submissionPresent
  | tokensExtracted
  | vpsIntegrityChecked
  | vcsExtracted
  /-- The last stage of a run that only extracts credentials. -/
  | extractedOnly
  | vcsIntegrityChecked
  | selectiveDisclosuresChecked
  | holderBindingChecked
  | done
deriving DecidableEq, Repr

/-- What a run has made so far. -/
structure Progress where
  /-- The last stage that was passed. -/
  stage : Stage
  presentations : List Presentation
  /-- The envelopes that the decrypter was asked to open, in this order. -/
  opened : List String

namespace Progress

/-- The progress of a run that has not begun. -/
def start : Progress := ⟨.initial, [], []⟩

/-- All credentials, presentation by presentation. -/
def credentials (p : Progress) : List Credential :=
  p.presentations.flatMap Presentation.credentials

end Progress

/-! ## Stages as actions -/

/-- A stage: the name it gives the progress when it is passed, and what it does. -/
structure StageAction where
  reached : Stage
  act : Progress → Progress × Option Error

namespace StageAction

/-- A stage that only checks. -/
def check (reached : Stage) (test : Progress → Except Error Unit) : StageAction where
  reached := reached
  act p :=
    match test p with
    | .ok () => (p, none)
    | .error e => (p, some e)

/-- A stage that has nothing to do. -/
def mark (reached : Stage) : StageAction :=
  check reached fun _ => .ok ()

end StageAction

/-! ## Going through lists -/

/-- Performs stages in their order until one stops the run. -/
def advance : List StageAction → Progress → Progress × Option Error
  | [], p => (p, none)
  | s :: rest, p =>
    match s.act p with
    | (p', some e) => (p', some e)
    | (p', none) => advance rest { p' with stage := s.reached }

/-- Updates the items of a list in order. The item at which the error occurs may still be changed; those
after it stay as they are. -/
def updateEach {α ε : Type} (f : α → α × Option ε) : List α → List α × Option ε
  | [] => ([], none)
  | a :: rest =>
    match f a with
    | (a', some e) => (a' :: rest, some e)
    | (a', none) =>
      let (rest', e) := updateEach f rest
      (a' :: rest', e)

/-- Checks the items of a list in order, up to the first error. -/
def firstError {α ε : Type} (check : α → Except ε Unit) : List α → Except ε Unit
  | [] => .ok ()
  | a :: rest =>
    match check a with
    | .ok () => firstError check rest
    | .error e => .error e

end PresentationVerifier
