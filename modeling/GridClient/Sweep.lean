import GridClient.Session.Verbs

/-!
# `GridClient.Sweep` — deletion that can be repeated

## Contents
- `Link.deleteIfPresent`: deletion that takes absence for success.
- `SweepReport`, `Link.sweep`: deletion of many objects, each tried once, failures noted.
-/

namespace GridClient

variable {σ : Type}

/-- Deletes the object with a reference, unless it is gone; tells whether it was there. -/
def Link.deleteIfPresent (link : Link σ) (reference : String) : Session σ Bool :=
  ExceptT.mk fun w =>
    match (link.delete reference).runIn w with
    | (.ok _, w) => (.ok true, w)
    | (.error e, w) => (if e.isNotFound then .ok false else .error e, w)

/-- What became of the references of a sweep, in their order. -/
structure SweepReport where
  deleted : List String := []
  alreadyGone : List String := []
  failed : List (String × Error) := []

namespace SweepReport

/-- Whether nothing failed. -/
def isClean (r : SweepReport) : Bool := r.failed.isEmpty

/-- The report with one more outcome. -/
def note (r : SweepReport) (reference : String) : Except Error Bool → SweepReport
  | .ok true => { r with deleted := r.deleted ++ [reference] }
  | .ok false => { r with alreadyGone := r.alreadyGone ++ [reference] }
  | .error e => { r with failed := r.failed ++ [(reference, e)] }

end SweepReport

/-- Goes on with a sweep that has come to a report. -/
def Link.sweepFrom (link : Link σ) : SweepReport → List String → World σ → SweepReport × World σ
  | report, [], w => (report, w)
  | report, reference :: rest, w =>
    let (outcome, w) := (link.deleteIfPresent reference).runIn w
    link.sweepFrom (report.note reference outcome) rest w

/-- Deletes the objects with the given references in order, going on past failures. -/
def Link.sweep (link : Link σ) (references : List String) (w : World σ) : SweepReport × World σ :=
  link.sweepFrom {} references w

end GridClient
