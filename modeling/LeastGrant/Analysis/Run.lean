import LeastGrant.Analysis.Join

/-! An analysis of a code base: the contributions of all nodes of its sources, in order, and then the
usage of join models. -/
namespace LeastGrant

/-- What an analysis finds. -/
structure Analysis where
  store : UsageStore
  notes : List Note

def Analysis.diagnostics (analysis : Analysis) : List Diagnostic :=
  Note.diagnostics analysis.notes

/-- How often each sort of problem occurs, for those that do. -/
def Analysis.problemCounts (analysis : Analysis) : List (ProblemKind × Nat) :=
  (ProblemKind.all.map fun kind =>
    (kind, analysis.diagnostics.countP fun d => d.problem.kind == kind)).filter fun (_, n) => n != 0

/-- The end of an analysis: the store with join models, and what was noted to add them. -/
def Analysis.complete (traversed : Analysis) (joins : UsageStore × List Note) : Analysis :=
  let notes := traversed.notes ++ joins.2
  ⟨joins.1, notes ++
    [.analysisComplete joins.1.records.length (Note.diagnostics notes).length]⟩

/-- The places that are visited in a file. Nothing below an import matters. -/
def visitedPlaces (file : SourceFile) : List Place :=
  if file.isDeclarationFile then []
  else Place.drain (fun node => node.kind == .importStatement) [.ofRoot file.root]

section Run

variable {m : Type → Type} [Lookups m]

/-- The contributions of all visited nodes of some files. Declaration files only give types. -/
def findingsM (index : CodeIndex) (registry : Registry) (only : Option String)
    (files : List SourceFile) : m (List Finding) := do
  let each ← files.mapM fun file => (visitedPlaces file).mapM (findingAtM index registry only file)
  return each.flatten

def findings (index : CodeIndex) (registry : Registry) (only : Option String)
    (files : List SourceFile) : List Finding :=
  Id.run (findingsM index registry only files)

theorem findings_eq_flatMap (index : CodeIndex) (registry : Registry) (only : Option String)
    (files : List SourceFile) :
    findings index registry only files =
      files.flatMap fun file => (visitedPlaces file).map (findingAt index registry only file) := by
  rw [findings, findingsM, Id.run_bind, List.idRun_mapM, Id.run_pure, List.flatMap_def]
  congr 2
  funext file
  rw [List.idRun_mapM]
  rfl

theorem findings_append (index : CodeIndex) (registry : Registry) (only : Option String)
    (a b : List SourceFile) :
    findings index registry only (a ++ b) =
      findings index registry only a ++ findings index registry only b := by
  simp [findings_eq_flatMap]

/-- The analysis before join models are added. -/
def traverseM (index : CodeIndex) (registry : Registry) (only : Option String)
    (files : List SourceFile) : m Analysis := do
  let found ← findingsM index registry only files
  return ⟨found.foldl Finding.addTo .empty, found.flatMap Finding.notes⟩

def traverse (index : CodeIndex) (registry : Registry) (only : Option String)
    (files : List SourceFile) : Analysis :=
  Id.run (traverseM index registry only files)

theorem traverse_eq (index : CodeIndex) (registry : Registry) (only : Option String)
    (files : List SourceFile) :
    traverse index registry only files =
      ⟨(findings index registry only files).foldl Finding.addTo .empty,
        (findings index registry only files).flatMap Finding.notes⟩ :=
  rfl

/-- Finds the usage of the models of a registry in some files. If `only` is given, imports count only
from that module. -/
def analyzeM (registry : Registry) (only : Option String) (files : List SourceFile) :
    m Analysis := do
  let traversed ← traverseM (.ofFiles files) registry only files
  return traversed.complete (← completeJoinsM registry traversed.store)

def analyze (registry : Registry) (only : Option String) (files : List SourceFile) : Analysis :=
  Id.run (analyzeM registry only files)

theorem analyze_eq (registry : Registry) (only : Option String) (files : List SourceFile) :
    analyze registry only files =
      (traverse (.ofFiles files) registry only files).complete
        (completeJoins registry (traverse (.ofFiles files) registry only files).store) :=
  rfl

end Run

end LeastGrant
