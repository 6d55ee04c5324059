import LeastGrant.Proofs.SavedRegistry
import LeastGrant.Proofs.SourceListing

/-! Include patterns together and apart. The files of two lists of patterns together are those of
each, as long as no pattern of one list leads into a skipped directory below a base of the other, and
no base of one list is above the project while the other list leads elsewhere. -/
namespace LeastGrant

section Search

variable {root : List String} {patterns others : List String} {file : List String}

/-- No pattern of the second list leads into a skipped directory below a base of the first. -/
def LeadsInOpen (root : List String) (patterns others : List String) : Prop :=
  ∀ pattern ∈ patterns, ∀ other ∈ others, ∀ below,
    baseParts root other = baseParts root pattern ++ below → ∀ name ∈ below, isSkipped name = false

/-- A base of the first list that is above the project, or is the project, is also above all bases
of the second. -/
def StaysBelow (root : List String) (patterns others : List String) : Prop :=
  ∀ pattern ∈ patterns, ∀ other ∈ others, baseParts root pattern <+: root →
    baseParts root pattern <+: baseParts root other

theorem SearchFinds.of_append {all : List String} (inOpen : LeadsInOpen root others patterns)
    (both : ∀ pattern, pattern ∈ all ↔ pattern ∈ patterns ∨ pattern ∈ others)
    (found : SearchFinds root patterns file) : SearchFinds root all file := by
  obtain ⟨pattern, listed, least, reached⟩ := found
  obtain ⟨first, member, above, minimal⟩ :=
    exists_least root ((both pattern).mpr (.inl listed))
  refine ⟨first, member, minimal, ?_⟩
  rcases (both first).mp member with own | other
  · rw [least first own above]
    exact reached
  · -- the search now begins further up, and comes down through directories that are not skipped
    obtain ⟨between, lower⟩ := above
    obtain ⟨below, some, rfl, openBelow⟩ := reaches_iff.mp reached
    rw [← lower, List.append_assoc]
    refine reaches_iff.mpr ⟨between ++ below, by simp [some], rfl, ?_⟩
    rw [List.dropLast_append_of_ne_nil some]
    intro name inside
    rcases List.mem_append.mp inside with upper | further
    · exact inOpen first other pattern listed between lower.symm name upper
    · exact openBelow name further

/-- A search for both lists that comes to a file below a base of the first list comes to it from a
base of the first list as well. -/
theorem SearchFinds.of_below {all : List String}
    (both : ∀ pattern, pattern ∈ all ↔ pattern ∈ patterns ∨ pattern ∈ others)
    (found : SearchFinds root all file) {pattern : String} (listed : pattern ∈ patterns)
    {rest : List String} (some : rest ≠ []) (below : baseParts root pattern ++ rest = file) :
    SearchFinds root patterns file := by
  obtain ⟨start, -, least, reached⟩ := found
  obtain ⟨first, own, above, minimal⟩ := exists_least root listed
  refine ⟨first, own, minimal, ?_⟩
  obtain ⟨under, filled, whole, openUnder⟩ := reaches_iff.mp reached
  obtain ⟨more, lower⟩ := above
  have inside : baseParts root first <+: file := by
    rw [← below, ← lower, List.append_assoc]
    exact List.prefix_append _ _
  have startInside : baseParts root start <+: file := whole ▸ List.prefix_append _ _
  -- both bases lie above the file, and no base lies above that of the start
  have upper : baseParts root start <+: baseParts root first := by
    rcases List.prefix_or_prefix_of_prefix startInside inside with upper | lower
    · exact upper
    · exact least first ((both first).mpr (.inl own)) lower ▸ List.prefix_rfl
  obtain ⟨between, split⟩ := upper
  have rests : between ++ (more ++ rest) = under := by
    have wholes : baseParts root start ++ (between ++ (more ++ rest)) =
        baseParts root start ++ under := by
      rw [← whole, ← below, ← lower, ← split]
      simp
    exact List.append_cancel_left wholes
  refine reaches_iff.mpr ⟨more ++ rest, by simp [some], by rw [← below, ← lower]; simp, ?_⟩
  intro name member
  apply openUnder name
  rw [← rests, List.dropLast_append_of_ne_nil (by simp [some])]
  exact List.mem_append_right _ member

/-- A file that the search for both lists comes to and a pattern of the first list fits is found
with the first list alone. -/
theorem SearchFinds.of_fits {all : List String} (plainRoot : Path.Plain root)
    (plainFile : Path.Plain file) (stays : StaysBelow root patterns others)
    (both : ∀ pattern, pattern ∈ all ↔ pattern ∈ patterns ∨ pattern ∈ others)
    (found : SearchFinds root all file) {pattern : String} (listed : pattern ∈ patterns)
    (fits : (Glob.ofText pattern).fits (Path.routeText (Path.route root file)).toList = true) :
    SearchFinds root patterns file := by
  rcases patternBase_of_fits plainRoot plainFile fits with above | ⟨rest, some, below⟩
  · obtain ⟨start, member, least, reached⟩ := id found
    rcases (both start).mp member with own | other
    · exact ⟨start, own, fun next known => least next ((both next).mpr (.inl known)), reached⟩
    · obtain ⟨between, split⟩ := stays pattern listed start other above
      obtain ⟨under, filled, whole, -⟩ := reaches_iff.mp reached
      have under_ne : between ++ under ≠ [] := by simp [filled]
      refine of_below both found listed under_ne ?_
      rw [whole, ← split]
      exact (List.append_assoc _ _ _).symm
  · exact of_below both found listed some below

end Search

namespace ProjectConfig

/-- The configuration with include patterns of its own and no listed files. -/
def including (config : ProjectConfig) (items : List Json) : ProjectConfig :=
  { config with files := [], included := .arr items }

variable {config : ProjectConfig} {folder : Folder}

theorem includePatterns_including (items : List Json) :
    (config.including items).includePatterns folder = items.mapM (config.directoryPattern folder) :=
  rfl

theorem includePatterns_append {first second : List Json} {patterns others : List String}
    (own : (config.including first).includePatterns folder = .ok patterns)
    (other : (config.including second).includePatterns folder = .ok others) :
    (config.including (first ++ second)).includePatterns folder = .ok (patterns ++ others) := by
  rw [includePatterns_including] at own other ⊢
  rw [List.mapM_append, own]
  refine (bind_of_ok rfl).trans ?_
  rw [other]
  rfl

/-- A root of both lists is a root of the list that it comes from, so its names are known to be in
order. -/
theorem rootFault?_append {patterns others : List String}
    (own : config.rootFault? patterns = none) (other : config.rootFault? others = none) :
    config.rootFault? (patterns ++ others) = none := by
  rw [rootFault?_eq_none] at own other ⊢
  intro pattern listed least
  rcases List.mem_append.mp listed with first | second
  · exact own pattern first fun next known => least next (List.mem_append_left _ known)
  · exact other pattern second fun next known => least next (List.mem_append_right _ known)

variable {patterns others all excludes : List String} {file : List String}

theorem mem_foundFiles_of_append (inOpen : LeadsInOpen config.root others patterns)
    (both : ∀ pattern, pattern ∈ all ↔ pattern ∈ patterns ∨ pattern ∈ others)
    (found : file ∈ config.foundFiles folder patterns excludes) :
    file ∈ config.foundFiles folder all excludes := by
  rw [mem_foundFiles, admits_iff] at found ⊢
  obtain ⟨there, named, searched, ⟨pattern, listed, fits⟩, kept⟩ := found
  exact ⟨there, named, searched.of_append inOpen both,
    ⟨pattern, (both pattern).mpr (.inl listed), fits⟩, kept⟩

theorem mem_foundFiles_of_fits (plainRoot : Path.Plain config.root)
    (plainFiles : ∀ file ∈ folder.files, Path.Plain file.1)
    (stays : StaysBelow config.root patterns others)
    (both : ∀ pattern, pattern ∈ all ↔ pattern ∈ patterns ∨ pattern ∈ others)
    (found : file ∈ config.foundFiles folder all excludes) {pattern : String}
    (listed : pattern ∈ patterns)
    (fits : (Glob.ofText pattern).fits (Path.routeText (Path.route config.root file)).toList = true) :
    file ∈ config.foundFiles folder patterns excludes := by
  rw [mem_foundFiles, admits_iff] at found ⊢
  obtain ⟨there, named, searched, -, kept⟩ := found
  have plainFile : Path.Plain file := by
    obtain ⟨entry, member, rfl⟩ := List.mem_map.mp there
    exact plainFiles entry member
  exact ⟨there, named, searched.of_fits plainRoot plainFile stays both listed fits,
    ⟨pattern, listed, fits⟩, kept⟩

theorem mem_foundFiles_append (plainRoot : Path.Plain config.root)
    (plainFiles : ∀ file ∈ folder.files, Path.Plain file.1)
    (stays : StaysBelow config.root patterns others)
    (otherStays : StaysBelow config.root others patterns)
    (found : file ∈ config.foundFiles folder (patterns ++ others) excludes) :
    file ∈ config.foundFiles folder patterns excludes ∨
      file ∈ config.foundFiles folder others excludes := by
  obtain ⟨-, -, -, admitted⟩ := mem_foundFiles.mp found
  obtain ⟨⟨pattern, listed, fits⟩, -⟩ := admits_iff.mp admitted
  rcases List.mem_append.mp listed with first | second
  · exact .inl (mem_foundFiles_of_fits plainRoot plainFiles stays
      (fun pattern => List.mem_append) found first fits)
  · exact .inr (mem_foundFiles_of_fits plainRoot plainFiles otherStays
      (fun pattern => List.mem_append.trans or_comm) found second fits)

end ProjectConfig

section OpenLeads

/-- The parts of a pattern before its first wildcard neither lead up nor name a directory that a
search skips. -/
def OpenLead (pattern : String) : Prop :=
  ∀ part ∈ patternLead pattern, part = "" ∨ part = "." ∨ isSkipped part = false

instance (pattern : String) : Decidable (OpenLead pattern) :=
  inferInstanceAs (Decidable (∀ part ∈ patternLead pattern, _))

theorem baseParts_of_openLead {root : List String} {pattern : String} (plainRoot : Path.Plain root)
    (clear : OpenLead pattern) :
    ∃ below, baseParts root pattern = root ++ below ∧ ∀ name ∈ below, isSkipped name = false := by
  have kept : ∀ name ∈ (patternLead pattern).filter (fun part => part != "" && part != "."),
      isSkipped name = false := by
    intro name member
    obtain ⟨inLead, some⟩ := List.mem_filter.mp member
    rcases clear name inLead with rfl | rfl | shown
    · exact absurd some (by decide)
    · exact absurd some (by decide)
    · exact shown
  have noUp : ∀ part ∈ root ++ (patternLead pattern).filter (fun part => part != "" && part != "."),
      part ≠ ".." := by
    intro part member up
    rcases List.mem_append.mp member with above | below
    · exact plainRoot.noUp part above up
    · have shown := kept part below
      rw [up] at shown
      exact absurd shown (by decide)
  refine ⟨_, ?_, kept⟩
  rw [baseParts, patternBase_eq]
  exact Path.normalParts_plain _ _ _ noUp

variable {root : List String} {patterns others : List String}

theorem leadsInOpen_of_openLead (plainRoot : Path.Plain root)
    (clear : ∀ pattern ∈ patterns ++ others, OpenLead pattern) : LeadsInOpen root patterns others := by
  intro pattern listed other known below lower name inside
  obtain ⟨upperPart, upper, -⟩ :=
    baseParts_of_openLead plainRoot (clear pattern (List.mem_append_left _ listed))
  obtain ⟨lowerPart, whole, shown⟩ :=
    baseParts_of_openLead plainRoot (clear other (List.mem_append_right _ known))
  rw [whole, upper, List.append_assoc] at lower
  apply shown name
  rw [List.append_cancel_left lower]
  exact List.mem_append_right _ inside

theorem staysBelow_of_openLead (plainRoot : Path.Plain root)
    (clear : ∀ pattern ∈ patterns ++ others, OpenLead pattern) : StaysBelow root patterns others := by
  intro pattern listed other known above
  obtain ⟨upperPart, upper, -⟩ :=
    baseParts_of_openLead plainRoot (clear pattern (List.mem_append_left _ listed))
  obtain ⟨lowerPart, whole, -⟩ :=
    baseParts_of_openLead plainRoot (clear other (List.mem_append_right _ known))
  rw [whole]
  exact above.trans (List.prefix_append _ _)

end OpenLeads

/-- The files of two lists of include patterns together. They can be listed whenever those of each
list can. Nothing is lost unless a base of the other list takes over a search that began in a skipped
directory, and nothing is added unless patterns that begin at the project or above it meet files
outside of it. Patterns that lead neither up nor into skipped directories act independently. -/
theorem include_append_exact {config : ProjectConfig} {folder : Folder}
    (plainRoot : Path.Plain config.root)
    (plainFiles : ∀ file ∈ folder.files, Path.Plain file.1) {first second : List Json}
    {a b : List (List String)} (foundFirst : (config.including first).sourcePlaces folder = .ok a)
    (foundSecond : (config.including second).sourcePlaces folder = .ok b) :
    ∃ patterns others c,
      (config.including first).includePatterns folder = .ok patterns ∧
      (config.including second).includePatterns folder = .ok others ∧
      (config.including (first ++ second)).sourcePlaces folder = .ok c ∧
      (LeadsInOpen config.root others patterns → a ⊆ c) ∧
      (LeadsInOpen config.root patterns others → b ⊆ c) ∧
      (StaysBelow config.root patterns others → StaysBelow config.root others patterns →
        c ⊆ a ++ b) ∧
      ((∀ pattern ∈ patterns ++ others, OpenLead pattern) → c = Path.sortUnique (a ++ b)) := by
  obtain ⟨patterns, excludes, own, excluding, clear, rfl⟩ :=
    (ProjectConfig.sourcePlaces_eq_ok rfl).mp foundFirst
  obtain ⟨others, sameExcludes, other, excludingToo, clearToo, rfl⟩ :=
    (ProjectConfig.sourcePlaces_eq_ok rfl).mp foundSecond
  obtain rfl : excludes = sameExcludes := Except.ok.inj (excluding.symm.trans excludingToo)
  have together := ProjectConfig.includePatterns_append own other
  have kept (inOpen : LeadsInOpen config.root others patterns) (file : List String)
      (member : file ∈ config.foundFiles folder patterns excludes) :
      file ∈ config.foundFiles folder (patterns ++ others) excludes :=
    ProjectConfig.mem_foundFiles_of_append inOpen (fun _ => List.mem_append) member
  have keptToo (inOpen : LeadsInOpen config.root patterns others) (file : List String)
      (member : file ∈ config.foundFiles folder others excludes) :
      file ∈ config.foundFiles folder (patterns ++ others) excludes :=
    ProjectConfig.mem_foundFiles_of_append inOpen (fun _ => List.mem_append.trans or_comm) member
  have known (stays : StaysBelow config.root patterns others)
      (otherStays : StaysBelow config.root others patterns) (file : List String)
      (member : file ∈ config.foundFiles folder (patterns ++ others) excludes) :
      file ∈ Path.sortUnique (config.foundFiles folder patterns excludes) ++
        Path.sortUnique (config.foundFiles folder others excludes) := by
    rw [List.mem_append, Path.mem_sortUnique, Path.mem_sortUnique]
    exact ProjectConfig.mem_foundFiles_append plainRoot plainFiles stays otherStays member
  refine ⟨patterns, others, Path.sortUnique (config.foundFiles folder (patterns ++ others) excludes),
    own, other, (ProjectConfig.sourcePlaces_eq_ok rfl).mpr ⟨patterns ++ others, excludes, together,
      excluding, ProjectConfig.rootFault?_append clear clearToo, rfl⟩, ?_, ?_, ?_, ?_⟩
  · intro inOpen file member
    exact Path.mem_sortUnique.mpr (kept inOpen file (Path.mem_sortUnique.mp member))
  · intro inOpen file member
    exact Path.mem_sortUnique.mpr (keptToo inOpen file (Path.mem_sortUnique.mp member))
  · intro stays otherStays file member
    exact known stays otherStays file (Path.mem_sortUnique.mp member)
  · intro clear
    have clearToo : ∀ pattern ∈ others ++ patterns, OpenLead pattern :=
      fun pattern member => clear pattern (List.mem_append.mpr (List.mem_append.mp member).symm)
    apply Path.sortUnique_congr
    intro file
    constructor
    · exact known (staysBelow_of_openLead plainRoot clear)
        (staysBelow_of_openLead plainRoot clearToo) file
    · intro member
      rcases List.mem_append.mp member with first | second
      · exact kept (leadsInOpen_of_openLead plainRoot clearToo) file (Path.mem_sortUnique.mp first)
      · exact keptToo (leadsInOpen_of_openLead plainRoot clear) file (Path.mem_sortUnique.mp second)

namespace Packages

def file : File := ⟨⟨#[]⟩, []⟩

/-- A project with a package of its own, and a directory beside it. -/
def folder : Folder where
  files := [(["app", "main.ts"], file), (["app", "node_modules", "lib", "index.ts"], file),
    (["app", "src", "x.ts"], file), (["app", "tsconfig.json"], file), (["lib", "a.ts"], file),
    (["lib", "b.ts"], file)]
  directories := []
  current := []

def config : ProjectConfig := ⟨["app", "tsconfig.json"], [], .null, .arr [], []⟩

def listing (patterns : List String) : Except ValueFault (List (List String)) :=
  (config.including (patterns.map .str)).sourcePlaces folder

/-- The files that a search for some patterns comes to, sorted as they are in the folder. -/
def found (patterns : List String) : List (List String) :=
  (folder.files.map Prod.fst).filter fun file =>
    config.hasExtension file && decide (SearchFinds config.root patterns file) &&
      config.admits (patterns.map Glob.ofText) [] file

theorem listing_eq {patterns : List String} {places : List (List String)}
    (includes : (config.including (patterns.map .str)).includePatterns folder = .ok patterns)
    (clear : ∀ pattern ∈ patterns, ∀ part ∈ baseParts config.root pattern,
      ProjectConfig.pathFault? part = none)
    (finds : found patterns = places) (sorted : places.Pairwise Path.Before) :
    listing patterns = .ok places := by
  have open_roots : (config.including (patterns.map .str)).rootFault? patterns = none :=
    ProjectConfig.rootFault?_eq_none.mpr fun pattern listed _ => clear pattern listed
  refine ProjectConfig.sourcePlaces_of_found rfl includes rfl open_roots ?_ sorted
  rw [ProjectConfig.foundFiles_eq]
  exact finds

theorem plain_root : Path.Plain config.root := by decide

theorem plain_files : ∀ file ∈ folder.files, Path.Plain file.1 := by decide

theorem listing_top : listing ["*.ts"] = .ok [["app", "main.ts"]] :=
  listing_eq (by decide) (by decide) (by decide) (by decide)

theorem listing_src : listing ["src/**/*"] = .ok [["app", "src", "x.ts"]] :=
  listing_eq (by decide) (by decide) (by decide) (by decide)

theorem include_append_exact_packages :
    Path.Plain config.root ∧ (∀ file ∈ folder.files, Path.Plain file.1) ∧
      listing ["*.ts"] = .ok [["app", "main.ts"]] ∧
      listing ["src/**/*"] = .ok [["app", "src", "x.ts"]] ∧
      listing ["*.ts", "src/**/*"] = .ok [["app", "main.ts"], ["app", "src", "x.ts"]] := by
  obtain ⟨patterns, others, c, own, other, both, -, -, -, union⟩ :=
    include_append_exact plain_root plain_files listing_top listing_src
  obtain rfl : patterns = ["*.ts"] := Except.ok.inj (own.symm.trans (by decide +kernel))
  obtain rfl : others = ["src/**/*"] := Except.ok.inj (other.symm.trans (by decide +kernel))
  rw [union (by decide +kernel), Path.sortUnique_of_before (by decide +kernel)] at both
  exact ⟨plain_root, plain_files, listing_top, listing_src, both⟩

/-- With a pattern for everything, a package that is named is no longer found. With a pattern for one
file outside of the project, the pattern for everything finds its neighbour, too. -/
theorem include_append_not_union :
    (listing ["**/*"] = .ok [["app", "main.ts"], ["app", "src", "x.ts"]] ∧
      listing ["node_modules/lib/**/*"] = .ok [["app", "node_modules", "lib", "index.ts"]] ∧
      listing ["**/*", "node_modules/lib/**/*"] =
        .ok [["app", "main.ts"], ["app", "src", "x.ts"]]) ∧
    listing ["../lib/a.ts"] = .ok [["lib", "a.ts"]] ∧
      listing ["**/*", "../lib/a.ts"] =
        .ok [["app", "main.ts"], ["app", "src", "x.ts"], ["lib", "a.ts"], ["lib", "b.ts"]] := by
  refine ⟨⟨?_, ?_, ?_⟩, ?_, ?_⟩
  all_goals
    exact listing_eq (by decide +kernel) (by decide +kernel) (by decide +kernel) (by decide +kernel)

end Packages

end LeastGrant
