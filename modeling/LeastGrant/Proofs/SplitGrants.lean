import LeastGrant.Grants.Apply
import LeastGrant.Proofs.MergedGrants
import Mathlib.Data.List.Basic

/-! Grant statements as a text and back. The statements are written one to a line, and a text is
taken apart at each line break, of which there are many besides the line feed. So the statements
come back as they were written exactly if no table and no account brings a break of its own. -/
namespace LeastGrant

open Text

namespace Text

/-- The characters at which a line ends. -/
def lineBreaks : List Char :=
  ['\n', '\r', '\x0b', '\x0c', '\x1c', '\x1d', '\x1e', '\x85', '\u2028', '\u2029']

theorem isLineBreak_iff {c : Char} : isLineBreak c = true ↔ c ∈ lineBreaks := by
  have code (d : Char) : c = d ↔ c.toNat = d.toNat := Char.toNat_inj.symm
  simp [lineBreaks, code, isLineBreak]
  omega

/-- A piece of text within a line. -/
def Unbroken (text : List Char) : Prop := ∀ c ∈ text, isLineBreak c = false

theorem unbroken_iff {text : List Char} : Unbroken text ↔ ∀ c ∈ lineBreaks, c ∉ text := by
  simp only [← isLineBreak_iff]
  constructor
  · intro unbroken c breaks member
    simp [unbroken c member] at breaks
  · intro none c member
    by_contra breaks
    exact none c (by simpa using breaks) member

theorem lines_append_feed {line : List Char} (unbroken : Unbroken line) (rest : List Char) :
    lines (line ++ '\n' :: rest) = line :: lines rest := by
  induction line with
  | nil => simp [lines, isLineBreak]
  | cons c tail ih =>
    obtain ⟨here, later⟩ := List.forall_mem_cons.mp unbroken
    rw [List.cons_append, lines_cons_of_not_break c _ here, ih later]

theorem lines_of_unbroken {line : List Char} (unbroken : Unbroken line) (nonempty : line ≠ []) :
    lines line = [line] := by
  induction line with
  | nil => exact absurd rfl nonempty
  | cons c tail ih =>
    obtain ⟨here, later⟩ := List.forall_mem_cons.mp unbroken
    rw [lines_cons_of_not_break c _ here]
    -- The empty text has no line at all, so the last character is a case of its own.
    cases tail with
    | nil => rfl
    | cons next others => rw [ih later (List.cons_ne_nil _ _)]

/-- Unbroken lines that are joined by line feeds are the lines of the whole. -/
theorem lines_intercalate {parts : List (List Char)}
    (each : ∀ part ∈ parts, Unbroken part ∧ part ≠ []) :
    lines (['\n'].intercalate parts) = parts := by
  induction parts with
  | nil => rfl
  | cons part rest ih =>
    obtain ⟨⟨unbroken, nonempty⟩, others⟩ := List.forall_mem_cons.mp each
    cases rest with
    | nil => simpa using lines_of_unbroken unbroken nonempty
    | cons next later =>
      rw [List.intercalate_cons_cons, List.append_assoc, List.singleton_append,
        lines_append_feed unbroken, ih others]

theorem unbroken_nil : Unbroken [] := List.forall_mem_nil _

/-- No line holds a break. -/
theorem unbroken_of_mem_lines {text line : List Char} (member : line ∈ lines text) :
    Unbroken line := by
  fun_induction lines text generalizing line with
  | case1 => cases member
  | case2 rest ih =>
    obtain rfl | later := List.mem_cons.mp member
    · exact unbroken_nil
    · exact ih later
  | case3 c rest _ _ ih =>
    obtain rfl | later := List.mem_cons.mp member
    · exact unbroken_nil
    · exact ih later
  | case4 c rest _ stays _ _ =>
    obtain rfl := List.mem_singleton.mp member
    exact List.forall_mem_singleton.mpr (Bool.eq_false_iff.mpr stays)
  | case5 c rest _ stays first others same ih =>
    rw [same] at ih
    obtain rfl | later := List.mem_cons.mp member
    · exact List.forall_mem_cons.mpr ⟨Bool.eq_false_iff.mpr stays, ih List.mem_cons_self⟩
    · exact ih (List.mem_cons_of_mem _ later)

theorem trimEnd_sublist (text : List Char) : (trimEnd text).Sublist text := by
  have back := (text.reverse.dropWhile_sublist isBlank).reverse
  rwa [List.reverse_reverse] at back

theorem trim_sublist (text : List Char) : (trim text).Sublist text :=
  (trimEnd_sublist _).trans (text.dropWhile_sublist isBlank)

end Text

section Reading

/-- A statement is a part of its line. -/
theorem statement?_sublist {line : List Char} {statement : String}
    (read : statement? line = some statement) : statement.toList.Sublist line := by
  have rest := ((trim line).reverse.dropWhile_sublist (· == ';')).reverse
  rw [List.reverse_reverse] at rest
  unfold statement? at read
  split at read
  · cases read
  · cases read
    rw [String.toList_ofList]
    exact rest.trans (trim_sublist line)

theorem unbroken_of_mem_splitStatements {text statement : String}
    (member : statement ∈ splitStatements text) : Unbroken statement.toList := by
  obtain ⟨line, known, read⟩ := List.mem_filterMap.mp member
  intro c within
  exact unbroken_of_mem_lines known c ((statement?_sublist read).subset within)

/-- A text that neither begins with a blank nor ends in a semicolon. -/
def Bare (text : List Char) : Prop :=
  ∃ first middle last, text = first :: middle ++ [last] ∧ isBlank first = false ∧ last ≠ ';'

/-- A bare text with a semicolon after it is read as the statement it is. -/
theorem statement?_semicolon {text : String} (bare : Bare text.toList) :
    statement? (text ++ ";").toList = some text := by
  obtain ⟨first, middle, last, shape, visible, open_⟩ := bare
  have line : (text ++ ";").toList = first :: (middle ++ [last]) ++ [';'] := by
    simp [String.toList_append, shape]
  have kept : trim (text ++ ";").toList = first :: (middle ++ [last]) ++ [';'] := by
    rw [line]
    exact trim_cons_append first ';' _ visible rfl
  have whole : String.ofList (first :: (middle ++ [last])) = text := by
    rw [← List.cons_append, ← shape, String.ofList_toList]
  unfold statement?
  rw [kept]
  simp [open_, whole]

/-- Bare texts that are written one to a line, with a semicolon after each, are read as they are if
none holds a break. -/
theorem splitStatements_intercalate {texts : List String}
    (bare : ∀ text ∈ texts, Bare text.toList) (unbroken : ∀ text ∈ texts, Unbroken text.toList) :
    splitStatements ("\n".intercalate (texts.map (· ++ ";"))) = texts := by
  have each : ∀ part ∈ (texts.map (· ++ ";")).map String.toList, Unbroken part ∧ part ≠ [] := by
    intro part member
    obtain ⟨text, known, rfl⟩ : ∃ text ∈ texts, (text ++ ";").toList = part := by
      simpa using member
    rw [String.toList_append]
    refine ⟨List.forall_mem_append.mpr ⟨unbroken text known, ?_⟩, by simp⟩
    exact List.forall_mem_singleton.mpr rfl
  have split : lines ("\n".intercalate (texts.map (· ++ ";"))).toList =
      (texts.map (· ++ ";")).map String.toList := by
    rw [String.toList_intercalate]
    exact lines_intercalate each
  rw [splitStatements, split, List.filterMap_map, List.filterMap_map]
  calc texts.filterMap ((statement? ∘ String.toList) ∘ (· ++ ";"))
      = texts.filterMap some :=
        List.filterMap_congr fun text known => statement?_semicolon (bare text known)
    _ = texts := List.filterMap_some

end Reading

/-- A statement that is written for a store. -/
inductive GrantStatement where
  | revoke
  | grant (privilege : Privilege) (table : String)
  | flush

/-- A statement without the semicolon after it. -/
def GrantStatement.text (options : GrantOptions) : GrantStatement → String
  | revoke => "REVOKE SELECT, INSERT, UPDATE, DELETE ON *.* FROM " ++ options.account
  | grant privilege table =>
    "GRANT " ++ privilege.word ++ " ON " ++ table ++ " TO " ++ options.account
  | flush => "FLUSH PRIVILEGES"

theorem GrantStatement.text_grant (options : GrantOptions) (privilege : Privilege)
    (table : String) :
    (grant privilege table).text options =
      "GRANT " ++ privilege.word ++ " ON " ++ table ++ " TO " ++ options.account := rfl

/-- The statements that are written for a store: records come in order, and the privileges that each
needs in the order of all privileges. -/
def UsageStore.emitted (store : UsageStore) (options : GrantOptions) : List GrantStatement :=
  (if options.clear then [.revoke] else []) ++
  (store.records.flatMap fun record =>
    (Privilege.all.filter record.needs).map fun privilege => .grant privilege record.table.plain) ++
  (if options.flush then [.flush] else [])

section Writing

variable {options : GrantOptions}

theorem UsageRecord.grants_eq (record : UsageRecord) :
    record.grants options = ((Privilege.all.filter record.needs).map fun privilege =>
      GrantStatement.grant privilege record.table.plain).map fun statement =>
        statement.text options ++ ";" := by
  rw [UsageRecord.grants, UsageRecord.privileges_eq, List.map_map, List.map_map]
  rfl

theorem grantStatements_eq (store : UsageStore) :
    grantStatements store options =
      (store.emitted options).map fun statement => statement.text options ++ ";" := by
  have revokes : (if options.clear then
      ["REVOKE SELECT, INSERT, UPDATE, DELETE ON *.* FROM " ++ options.account ++ ";"] else []) =
      (if options.clear then [GrantStatement.revoke] else []).map fun statement =>
        statement.text options ++ ";" := by
    cases options.clear <;> rfl
  have flushes : (if options.flush then ["FLUSH PRIVILEGES;"] else []) =
      (if options.flush then [GrantStatement.flush] else []).map fun statement =>
        statement.text options ++ ";" := by
    cases options.flush <;> rfl
  rw [grantStatements, UsageStore.emitted, List.map_append, List.map_append, List.map_flatMap,
    revokes, flushes]
  simp only [UsageRecord.grants_eq]

/-- Accounts end in a quote. -/
theorem bare_append_account {text : String} {first : Char} {rest : List Char}
    (shape : text.toList = first :: rest) (visible : isBlank first = false) :
    Bare (text ++ options.account).toList :=
  ⟨first, rest ++ "'".toList ++ options.username.toList ++ "'@'".toList ++ options.host.toList,
    '\'', by simp [GrantOptions.account, String.toList_append, shape], visible, by decide⟩

theorem GrantStatement.bare_text (statement : GrantStatement) :
    Bare (statement.text options).toList := by
  cases statement with
  | revoke => exact bare_append_account rfl rfl
  | grant privilege table =>
    have shape : ("GRANT " ++ privilege.word ++ " ON " ++ table ++ " TO ").toList =
        'G' :: ("RANT " ++ privilege.word ++ " ON " ++ table ++ " TO ").toList := by
      simp [String.toList_append]
    exact bare_append_account shape rfl
  | flush =>
    have bare : Bare "FLUSH PRIVILEGES".toList :=
      ⟨'F', "LUSH PRIVILEGE".toList, 'S', rfl, rfl, by decide⟩
    exact bare

theorem GrantStatement.mem_text_of_mem_table {privilege : Privilege} {table : String} {c : Char}
    (h : c ∈ table.toList) : c ∈ ((grant privilege table).text options).toList := by
  rw [text_grant]
  simp only [String.toList_append, List.mem_append, h, or_true, true_or]

end Writing

section Running

/-- A database that has run some statements runs each of some more, given those before it. -/
def Database.RunsAfter (database : Database) (before statements : List String) : Prop :=
  ∀ earlier statement later, statements = earlier ++ statement :: later →
    database.runs (before ++ earlier) statement = true

variable {database : Database} {before : List String}

theorem Database.runsAfter_nil : database.RunsAfter before [] := by
  intro earlier statement later shape
  simp at shape

theorem Database.runsAfter_cons {statement : String} {rest : List String} :
    database.RunsAfter before (statement :: rest) ↔
      database.runs before statement = true ∧
        database.RunsAfter (before ++ [statement]) rest := by
  constructor
  · intro runs
    refine ⟨by simpa using runs [] statement rest rfl, ?_⟩
    rintro earlier next later rfl
    simpa using runs (statement :: earlier) next later rfl
  · rintro ⟨here, after⟩ earlier next later shape
    cases earlier with
    | nil =>
      obtain ⟨rfl, -⟩ := List.cons.inj shape
      simpa using here
    | cons first others =>
      obtain ⟨rfl, rest⟩ := List.cons.inj shape
      simpa using after others next later rest

theorem runStatements_eq_ok {statements : List String} :
    (runStatements database before statements).1 = .ok () ↔
      database.RunsAfter before statements := by
  induction statements generalizing before with
  | nil => exact iff_of_true rfl Database.runsAfter_nil
  | cons statement rest ih =>
    rw [Database.runsAfter_cons, ← ih, runStatements]
    by_cases runs : database.runs before statement = true <;> simp [runs]

/-- What is counted is the statements of the text, and only if there is a database that runs all of
them. -/
theorem applyGrantsTo_eq_ok {find? : String → Option Database} {text url : String} {count : Nat} :
    (applyGrantsTo find? text url).1 = .ok count ↔
      count = (splitStatements text).length ∧
        ∃ database, find? url = some database ∧
          database.RunsAfter [] (splitStatements text) := by
  unfold applyGrantsTo
  cases found : find? url with
  | none => simp
  | some database =>
    simp only [Option.some.injEq, exists_eq_left', ← runStatements_eq_ok]
    rcases ran : runStatements database [] (splitStatements text) with ⟨_ | _, notes⟩
    · simp
    · simp [eq_comm]

end Running

/-- The statements of a store, written one to a line with a semicolon after each, are read as they
were written exactly if none holds a line break. Then as many are counted when they are applied, to
any database that runs them. -/
theorem grantText_splits (store : UsageStore) (options : GrantOptions) :
    grantText store options = "\n".intercalate ((store.emitted options).map fun statement =>
      statement.text options ++ ";") ∧
    (splitStatements (grantText store options) =
        (store.emitted options).map (GrantStatement.text options) ↔
      ∀ statement ∈ store.emitted options, ∀ c ∈ lineBreaks,
        c ∉ (statement.text options).toList) ∧
    ((∀ statement ∈ store.emitted options, ∀ c ∈ lineBreaks,
        c ∉ (statement.text options).toList) →
      ∀ find? url count, (applyGrantsTo find? (grantText store options) url).1 = .ok count ↔
        count = (store.emitted options).length ∧
          ∃ database, find? url = some database ∧
            database.RunsAfter [] ((store.emitted options).map (GrantStatement.text options))) := by
  have written : grantText store options =
      "\n".intercalate ((store.emitted options).map fun statement =>
        statement.text options ++ ";") := by
    rw [grantText, grantStatements_eq]
  have texts : ((store.emitted options).map fun statement => statement.text options ++ ";") =
      ((store.emitted options).map (GrantStatement.text options)).map (· ++ ";") := by
    rw [List.map_map]
    rfl
  have back (unbroken : ∀ statement ∈ store.emitted options, ∀ c ∈ lineBreaks,
      c ∉ (statement.text options).toList) :
      splitStatements (grantText store options) =
        (store.emitted options).map (GrantStatement.text options) := by
    rw [written, texts]
    refine splitStatements_intercalate (List.forall_mem_map.mpr ?_) (List.forall_mem_map.mpr ?_)
    · exact fun statement _ => statement.bare_text
    · exact fun statement member => unbroken_iff.mpr (unbroken statement member)
  refine ⟨written, ⟨?_, back⟩, ?_⟩
  · -- What is read holds no break, so nothing that was written holds one if it is all read.
    intro same statement member
    have read : statement.text options ∈ splitStatements (grantText store options) := by
      rw [same]
      exact List.mem_map_of_mem member
    exact unbroken_iff.mp (unbroken_of_mem_splitStatements read)
  · intro unbroken find? url count
    rw [applyGrantsTo_eq_ok, back unbroken, List.length_map]

namespace Clerk

/-- A clerk who reads orders and writes new ones. The name of the table is free. -/
def store (table : String) : UsageStore := .ofUses [⟨"Order", .str table, .inserting⟩]

def options : GrantOptions := ⟨"clerk", "%", true, true⟩

/-- A database that runs everything. -/
def server : Database := ⟨"mysql://shop", fun _ _ => true⟩

theorem emitted_store (table : String) : (store table).emitted options =
    [.revoke, .grant .read table, .grant (.write .insert) table, .flush] := rfl

end Clerk

open Clerk

/-- Orders in `orders` give four statements that come back and are counted. A table with a line
separator in its name gives statements that do not come back. -/
theorem grantText_splits_clerk :
    (splitStatements (grantText (store "orders") options) =
        ["REVOKE SELECT, INSERT, UPDATE, DELETE ON *.* FROM 'clerk'@'%'",
          "GRANT SELECT ON orders TO 'clerk'@'%'", "GRANT INSERT ON orders TO 'clerk'@'%'",
          "FLUSH PRIVILEGES"] ∧
      (applyGrantsTo (fun _ => some server) (grantText (store "orders") options)
        "mysql://shop").1 = .ok 4) ∧
    splitStatements (grantText (store "or\u2028ders") options) ≠
      ((store "or\u2028ders").emitted options).map (GrantStatement.text options) := by
  have clean : ∀ statement ∈ (store "orders").emitted options, ∀ c ∈ lineBreaks,
      c ∉ (statement.text options).toList := by
    have none : ((store "orders").emitted options).all (fun statement =>
        (statement.text options).toList.all fun c => !isLineBreak c) = true := by decide +kernel
    intro statement member
    refine unbroken_iff.mp fun c within => ?_
    simpa using List.all_eq_true.mp (List.all_eq_true.mp none statement member) c within
  have broken : ¬∀ statement ∈ (store "or\u2028ders").emitted options, ∀ c ∈ lineBreaks,
      c ∉ (statement.text options).toList := by
    intro none
    refine none (.grant .read "or\u2028ders") ?_ '\u2028' (by simp [lineBreaks]) ?_
    · rw [emitted_store]
      exact List.mem_of_getElem? (i := 1) rfl
    · exact GrantStatement.mem_text_of_mem_table (by decide)
  obtain ⟨-, back, counted⟩ := grantText_splits (store "orders") options
  refine ⟨⟨(back.mpr clean).trans (by decide +kernel), ?_⟩, fun same => broken ?_⟩
  · refine (counted clean _ _ 4).mpr ⟨by decide +kernel, server, rfl, ?_⟩
    exact fun _ _ _ _ => rfl
  · exact (grantText_splits (store "or\u2028ders") options).2.1.mp same

end LeastGrant
