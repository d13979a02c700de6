import NormalForms.CommandLine
import NormalForms.Proofs.Draft.Skipping
import NormalForms.Proofs.Script.Combining

/-!
# Reading several files

A run makes one script of its files. If each file is finished, that script is read
as the statements of the first file, then those of the second, and so on, counted
through from zero (`run_reads_in_order`). With a reader that never breaks down, a run
on files that it can read always comes to an assessment (`run_eq_conclude`).
-/

namespace NormalForms.CommandLine

open Script

/-- **A run on files that can be read** assesses what their script defines. -/
theorem run_eq_conclude {readers : Dialect → StatementReader} {disk : Disk} {args : Arguments}
    {paths : List RawText} {texts : List String} (hreader : Draft.IsReliable (readers args.dialect))
    (hpaths : inputPaths disk args = .ok paths) (hne : paths ≠ [])
    (htexts : readAll disk paths = .ok texts) :
    ∃ d, Draft.ofScript (readers args.dialect) (combine texts) = .ok d ∧
      run readers disk args = conclude disk args paths d.assess := by
  have hdraft := Draft.ofScript_eq_ok hreader (combine texts)
  refine ⟨_, hdraft, ?_⟩
  obtain ⟨path, rest, rfl⟩ := List.exists_cons_of_ne_nil hne
  unfold run
  rw [hpaths]
  simp only [htexts, assessScript, hdraft]

/-- **Reading several files** that are each finished is reading their statements in
order: the script that they make has the statements of the files, one file after the
other. So every reader gets the same draft of it, with the same notices at the same
places, as of these statements; and this is the draft that a run on the files assesses
with a reader that never breaks down. -/
theorem run_reads_in_order {texts : List String} (h : ∀ text ∈ texts, IsFinished text.toList) :
    statements (combine texts) = texts.flatMap statements ∧
    (∀ reader : StatementReader, Draft.ofScript reader (combine texts) =
      Draft.ofOutcomes ((texts.flatMap statements).map fun text => (text, reader text))) ∧
    ∀ readers disk args paths, Draft.IsReliable (readers args.dialect) →
      inputPaths disk args = .ok paths → paths ≠ [] → readAll disk paths = .ok texts →
        ∃ d, Draft.ofOutcomes ((texts.flatMap statements).map fun text =>
            (text, readers args.dialect text)) = .ok d ∧
          run readers disk args = conclude disk args paths d.assess := by
  have hsplit := statements_combine h
  have hdraft : ∀ reader : StatementReader, Draft.ofScript reader (combine texts) =
      Draft.ofOutcomes ((texts.flatMap statements).map fun text => (text, reader text)) := by
    intro reader
    rw [Draft.ofScript, hsplit]
  refine ⟨hsplit, hdraft, fun readers disk args paths hreader hpaths hne htexts => ?_⟩
  obtain ⟨d, hd, hrun⟩ := run_eq_conclude hreader hpaths hne htexts
  rw [hdraft] at hd
  exact ⟨d, hd, hrun⟩

/-- Files that end in a comment, in a lone dash, in blanks alone and in a lone slash. -/
def looseEnds : List String :=
  ["CREATE TABLE a (x INT) -- the first; one", "/* ; */ CREATE TABLE b (y INT);\nDROP TABLE a -",
    " \n", "DROP TABLE b /"]

/-- A disk with such files. -/
def looseDisk : Disk where
  read path := match ["a.sql", "b.sql", "c.sql", "d.sql"].idxOf? path.display with
    | some i => .ok (looseEnds.getD i "")
    | none => .error "No such file or directory (os error 2)"
  list _ := .ok []
  makeDirectory _ := .ok ()
  write _ := .ok ()

/-- Each file ends by itself, and the run assesses their four statements. -/
theorem run_reads_in_order_looseEnds :
    (∀ text ∈ looseEnds, IsFinished text.toList) ∧
    statements (combine looseEnds) =
      ["CREATE TABLE a (x INT) -- the first; one", "/* ; */ CREATE TABLE b (y INT)",
        "DROP TABLE a -", "DROP TABLE b /"] ∧
    ∃ d, Draft.ofOutcomes ((looseEnds.flatMap statements).map fun text =>
        (text, Dialect.generic.reader text)) = .ok d ∧
      run Dialect.reader looseDisk { inputs := ["a.sql", "b.sql", "c.sql", "d.sql"] } =
        conclude looseDisk { inputs := ["a.sql", "b.sql", "c.sql", "d.sql"] }
          ["a.sql", "b.sql", "c.sql", "d.sql"] d.assess := by
  have hfinished : ∀ text ∈ looseEnds, IsFinished text.toList := by decide +kernel
  have hread := run_reads_in_order hfinished
  refine ⟨hfinished, hread.1.trans (by decide +kernel), ?_⟩
  exact hread.2.2 Dialect.reader looseDisk { inputs := ["a.sql", "b.sql", "c.sql", "d.sql"] } _
    (Draft.isReliable_reader _) rfl (List.cons_ne_nil _ _) (by decide +kernel)

end NormalForms.CommandLine
