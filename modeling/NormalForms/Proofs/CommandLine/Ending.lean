import Mathlib.Data.List.Forall2
import NormalForms.CommandLine.Tree
import NormalForms.Proofs.CommandLine.Files

/-!
# How a run ends

A run is hindered if it finds no input, if there is something that it cannot read or
make, or if its first file has a stem that no file can be named after
(`Hindrance`). Then it is refused: it prints nothing and leaves no file behind. Every
other run delivers: it writes its three artifacts into the output directory, says
what it found, and its exit code tells whether that is enough (`Ready.delivers`).
There is no third way as long as the reader never breaks down.

The artifacts are named after the stem of the first file. A stem that is no text
cannot be part of their names, and they are named `output` instead.
-/

namespace NormalForms.CommandLine

open Text

/-! ## The name of the artifacts -/

/-- No file is named after such a stem. -/
def IsUnfit (stem : String) : Prop :=
  isBlankText stem = true ∨ stem = ".." ∨ '\\' ∈ stem.toList

instance (stem : String) : Decidable (IsUnfit stem) := instDecidableOr

theorem splitExtension_subset (name : List UInt8) : (splitExtension name).1 ⊆ name := by
  unfold splitExtension
  split
  · exact List.Subset.refl name
  · exact List.Subset.refl name
  · rename_i stem _ h
    have hsuffix : _ :: stem ⊆ name.reverse := h ▸ (List.dropWhile_sublist _).subset
    intro c hc
    exact List.mem_reverse.1 (hsuffix (List.mem_cons_of_mem _ (List.mem_reverse.1 hc)))

theorem slash_not_mem_stem {path stem : RawText} (h : stem? path = some stem) :
    slash ∉ stem.bytes := by
  obtain ⟨name, hname, rfl⟩ := Option.map_eq_some_iff.1 h
  have hlast := (Option.filter_eq_some_iff.1 hname).1
  have hfields : name ∈ fields (· == slash) path.bytes :=
    List.mem_of_mem_filter (List.mem_of_getLast? hlast)
  intro hslash
  exact absurd (forall_of_mem_fields hfields slash (splitExtension_subset name hslash)) (by decide)

theorem slash_mem_bytes_iff {s : String} :
    slash ∈ (RawText.ofString s).bytes ↔ '/' ∈ s.toList :=
  RawText.mem_bytes_ofString_iff (a := '/') (by decide)

/-- A stem is no path. -/
theorem slash_not_mem_artifactName (path : RawText) : '/' ∉ (artifactName path).toList := by
  unfold artifactName
  cases htext : stemText? path with
  | none => decide
  | some text =>
    obtain ⟨stem, hstem, hread⟩ := Option.bind_eq_some_iff.1 htext
    have hslash := slash_not_mem_stem hstem
    rwa [RawText.eq_ofString_of_text? hread, slash_mem_bytes_iff] at hslash

theorem artifactName_eq (path : RawText) :
    stemText? path = some (artifactName path) ∨
      stemText? path = none ∧ artifactName path = "output" := by
  unfold artifactName
  cases stemText? path with
  | none => exact .inr ⟨rfl, rfl⟩
  | some stem => exact .inl rfl

theorem isUnfit_artifactName_iff {path : RawText} :
    IsUnfit (artifactName path) ↔ ∃ stem, stemText? path = some stem ∧ IsUnfit stem := by
  unfold artifactName
  cases stemText? path with
  | none => exact iff_of_false (by decide +kernel) fun ⟨_, h, _⟩ => by cases h
  | some stem => simp

/-- Without a slash in it, a name is refused if it is unfit, and for nothing else. -/
theorem nameFault?_eq_none_iff {name : String} (h : '/' ∉ name.toList) :
    Artifact.nameFault? name = none ↔ ¬ IsUnfit name := by
  have hstart : startsWith name "/" = false :=
    Bool.eq_false_iff.2 fun hs => h ((List.isPrefixOf_iff_prefix.1 hs).subset (by decide))
  have hfields : fields (· == '/') name.toList = [name.toList] :=
    fields_of_forall fun c hc => beq_eq_false_iff_ne.2 fun he => h (he ▸ hc)
  have hup : name.toList = ['.', '.'] ↔ name = ".." :=
    ⟨fun he => String.toList_injective he, fun he => he ▸ rfl⟩
  have hslash : (name.toList.any fun c => c == '/' || c == '\\') = true ↔ '\\' ∈ name.toList := by
    simp only [List.any_eq_true, Bool.or_eq_true, beq_iff_eq]
    constructor
    · rintro ⟨c, hc, rfl | rfl⟩
      · exact absurd hc h
      · exact hc
    · exact fun hc => ⟨'\\', hc, .inr rfl⟩
  unfold Artifact.nameFault? IsUnfit
  rw [hstart, hfields]
  simp only [List.any_cons, List.any_nil, Bool.or_false, beq_iff_eq, hup, hslash]
  cases isBlankText name <;> by_cases hd : name = ".." <;> by_cases hs : '\\' ∈ name.toList <;>
    simp only [hd, hs, if_true, if_false, true_or, or_true, or_self, not_true, not_false_iff,
      reduceCtorEq, Bool.false_eq_true]

/-! ## Paths in a directory -/

/-- A name in a directory is one step further than the directory. -/
theorem components_joinPath {name : String} (hslash : '/' ∉ name.toList) (hne : name ≠ "")
    (hdot : name ≠ ".") (dir : RawText) :
    components (joinPath dir name) = components dir ++ [(RawText.ofString name).bytes] := by
  have hbytes : ∀ {s}, (RawText.ofString name).bytes = (RawText.ofString s).bytes → name = s :=
    fun he => RawText.ofString_injective (congrArg RawText.mk he)
  have hnil : (RawText.ofString name).bytes ≠ [] := fun he => hne (hbytes he)
  have hone : (RawText.ofString name).bytes ≠ [period] := fun he => hdot (hbytes he)
  have hfields : fields (· == slash) (RawText.ofString name).bytes =
      [(RawText.ofString name).bytes] :=
    fields_of_forall fun b hb => beq_eq_false_iff_ne.2 fun he =>
      hslash (slash_mem_bytes_iff.1 (he ▸ hb))
  have hlast : [(RawText.ofString name).bytes].filter (fun c => !c.isEmpty && c != [period]) =
      [(RawText.ofString name).bytes] := by
    simp [hnil, hone]
  unfold joinPath components
  split
  · rename_i hend
    obtain ⟨start, hdir⟩ := List.getLast?_eq_some_iff.1 hend
    -- the slash that the directory ends in leads to an empty step, which does not count
    rw [hdir, List.append_assoc, List.singleton_append, fields_append_cons rfl,
      fields_append_cons rfl, hfields, List.filter_append, List.filter_append, hlast]
    simp [fields]
  · rw [fields_append_cons rfl, hfields, List.filter_append, hlast]

/-! ## Reading -/

/-- Every file is read, each for itself. -/
theorem readAll_eq_ok_iff {disk : Disk} {paths : List RawText} {texts : List String} :
    readAll disk paths = .ok texts ↔
      List.Forall₂ (fun path text => disk.read path = .ok text) paths texts := by
  induction paths generalizing texts with
  | nil => simp [readAll, eq_comm]
  | cons path paths ih =>
    rw [readAll, List.forall₂_cons_left_iff]
    cases disk.read path with
    | error reason => simp
    | ok text =>
      have hrest : (readAll disk paths).map (text :: ·) = .ok texts ↔
          ∃ rest, readAll disk paths = .ok rest ∧ text :: rest = texts := by
        cases readAll disk paths <;> simp [Except.map]
      simp only [hrest, ih]
      constructor
      · rintro ⟨rest, hread, rfl⟩
        exact ⟨text, rest, rfl, hread, rfl⟩
      · rintro ⟨_, rest, ⟨⟩, hread, rfl⟩
        exact ⟨rest, hread, rfl⟩

theorem exists_readAll_eq_error_iff {disk : Disk} {paths : List RawText} :
    (∃ message, readAll disk paths = .error message) ↔
      ∃ path ∈ paths, ∃ reason, disk.read path = .error reason := by
  induction paths with
  | nil => simp [readAll]
  | cons path paths ih =>
    simp only [readAll, List.mem_cons, exists_eq_or_imp, ← ih]
    cases disk.read path with
    | error reason => simp
    | ok text => cases readAll disk paths <;> simp [Except.map]

/-! ## The two ends of a run -/

/-- What keeps a run from its work. -/
inductive Hindrance (disk : Disk) (args : Arguments) : Prop
  /-- The schema directory cannot be read. -/
  | unlisted {dir : RawText} {reason : String} :
    args.schemaDir = some dir → disk.list dir = .error reason → Hindrance disk args
  | noInput : inputPaths disk args = .ok [] → Hindrance disk args
  | unread {paths : List RawText} {path : RawText} {reason : String} :
    inputPaths disk args = .ok paths → path ∈ paths → disk.read path = .error reason →
      Hindrance disk args
  /-- The output directory cannot be made. -/
  | unmade {reason : String} :
    disk.makeDirectory args.outputDir = .error reason → Hindrance disk args
  | unfit {path : RawText} {paths : List RawText} {stem : String} :
    inputPaths disk args = .ok (path :: paths) → stemText? path = some stem → IsUnfit stem →
      Hindrance disk args

/-- A run that is given up, and leaves nothing behind but what it says of that. -/
structure Outcome.IsRefusal (o : Outcome) : Prop where
  exitCode_eq : o.exitCode = 2
  stdout_eq : o.stdout = ""
  files_eq : o.files = []

/-- The names of the artifacts of a run. -/
def artifactNames (name : String) : List String :=
  [name ++ "_analysis.json", name ++ "_report.md", name ++ "_improvement.sql"]

/-- A run that comes to an assessment: it leaves the three artifacts in the output
directory, prints the form achieved and how many findings there are against each
form, and says by its exit code whether the form is below the one asked for. -/
structure Outcome.Delivers (o : Outcome) (args : Arguments) (name : String) (a : Assessment) :
    Prop where
  paths_eq : o.files.map Prod.fst =
    (artifactNames name).map fun file => joinPath args.outputDir file
  direct : o.files.map (fun f => components f.1) =
    (artifactNames name).map fun file =>
      components args.outputDir ++ [(RawText.ofString file).bytes]
  contents_eq : o.files.map Prod.snd = [a.toJson.pretty, Report.render a, Improvement.render a]
  stdout_eq : o.stdout = line ("Achieved normal form: " ++ Form.achievedLabel a.achieved) ++
    line ("1NF issues: " ++ a.first.length.repr) ++ line ("2NF issues: " ++ a.second.length.repr) ++
    line ("3NF issues: " ++ a.third.length.repr)
  exitCode_eq :
    (o.exitCode = 1 ∧ ∃ form ∈ args.minForm, Form.rank a.achieved < Form.rank (some form)) ∨
    (o.exitCode = 0 ∧ ∀ form ∈ args.minForm, Form.rank (some form) ≤ Form.rank a.achieved)

/-- Where the output directory can be made, the artifacts of the run can be written. -/
def IsWritable (disk : Disk) (args : Arguments) : Prop :=
  disk.makeDirectory args.outputDir = .ok () → ∀ path paths,
    inputPaths disk args = .ok (path :: paths) → ∀ name ∈ artifactNames (artifactName path),
      disk.write (joinPath args.outputDir name) = .ok ()

/-- Nothing hinders the run: its files and their texts. -/
structure Ready (disk : Disk) (args : Arguments) (path : RawText) (paths : List RawText)
    (texts : List String) : Prop where
  paths_eq : inputPaths disk args = .ok (path :: paths)
  texts : List.Forall₂ (fun path text => disk.read path = .ok text) (path :: paths) texts
  directory : disk.makeDirectory args.outputDir = .ok ()
  fit : ¬ IsUnfit (artifactName path)

section Ends

variable {readers : Dialect → StatementReader} {disk : Disk} {args : Arguments}

theorem hindrance_or_ready (disk : Disk) (args : Arguments) :
    Hindrance disk args ∨ ∃ path paths texts, Ready disk args path paths texts := by
  cases hpaths : inputPaths disk args with
  | error message =>
    left
    unfold inputPaths at hpaths
    cases hdir : args.schemaDir with
    | none => rw [hdir] at hpaths; cases hpaths
    | some dir =>
      rw [hdir] at hpaths
      cases hlist : disk.list dir with
      | ok names => simp only [hlist, reduceCtorEq] at hpaths
      | error reason => exact .unlisted hdir hlist
  | ok paths =>
    cases paths with
    | nil => exact .inl (.noInput hpaths)
    | cons path paths =>
      cases htexts : readAll disk (path :: paths) with
      | error message =>
        obtain ⟨p, hp, reason, hread⟩ := exists_readAll_eq_error_iff.1 ⟨message, htexts⟩
        exact .inl (.unread hpaths hp hread)
      | ok texts =>
        cases hmake : disk.makeDirectory args.outputDir with
        | error reason => exact .inl (.unmade hmake)
        | ok made =>
          by_cases hfit : IsUnfit (artifactName path)
          · obtain ⟨stem, hstem, hunfit⟩ := isUnfit_artifactName_iff.1 hfit
            exact .inl (.unfit hpaths hstem hunfit)
          · exact .inr ⟨path, paths, texts, hpaths, readAll_eq_ok_iff.1 htexts, hmake, hfit⟩

theorem isRefusal_failure (stderr : String) : (failure stderr).IsRefusal := ⟨rfl, rfl, rfl⟩

/-- A run is refused on the way to its assessment, or has read its files and
concludes. -/
theorem isRefusal_or_eq_conclude (readers : Dialect → StatementReader) (disk : Disk)
    (args : Arguments) : (run readers disk args).IsRefusal ∨ ∃ path paths texts a,
      inputPaths disk args = .ok (path :: paths) ∧ readAll disk (path :: paths) = .ok texts ∧
        run readers disk args = conclude disk args (path :: paths) a := by
  unfold run
  split
  · exact .inl (isRefusal_failure _)
  · exact .inl (isRefusal_failure _)
  · rename_i paths hne hpaths
    obtain ⟨path, paths, rfl⟩ := List.exists_cons_of_ne_nil hne
    split
    · exact .inl (isRefusal_failure _)
    · rename_i texts htexts
      split
      · exact .inl (isRefusal_failure _)
      · rename_i a _
        exact .inr ⟨path, paths, texts, a, hpaths, htexts, rfl⟩

/-- There are artifacts to write if there is a directory and a name for them. -/
theorem artifacts_eq_ok_iff {path : RawText} {paths : List RawText} {a : Assessment}
    {files : List (RawText × String)} :
    artifacts disk args (path :: paths) a = .ok files ↔
      ¬ IsUnfit (artifactName path) ∧ disk.makeDirectory args.outputDir = .ok () ∧
        files = (Artifact.files (artifactName path) a).map
          fun f => (joinPath args.outputDir f.1, f.2) := by
  have hwrite : artifacts disk args (path :: paths) a =
      (Artifact.write (disk.makeDirectory args.outputDir) (artifactName path) a).map
        (·.map fun f => (joinPath args.outputDir f.1, f.2)) := rfl
  rw [hwrite, ← nameFault?_eq_none_iff (slash_not_mem_artifactName path)]
  unfold Artifact.write
  cases Artifact.nameFault? (artifactName path) with
  | some fault => simp [Except.map]
  | none => cases disk.makeDirectory args.outputDir <;> simp [Except.map, eq_comm]

theorem isRefusal_conclude {paths : List RawText} {a : Assessment}
    (h : ∀ files, artifacts disk args paths a ≠ .ok files) :
    (conclude disk args paths a).IsRefusal := by
  unfold conclude
  cases hfiles : artifacts disk args paths a with
  | error fault => exact isRefusal_failure _
  | ok files => exact absurd hfiles (h files)

/-- **A run that something hinders** is refused. -/
theorem Hindrance.isRefusal (h : Hindrance disk args) : (run readers disk args).IsRefusal := by
  rcases isRefusal_or_eq_conclude readers disk args with
    hr | ⟨path, paths, texts, a, hpaths, htexts, hrun⟩
  · exact hr
  · cases h with
    | unlisted hdir hlist =>
      rw [inputPaths, hdir] at hpaths
      simp only [hlist, reduceCtorEq] at hpaths
    | noInput hno =>
      rw [hno] at hpaths
      cases hpaths
    | unread hpaths' hmem hread =>
      cases hpaths.symm.trans hpaths'
      obtain ⟨message, herror⟩ := exists_readAll_eq_error_iff.2 ⟨_, hmem, _, hread⟩
      rw [herror] at htexts
      cases htexts
    | unmade hmake =>
      rw [hrun]
      refine isRefusal_conclude fun files hfiles => ?_
      rw [(artifacts_eq_ok_iff.1 hfiles).2.1] at hmake
      cases hmake
    | unfit hpaths' hstem hunfit =>
      cases hpaths.symm.trans hpaths'
      rw [hrun]
      exact isRefusal_conclude fun files hfiles =>
        (artifacts_eq_ok_iff.1 hfiles).1 (isUnfit_artifactName_iff.2 ⟨_, hstem, hunfit⟩)

theorem slash_not_mem_artifactNames {stem name : String} (h : '/' ∉ stem.toList)
    (hname : name ∈ artifactNames stem) : '/' ∉ name.toList := by
  simp only [artifactNames, List.mem_cons, List.not_mem_nil, or_false] at hname
  rcases hname with rfl | rfl | rfl
  all_goals
    rw [String.toList_append, List.mem_append, not_or]
    exact ⟨h, by decide⟩

/-- An artifact lies directly in its directory. -/
theorem components_artifact {stem name : String} (h : '/' ∉ stem.toList)
    (hname : name ∈ artifactNames stem) (dir : RawText) :
    components (joinPath dir name) = components dir ++ [(RawText.ofString name).bytes] := by
  have hlong : 1 < name.toList.length := by
    simp only [artifactNames, List.mem_cons, List.not_mem_nil, or_false] at hname
    rcases hname with rfl | rfl | rfl
    all_goals
      rw [String.toList_append, List.length_append]
      exact Nat.lt_add_left _ (by decide)
  refine components_joinPath (slash_not_mem_artifactNames h hname) ?_ ?_ dir
  · rintro rfl
    exact absurd hlong (by decide)
  · rintro rfl
    exact absurd hlong (by decide)

theorem firstFault?_eq_none {answer : RawText → Except String Unit}
    {files : List (RawText × String)} (h : ∀ f ∈ files, answer f.1 = .ok ()) :
    Artifact.firstFault? answer files = none :=
  List.findSome?_eq_none_iff.2 fun f hf => by rw [h f hf]

theorem summary_eq (a : Assessment) : summary a =
    line ("Achieved normal form: " ++ Form.achievedLabel a.achieved) ++
      line ("1NF issues: " ++ a.first.length.repr) ++
      line ("2NF issues: " ++ a.second.length.repr) ++
      line ("3NF issues: " ++ a.third.length.repr) := by
  have hfirst : "1NF" ++ " issues: " = "1NF issues: " := rfl
  have hsecond : "2NF" ++ " issues: " = "2NF issues: " := rfl
  have hthird : "3NF" ++ " issues: " = "3NF issues: " := rfl
  simp only [summary, Assessment.label, Form.all, Form.label, Assessment.findings, List.map_cons,
    List.map_nil, String.join_cons, String.join_nil, String.append_empty]
  rw [hfirst, hsecond, hthird]
  simp only [String.append_assoc]

theorem fallsShort_eq_true_iff {a : Assessment} {form? : Option Form} :
    fallsShort a form? = true ↔ ∃ form ∈ form?, Form.rank a.achieved < Form.rank (some form) := by
  cases form? <;> simp [fallsShort]

/-- **A run that nothing hinders** delivers the assessment of what it has read. -/
theorem Ready.delivers {path : RawText} {paths : List RawText} {texts : List String}
    (h : Ready disk args path paths texts) (hreader : Draft.IsReliable (readers args.dialect))
    (hwrite : IsWritable disk args) :
    ∃ a, assessScript (readers args.dialect) (Script.combine texts) = .ok a ∧
      (run readers disk args).Delivers args (artifactName path) a := by
  obtain ⟨d, hdraft, hrun⟩ :=
    run_eq_conclude hreader h.paths_eq (List.cons_ne_nil path paths) (readAll_eq_ok_iff.2 h.texts)
  have hartifacts : artifacts disk args (path :: paths) d.assess = .ok _ :=
    artifacts_eq_ok_iff.2 ⟨h.fit, h.directory, rfl⟩
  have hfault : Artifact.firstFault? disk.write ((Artifact.files (artifactName path) d.assess).map
      fun f => (joinPath args.outputDir f.1, f.2)) = none := by
    refine firstFault?_eq_none fun f hf => ?_
    obtain ⟨g, hg, rfl⟩ := List.mem_map.1 hf
    exact hwrite h.directory path paths h.paths_eq g.1 (List.mem_map_of_mem hg)
  refine ⟨d.assess, by rw [assessScript, hdraft], ?_⟩
  rw [hrun, conclude, hartifacts]
  dsimp only
  rw [hfault]
  refine ⟨rfl, ?_, rfl, ?_, ?_⟩
  · have hdirect := fun name (hname : name ∈ artifactNames (artifactName path)) =>
      components_artifact (slash_not_mem_artifactName path) hname args.outputDir
    rw [← List.map_congr_left hdirect]
    rfl
  · exact summary_eq d.assess
  · dsimp only
    split
    · rename_i hshort
      exact .inl ⟨rfl, fallsShort_eq_true_iff.1 hshort⟩
    · rename_i henough
      refine .inr ⟨rfl, fun form hform => Nat.le_of_not_lt fun hlt => henough ?_⟩
      exact fallsShort_eq_true_iff.2 ⟨form, hform, hlt⟩

end Ends

/-- A directory with two scripts, the first of which by name has dots for a stem, and
a script beside it whose name is no text. -/
def shelf : Tree where
  files := [("in/logs.sql", "CREATE TABLE logs (message TEXT)".toUTF8), ("in/...sql", "".toUTF8),
    (⟨[0xFF, period, 0x73, 0x71, 0x6C]⟩, "".toUTF8)]

def oneScript : Arguments where
  inputs := ["in/logs.sql"]
  outputDir := "out/"
  minForm := some .first

def wholeShelf : Arguments where
  schemaDir := some "in"

def strayScript : Arguments where
  inputs := [⟨[0xFF, period, 0x73, 0x71, 0x6C]⟩]

theorem inputPaths_wholeShelf :
    inputPaths shelf.disk wholeShelf = .ok ["in/...sql", "in/logs.sql"] := by
  have hlist : shelf.disk.list "in" = .ok ["logs.sql", "...sql"] := by decide +kernel
  have hfilter : [("logs.sql" : RawText), "...sql"].filter isScriptName =
      [("logs.sql" : RawText), "...sql"] := by
    decide +kernel
  have hsort : [("logs.sql" : RawText), "...sql"].mergeSort (fun a b => !(b.bytes < a.bytes)) =
      [("...sql" : RawText), "logs.sql"] := by
    -- The sort is no structural recursion: it is unfolded before it can be computed.
    simp only [List.mergeSort, List.length_cons, List.length_nil, Nat.reduceAdd, Nat.reduceDiv,
      List.MergeSort.Internal.splitInTwo_fst, List.MergeSort.Internal.splitInTwo_snd,
      List.take_succ_cons, List.take_zero, List.drop_succ_cons, List.drop_zero]
    rw [List.cons_merge_cons_neg, List.merge_right]
    decide +kernel
  simp only [inputPaths, wholeShelf, hlist, directoryScripts, hfilter, hsort, List.nil_append]
  decide +kernel

end NormalForms.CommandLine
