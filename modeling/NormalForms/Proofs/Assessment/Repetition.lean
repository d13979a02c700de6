import NormalForms.Proofs.Assessment.Movable
import NormalForms.Proofs.Check.Reference
import NormalForms.Proofs.Finding.Repetition
import NormalForms.Proofs.Remedy.Lines

/-!
# What is dropped as a repetition

Of the findings against the third form an assessment lists those that agree in
table, columns and description once. These three tell the rule of the check that
raised a finding, its table and what the columns depend on, so that findings which
agree in them agree in all but the remedy (`withoutRemedy_eq_of_identity_eq`). The
remedy is made from the list of columns, of which the finding has the text. Where no
name holds what stands between the names, the text tells the list and nothing is
lost; else two lists may have one text (`exists_dependency_dropped`).
-/

namespace NormalForms

open Text

/-! ## Columns told by their names -/

namespace Table.WellFormed

variable {t : Table}

theorem eq_of_name_eq (h : t.WellFormed) {c d : Column} (hc : c ∈ t.columns) (hd : d ∈ t.columns)
    (heq : c.name = d.name) : c = d := by
  have hback := h.column?_name hc
  rw [heq, h.column?_name hd] at hback
  exact (Option.some.inj hback).symm

theorem eq_of_names_eq (h : t.WellFormed) {cs ds : List Column} (hcs : cs ⊆ t.columns)
    (hds : ds ⊆ t.columns) (heq : Remedy.names cs = Remedy.names ds) : cs = ds := by
  have hback : ∀ {es : List Column}, es ⊆ t.columns →
      (Remedy.names es).map t.column? = es.map some := by
    intro es hes
    rw [Remedy.names, List.map_map]
    exact List.map_congr_left fun c hc => h.column?_name (hes hc)
  have hsome := congrArg (List.map t.column?) heq
  rw [hback hcs, hback hds] at hsome
  exact (List.map_inj_right fun _ _ => Option.some.inj).1 hsome

end Table.WellFormed

/-- Names are told by the text they are joined to, if none holds the separator. -/
theorem Remedy.names_inj {cs ds : List Column} (hc : cs ≠ []) (hd : ds ≠ [])
    (hcs : ∀ c ∈ cs, ¬ nameSeparator <:+: c.name.toList)
    (hds : ∀ c ∈ ds, ¬ nameSeparator <:+: c.name.toList)
    (heq : String.intercalate ", " (names cs) = String.intercalate ", " (names ds)) :
    names cs = names ds := by
  have htext := congrArg String.toList heq
  rw [String.toList_intercalate, String.toList_intercalate] at htext
  have hlists := intercalate_inj (by simpa [names] using hc) (by simpa [names] using hd)
    (by simpa [names] using hcs) (by simpa [names] using hds) htext
  exact (List.map_inj_right fun _ _ => String.toList_inj.1).1 hlists

namespace TransitiveDependency

variable {t : Table} {f g : Finding}

/-! ## Rules told by their descriptions -/

/-- The letter by which the descriptions of the three rules differ. -/
def mark (f : Finding) : Option Char := f.description.toList[10]?

theorem mark_dependencyFinding (t : Table) (c : Column) (cs : List Column) :
    mark (dependencyFinding t c cs) = some 't' := by
  simp [mark, dependencyFinding]

theorem mark_inlineAddress (t : Table) : mark (inlineAddress t) = some 'f' := by
  simp [mark, inlineAddress]

theorem mark_of_mem_derivedAmounts (h : f ∈ derivedAmounts t) : mark f = some 'c' := by
  unfold derivedAmounts at h
  split at h
  · cases h
  · cases List.mem_singleton.1 h
    simp [mark]

theorem mem_tableFindings_marked (h : f ∈ tableFindings t) :
    mark f = some 't' ∧ IsDependency t f ∨ mark f = some 'f' ∧ f = inlineAddress t ∨
      mark f = some 'c' ∧ f ∈ derivedAmounts t := by
  rcases mem_tableFindings h with h | ⟨-, rfl⟩ | h
  · refine .inl ⟨?_, h⟩
    obtain ⟨c, -, members, -, -, rfl⟩ := h
    exact mark_dependencyFinding t c _
  · exact .inr (.inl ⟨mark_inlineAddress t, rfl⟩)
  · exact .inr (.inr ⟨mark_of_mem_derivedAmounts h, h⟩)

theorem mem_tableFindings_of_labelFinding? {c : Column} (hc : c ∈ t.plainColumns)
    (h : labelFinding? t c = some f) : f ∈ tableFindings t := by
  simp only [tableFindings, List.mem_append, List.mem_filterMap]
  exact .inl (.inl (.inl (.inr ⟨c, hc, h⟩)))

theorem mem_tableFindings_of_entityFinding? {c : Column} {entity : String}
    (hc : c ∈ t.plainColumns) (he : groupEntity? c = some entity)
    (h : entityFinding? t entity = some f) : f ∈ tableFindings t := by
  have hentity : entity ∈ (t.plainColumns.filterMap groupEntity?).eraseDups :=
    List.mem_eraseDups.2 (List.mem_filterMap.2 ⟨c, hc, he⟩)
  simp only [tableFindings, List.mem_append]
  exact .inl (.inl (.inl (.inl (List.mem_filterMap.2 ⟨entity, hentity, h⟩))))

/-! ## Findings of one identity -/

theorem eq_of_mem_derivedAmounts (hf : f ∈ derivedAmounts t) (hg : g ∈ derivedAmounts t) :
    f = g := by
  unfold derivedAmounts at hf hg
  split at hf
  · cases hf
  · rw [if_neg ‹_›] at hg
    rw [List.mem_singleton.1 hf, List.mem_singleton.1 hg]

/-- The description of a dependency names what the columns depend on. -/
theorem name_eq_of_description_eq {c d : Column} {cs ds : List Column}
    (h : (dependencyFinding t c cs).description = (dependencyFinding t d ds).description) :
    c.name = d.name := by
  simpa [dependencyFinding] using h

theorem IsDependency.exists_dependents (h : t.WellFormed) (hf : IsDependency t f) :
    ∃ c ∈ t.plainColumns, ∃ cs, cs ≠ [] ∧ cs ⊆ t.plainColumns ∧
      f = dependencyFinding t c cs := by
  obtain ⟨c, hc, members, hs, hothers, rfl⟩ := hf
  have hapart : NamedApart Column.name members := h.columns.sublist (hs.trans List.filter_sublist)
  have hne : others c members ≠ [] := hothers.elim (fun hlen => others_ne_nil hapart hlen c) id
  exact ⟨c, hc, _, hne, (List.filter_sublist.trans hs).subset, rfl⟩

theorem eq_of_isDependency (h : t.WellFormed) (hf : IsDependency t f) (hg : IsDependency t g)
    (hid : f.identity = g.identity) :
    f.withoutRemedy = g.withoutRemedy ∧
      ((∀ c ∈ t.plainColumns, ¬ nameSeparator <:+: c.name.toList) → f = g) := by
  obtain ⟨c, hc, cs, hcs, hcols, rfl⟩ := hf.exists_dependents h
  obtain ⟨d, hd, ds, hds, hcols', rfl⟩ := hg.exists_dependents h
  have hplain : t.plainColumns ⊆ t.columns := List.filter_sublist.subset
  have hdescription : (dependencyFinding t c cs).description =
      (dependencyFinding t d ds).description := congrArg (·.2.2) hid
  obtain rfl : c = d :=
    h.eq_of_name_eq (hplain hc) (hplain hd) (name_eq_of_description_eq hdescription)
  have htext : String.intercalate ", " (Remedy.names cs) =
      String.intercalate ", " (Remedy.names ds) := congrArg (·.2.1) hid
  constructor
  · rw [Finding.withoutRemedy, Finding.withoutRemedy, dependencyFinding, dependencyFinding, htext]
  · intro hclean
    have hnames := Remedy.names_inj hcs hds (fun e he => hclean e (hcols he))
      (fun e he => hclean e (hcols' he)) htext
    rw [h.eq_of_names_eq (List.Subset.trans hcols hplain)
      (List.Subset.trans hcols' hplain) hnames]

/-- **Findings of one identity** of a table agree in all but the remedy, and in the
remedy too if no name of a column outside the key holds the separator. -/
theorem eq_of_identity_eq (h : t.WellFormed) (hf : f ∈ tableFindings t) (hg : g ∈ tableFindings t)
    (hid : f.identity = g.identity) :
    f.withoutRemedy = g.withoutRemedy ∧
      ((∀ c ∈ t.plainColumns, ¬ nameSeparator <:+: c.name.toList) → f = g) := by
  have hmark : mark f = mark g := congrArg (fun id => id.2.2.toList[10]?) hid
  -- two rules have two marks, so only the cases of one rule are left
  rcases mem_tableFindings_marked hf with ⟨hm, hf⟩ | ⟨hm, hf⟩ | ⟨hm, hf⟩ <;>
    rcases mem_tableFindings_marked hg with ⟨hm', hg⟩ | ⟨hm', hg⟩ | ⟨hm', hg⟩ <;>
    rw [hm, hm'] at hmark <;> try exact absurd hmark (by decide)
  · exact eq_of_isDependency h hf hg hid
  · rw [hf, hg]
    exact ⟨rfl, fun _ => rfl⟩
  · rw [eq_of_mem_derivedAmounts hf hg]
    exact ⟨rfl, fun _ => rfl⟩

end TransitiveDependency

namespace Schema

variable {s : Schema}

theorem partial_findings_eq_nil (hb : Atomicity.isBlocked s = false)
    (hs : s.secondFindings = []) : PartialDependency.findings s = [] := by
  rw [← secondFindings_of_not_isBlocked hb, hs]

/-- What an assessment lists against the third form if it looks. -/
theorem thirdFindings_eq_deduplicate (hb : Atomicity.isBlocked s = false)
    (hs : s.secondFindings = []) :
    s.thirdFindings = Finding.deduplicate (TransitiveDependency.findings s) := by
  rw [thirdFindings, hb, hs]
  rfl

/-- What is found then is found of the tables. -/
theorem mem_transitive_findings_iff (hb : Atomicity.isBlocked s = false)
    (hs : s.secondFindings = []) {f : Finding} :
    f ∈ TransitiveDependency.findings s ↔
      ∃ t ∈ s.tables, f ∈ TransitiveDependency.tableFindings t := by
  rw [TransitiveDependency.findings_of_partial_eq_nil (partial_findings_eq_nil hb hs)]
  exact List.mem_flatMap

end Schema

namespace Session

open Schema TransitiveDependency

/-- **What is lost of the findings against the third form.** Let a schema come from
any calls, and let nothing against the lower forms keep the check from looking. Each
finding of the check is listed, but for its remedy; and it is listed as it is if no
name of a column outside the key of its table holds the separator. -/
theorem third_findings_listed (calls : List Call) {s : Schema} (hs : s ∈ (run calls).allSchemas)
    (notices : List Notice) (hfirst : ∀ f ∈ (s.assess notices).first, f.isBlocking = false)
    (hsecond : (s.assess notices).second = []) {f : Finding}
    (hf : f ∈ TransitiveDependency.findings s) :
    (∃ g ∈ (s.assess notices).third, g.withoutRemedy = f.withoutRemedy) ∧
    ∀ t ∈ s.tables, t.name = f.table →
      (∀ c ∈ t.plainColumns, ¬ nameSeparator <:+: c.name.toList) →
      f ∈ (s.assess notices).third := by
  have h : s.WellFormed := (sound_run calls).allSchemas hs
  have hblocked : Atomicity.isBlocked s = false := Atomicity.isBlocked_eq_false_iff.2 hfirst
  have hthird : (s.assess notices).third =
      Finding.deduplicate (TransitiveDependency.findings s) :=
    thirdFindings_eq_deduplicate hblocked hsecond
  have hraised : ∀ {g}, g ∈ TransitiveDependency.findings s →
      ∃ t ∈ s.tables, g ∈ tableFindings t ∧ g.table = t.name := by
    intro g hg
    obtain ⟨t, ht, hg⟩ := (mem_transitive_findings_iff hblocked hsecond).1 hg
    obtain ⟨cs, hc⟩ := TransitiveDependency.exists_concerns (h.tables t ht) hg
    exact ⟨t, ht, hg, hc.table_eq⟩
  obtain ⟨g, hg, hid⟩ := Finding.exists_mem_deduplicate hf
  obtain ⟨t, ht, hft, hftable⟩ := hraised hf
  obtain ⟨u, hu, hgu, hgtable⟩ := hraised (Finding.mem_of_mem_deduplicate hg)
  have htable : g.table = f.table := congrArg (·.1) hid
  obtain rfl : u = t := List.inj_on_of_nodup_map h.nodup_names hu ht
    (hgtable.symm.trans (htable.trans hftable))
  obtain ⟨hbut, hall⟩ := eq_of_identity_eq (h.tables u hu) hgu hft hid
  rw [hthird]
  refine ⟨⟨g, hg, hbut⟩, fun t ht hname hclean => ?_⟩
  obtain rfl : t = u := List.inj_on_of_nodup_map h.nodup_names ht hu (hname.trans hftable)
  rwa [← hall hclean]

/-- The column of a department. -/
def department : Column := ⟨"dept_id", "INT", true, none⟩

/-- A column that says something of a department. -/
def aspect (name : String) : Column := ⟨name, "INT", true, none⟩

/-- Staff with their departments and columns of the given names. -/
def staff (names : List String) : Table where
  name := "staff"
  columns := ⟨"id", "INT", true, none⟩ :: department :: names.map aspect
  constraints := [.primaryKey none ["id"]]

/-- The columns that name departments depend on the departments. -/
theorem labelFinding?_department {t : Table} {dependents : List Column} (hne : dependents ≠ [])
    (h : ((others department t.plainColumns).filter fun c =>
      startsWith (lower c.name) "dept_" && Naming.isLabel c.name) = dependents) :
    labelFinding? t department = some (dependencyFinding t department dependents) := by
  have hbase : Naming.identified? department.name = some "dept" := by decide +kernel
  have hstem : "dept" ++ "_" = "dept_" := by decide +kernel
  unfold labelFinding?
  rw [hbase]
  dsimp only
  rw [if_neg (by decide), hstem, h, dependencyFinding?, if_neg (by simpa using hne)]

/-- So do the other columns of the entity, if the column of departments is its first. -/
theorem entityFinding?_department {t : Table} {dependents : List Column}
    (hne : dependents ≠ []) (h : entityMembers t "dept" = department :: dependents)
    (hothers : ∀ c ∈ dependents, c.hasName "dept_id" = false) :
    entityFinding? t "dept" = some (dependencyFinding t department dependents) := by
  have hkey : Naming.identifies department.name = true := by decide +kernel
  have hself : department.hasName department.name = true := Identifier.same_refl _
  have hrest : others department (department :: dependents) = dependents := by
    rw [others, List.filter_cons, hself, if_neg (by decide)]
    exact List.filter_eq_self.2 fun c hc => by rw [department, hothers c hc]; rfl
  have hfind : (department :: dependents).find? (fun c => Naming.identifies c.name) =
      some department := List.find?_cons_of_pos hkey
  have htwo : 0 < dependents.length := List.length_pos_of_ne_nil hne
  rw [entityFinding?, h, if_neg (by rw [List.length_cons]; omega), hfind, Option.map_some, hrest]

/-- Three rules find that the name of a department depends on the department, with one
finding, which is listed once. -/
theorem third_findings_listed_staff :
    let t : Table := staff ["dept_name"]
    let shop : Schema := { name := "shop", tables := [t] }
    let calls : List Call := [.newTable "staff"] ++ t.columns.map (.addColumn 0) ++
      [.addConstraint 0 (.primaryKey none ["id"]), .newSchema "shop", .addTable 0 0]
    let found : Finding := dependencyFinding t department [aspect "dept_name"]
    (shop ∈ (run calls).allSchemas ∧ (∀ f ∈ (shop.assess []).first, f.isBlocking = false) ∧
      (shop.assess []).second = [] ∧ found ∈ TransitiveDependency.findings shop ∧
      ∀ c ∈ t.plainColumns, ¬ nameSeparator <:+: c.name.toList) ∧
    found ∈ (shop.assess []).third := by
  intro t shop calls found
  have hs : shop ∈ (run calls).allSchemas := by decide +kernel
  have hfirst : ∀ f ∈ (shop.assess []).first, f.isBlocking = false := by decide +kernel
  have hsecond : (shop.assess []).second = [] := by decide +kernel
  have hclean : ∀ c ∈ t.plainColumns, ¬ nameSeparator <:+: c.name.toList := by decide +kernel
  have hlabel : labelFinding? t department = some found :=
    labelFinding?_department (by simp) (by decide +kernel)
  have hfound : found ∈ TransitiveDependency.findings shop :=
    (mem_transitive_findings_iff (Atomicity.isBlocked_eq_false_iff.2 hfirst) hsecond).2
      ⟨t, List.mem_singleton.2 rfl, mem_tableFindings_of_labelFinding? (by decide +kernel) hlabel⟩
  have hlisted := (third_findings_listed calls hs [] hfirst hsecond hfound).2 t
    (List.mem_singleton.2 rfl) rfl hclean
  exact ⟨⟨hs, hfirst, hsecond, hfound, hclean⟩, hlisted⟩

/-- Dependents with different names have different remedies. -/
theorem dependencyFinding_ne {t : Table} {c : Column} {cs ds : List Column}
    (hc : c ∈ t.columns) (hcs : cs ⊆ t.columns) (hds : ds ⊆ t.columns) {d : Column} (hd : d ∈ cs)
    (hne : ∀ e ∈ ds, Remedy.dropLine t.name d.name ≠ Remedy.dropLine t.name e.name) :
    dependencyFinding t c cs ≠ dependencyFinding t c ds := by
  intro heq
  have hmoves : ∀ {es : List Column}, es ⊆ t.columns →
      (Remedy.splitByColumn t c es (lookupName c.name)
        "Move the transitively dependent columns into a lookup table").Moves t es :=
    fun hes => Remedy.moves_splitByColumn hc hes _
      (Remedy.keepsColumns_note (by decide) (by decide))
  have hrender := Option.some.inj (congrArg Finding.remedy? heq)
  have hline := (hmoves hcs).isDropLine_iff.2 ⟨d, hd, rfl⟩
  rw [hrender] at hline
  obtain ⟨e, he, hdrop⟩ := (hmoves hds).isDropLine_iff.1 hline
  exact hne e he hdrop

/-- **A finding may be lost.** Here two rules find different columns to depend on the
department, whose names are one text when joined. -/
theorem exists_dependency_dropped :
    let t : Table := staff ["dept_name, dept_site", "dept_name", "dept_site, dept_name"]
    let shop : Schema := { name := "shop", tables := [t] }
    Schema.ofTables "shop" [t] = .ok shop ∧
    (∀ f ∈ (shop.assess []).first, f.isBlocking = false) ∧ (shop.assess []).second = [] ∧
    ∃ f ∈ TransitiveDependency.findings shop, f ∉ (shop.assess []).third := by
  intro t shop
  have hfirst : ∀ f ∈ (shop.assess []).first, f.isBlocking = false := by decide +kernel
  have hsecond : (shop.assess []).second = [] := by decide +kernel
  have hblocked : Atomicity.isBlocked shop = false := Atomicity.isBlocked_eq_false_iff.2 hfirst
  let members : List Column := [aspect "dept_name, dept_site", aspect "dept_name"]
  let labels : List Column := [aspect "dept_name", aspect "dept_site, dept_name"]
  have hplain : department ∈ t.plainColumns := by decide +kernel
  have hentity : dependencyFinding t department members ∈ tableFindings t :=
    mem_tableFindings_of_entityFinding? hplain (by decide +kernel)
      (entityFinding?_department (by decide) (by decide +kernel) (by decide +kernel))
  have hlabel : dependencyFinding t department labels ∈ tableFindings t :=
    mem_tableFindings_of_labelFinding? hplain
      (labelFinding?_department (by decide) (by decide +kernel))
  have hne : dependencyFinding t department members ≠ dependencyFinding t department labels :=
    dependencyFinding_ne (by decide +kernel) (by decide +kernel) (by decide +kernel)
      List.mem_cons_self (by decide +kernel)
  have htext : String.intercalate ", " (Remedy.names members) =
      String.intercalate ", " (Remedy.names labels) := by decide +kernel
  have hid : (dependencyFinding t department members).identity =
      (dependencyFinding t department labels).identity := by
    rw [Finding.identity, Finding.identity, dependencyFinding, dependencyFinding, htext]
  have hthird : (shop.assess []).third =
      Finding.deduplicate (TransitiveDependency.findings shop) :=
    thirdFindings_eq_deduplicate hblocked hsecond
  have hfound : ∀ {f}, f ∈ tableFindings t → f ∈ TransitiveDependency.findings shop :=
    fun hf => (mem_transitive_findings_iff hblocked hsecond).2 ⟨t, List.mem_singleton.2 rfl, hf⟩
  refine ⟨by decide +kernel, hfirst, hsecond, ?_⟩
  rw [hthird]
  rcases Finding.not_mem_deduplicate_or (TransitiveDependency.findings shop) hne hid with h | h
  · exact ⟨_, hfound hentity, h⟩
  · exact ⟨_, hfound hlabel, h⟩

end Session

end NormalForms
