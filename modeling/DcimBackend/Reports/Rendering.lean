import DcimBackend.Collectors.Security
import DcimBackend.Reports.Builders

/-!
# Reading a report back

`_render_csv` writes the rows of a builder as CSV, under the names of the columns.  The names in a
row are those of the columns, in their order, so that no value is left out and no cell is empty for
the lack of one; and whatever characters the values hold, a reader gets them back.
`readReport_buildReport` puts this together for `_build_report`.
-/

namespace DcimBackend

open Library

namespace ReportDb

/-- The records of a file. -/
def readReport (content : ByteArray) : Option (List (List String)) :=
  (String.fromUTF8? content).map fun text =>
    (csvDialect.read text.toList).map fun record => record.map String.ofList

variable {env : ReportEnv} {db : ReportDb} {job : ReportJob} {headers : List String}
  {rows : List ReportRow}

/-- A file is read back as the records that it was written from. -/
theorem readReport_renderCsv :
    readReport (renderCsv env headers rows) = some (csvRecords env headers rows) := by
  unfold readReport renderCsv
  rw [Collectors.fromUTF8?_eq_some_iff.mpr rfl, Option.map_some, String.toList_ofList,
    Dialect.read_write, List.map_map]
  have htexts : ∀ record : List String, (record.map String.toList).map String.ofList = record := by
    intro record
    rw [List.map_map]
    exact List.map_id'' (fun _ => String.ofList_toList) record
  exact congrArg some (List.map_id'' htexts _)

/-! ### Rows that have the columns of their report -/

/-- A row has a value under each name of the columns, in their order, and no other. -/
def Fits (headers : List String) (row : ReportRow) : Prop := row.map Prod.fst = headers

/-- The values of a row under the names of its columns are all of its values. -/
theorem map_value_of_fits {row : ReportRow} (hnodup : headers.Nodup) (hfits : Fits headers row) :
    headers.map row.value = row.map Prod.snd := by
  subst hfits
  rw [List.map_map]
  refine List.map_congr_left fun cell hcell => ?_
  show (List.lookup cell.1 row).getD .none = cell.2
  induction row with
  | nil => cases hcell
  | cons first row ih =>
      rw [List.map_cons, List.nodup_cons] at hnodup
      rcases List.mem_cons.mp hcell with rfl | hrest
      · rw [List.lookup_cons_self, Option.getD_some]
      · have hne : cell.1 ≠ first.1 := by
          intro heq
          exact hnodup.1 (heq ▸ List.mem_map_of_mem hrest)
        rw [List.lookup_cons, beq_false_of_ne hne]
        exact ih hnodup.2 hrest

/-- What a builder returns: columns with distinct names, and rows that fit them. -/
structure WellFormed (report : List String × List ReportRow) : Prop where
  nodup : report.1.Nodup
  fits : ∀ row ∈ report.2, Fits report.1 row

/-- Rows that are made by one function fit if what it makes does. -/
theorem wellFormed_map {ρ : Type} {row : ρ → ReportRow} {qs : List ρ} (hnodup : headers.Nodup)
    (hrow : ∀ x, Fits headers (row x)) : WellFormed (headers, qs.map row) where
  nodup := hnodup
  fits := by
    intro _ hmem
    obtain ⟨x, -, rfl⟩ := List.mem_map.mp hmem
    exact hrow x

theorem fits_countRow (part label : String) (count : ℕ) :
    Fits countHeaders (countRow part label count) := rfl

/-- Counts fit their columns. -/
theorem wellFormed_counts {rows : List ReportRow}
    (hrows : ∀ row ∈ rows, ∃ part label count, row = countRow part label count) :
    WellFormed (countHeaders, rows) where
  nodup := show countHeaders.Nodup by decide
  fits := by
    intro row hrow
    obtain ⟨part, label, count, rfl⟩ := hrows row hrow
    exact fits_countRow part label count

theorem wellFormed_alertCounts (qs : List AlertEvent) :
    WellFormed (countHeaders, alertCounts qs) := by
  refine wellFormed_counts fun row hrow => ?_
  unfold alertCounts countRows at hrow
  simp only [List.mem_append, List.mem_cons, List.not_mem_nil, or_false, List.mem_map] at hrow
  grind

theorem wellFormed_notificationCounts (qs : List ReportNotification) :
    WellFormed (countHeaders, notificationCounts qs) := by
  refine wellFormed_counts fun row hrow => ?_
  unfold notificationCounts countRows at hrow
  simp only [List.mem_append, List.mem_cons, List.not_mem_nil, or_false, List.mem_map] at hrow
  grind

/-- Every builder returns columns with distinct names, and rows with a value under each. -/
theorem wellFormed_reportRows {reportType : String} {report : List String × List ReportRow}
    (h : db.reportRows env job reportType = .ok report) : WellFormed report := by
  unfold reportRows at h
  split at h
  · obtain ⟨qs, -, h⟩ := bind_eq_ok_iff.mp h
    obtain rfl := Except.ok.inj h
    exact wellFormed_alertCounts qs
  split at h
  · obtain ⟨qs, -, h⟩ := bind_eq_ok_iff.mp h
    obtain rfl := Except.ok.inj h
    exact wellFormed_notificationCounts qs
  split at h
  · obtain ⟨qs, -, h⟩ := bind_eq_ok_iff.mp h
    obtain rfl := Except.ok.inj h
    exact wellFormed_map (by decide) fun _ => rfl
  split at h
  · obtain ⟨qs, -, h⟩ := bind_eq_ok_iff.mp h
    obtain rfl := Except.ok.inj h
    exact wellFormed_map (by decide) fun _ => rfl
  split at h
  · obtain ⟨qs, -, h⟩ := bind_eq_ok_iff.mp h
    obtain rfl := Except.ok.inj h
    exact wellFormed_map (by decide) fun _ => rfl
  split at h
  · obtain ⟨qs, -, h⟩ := bind_eq_ok_iff.mp h
    obtain rfl := Except.ok.inj h
    exact wellFormed_map (by decide) fun _ => rfl
  split at h
  · obtain ⟨qs, -, h⟩ := bind_eq_ok_iff.mp h
    obtain rfl := Except.ok.inj h
    exact wellFormed_map (by decide) fun _ => rfl
  · cases h

/-! ### Files -/

/-- What a report says: the names of the columns, and the values of each row as texts. -/
def reportTable (env : ReportEnv) (db : ReportDb) (job : ReportJob) :
    Except String (List (List String)) := do
  let reportType ← db.resolveReportType env job
  let _ ← db.resolveOutputFormat env job
  let (headers, rows) ← db.reportRows env job reportType
  return headers :: rows.map fun row => row.map fun cell => csvCell env cell.2

/-- The records of a report are what it says. -/
theorem csvRecords_of_wellFormed {report : List String × List ReportRow} (h : WellFormed report) :
    csvRecords env report.1 report.2 =
      report.1 :: report.2.map fun row => row.map fun cell => csvCell env cell.2 := by
  refine congrArg (report.1 :: ·) (List.map_congr_left fun row hrow => ?_)
  have hvalues := map_value_of_fits h.nodup (h.fits row hrow)
  rw [← Function.comp_def (csvCell env) row.value, ← List.map_map, hvalues, List.map_map]
  rfl

/-- **A report is read back**: the file that `_build_report` returns has the names of the columns
and all values of all rows, and nothing else, whatever characters they hold. -/
theorem readReport_buildReport :
    (db.buildReport env job).map (fun report => readReport report.2) =
      (db.reportTable env job).map some := by
  unfold buildReport reportTable
  cases db.resolveReportType env job with
  | error e => rfl
  | ok reportType =>
      cases db.resolveOutputFormat env job with
      | error e => rfl
      | ok format =>
          dsimp only [bind, Except.bind]
          cases hrows : db.reportRows env job reportType with
          | error e => rfl
          | ok report =>
              refine congrArg Except.ok ?_
              rw [← csvRecords_of_wellFormed (wellFormed_reportRows hrows)]
              exact readReport_renderCsv

end ReportDb

end DcimBackend
