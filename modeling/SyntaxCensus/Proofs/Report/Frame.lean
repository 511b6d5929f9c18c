import SyntaxCensus.Proofs.Files.Growth
import SyntaxCensus.Proofs.Journal.Effect
import SyntaxCensus.Report.Store

/-!
# What saving a report changes

Saving checks the path, makes the directories above it that are missing, opens
the file and writes to it.  Each of these steps can be the last one, and only the
very last one touches a file.

Main definitions:

- `Report.LacksParent`: the parent of a path has to be made.
- `Report.Prepares`, `Report.Saves`: the ways in which preparing the parent and
  saving end, and the state that each of them leaves.

Main results:

- `Report.saves_save`: saving ends in one of these ways.
- `Report.save_touches_one_file`: what saving changes.
-/

namespace SyntaxCensus
namespace Report

/-- The parent of a path is named and nothing is there. -/
structure LacksParent (fs : FileSystem) (path parent : String) : Prop where
  isParent : Path.parent? path = some parent
  named : parent ≠ ""
  absent : fs.exists? parent = false

/-- How preparing the parent of a path ends, and the state after it. -/
inductive Prepares (before : FileSystem) (path : String) :
    Except ReportError Unit → FileSystem → Prop
  | present (h : ∀ parent, ¬ LacksParent before path parent) : Prepares before path (.ok ()) before
  | made {parent : String} {after : FileSystem} (h : LacksParent before path parent)
      (hmade : before.createDirectories parent = (.ok (), after)) :
      Prepares before path (.ok ()) after
  | stopped {parent : String} {cause : SystemFault} {after : FileSystem}
      (h : LacksParent before path parent)
      (hstopped : before.createDirectories parent = (.error cause, after)) :
      Prepares before path (.error (.badPath (.parentMissing parent cause))) after

/-- How saving a report ends, and the state after it. -/
inductive Saves (report : Report) (path : String) (before : FileSystem) :
    Except ReportError Unit → FileSystem → Prop
  | refused {fault : PathFault} (h : pathFault? before path = some fault) :
      Saves report path before (.error (.badPath fault)) before
  | unprepared {reason : ReportError} {after : FileSystem}
      (hfit : pathFault? before path = none)
      (hprepare : Prepares before path (.error reason) after) :
      Saves report path before (.error reason) after
  | unopened {prepared : FileSystem} {cause : SystemFault}
      (hfit : pathFault? before path = none)
      (hprepare : Prepares before path (.ok ()) prepared)
      (hopen : prepared.findForWriting path = .error cause) :
      Saves report path before (.error (.unopened cause)) prepared
  | written {prepared : FileSystem} {place : List String}
      (hfit : pathFault? before path = none)
      (hprepare : Prepares before path (.ok ()) prepared)
      (hopen : prepared.findForWriting path = .ok place) :
      Saves report path before (.ok ()) (prepared.writeAt place report.octets)

/-! ## The steps -/

/-- Only the parent of a path is looked for, and only if it is named. -/
theorem lacksParent_iff {fs : FileSystem} {path parent other : String}
    (hparent : Path.parent? path = some parent) :
    LacksParent fs path other ↔
      other = parent ∧ (parent.isEmpty || fs.exists? parent) = false := by
  constructor
  · rintro ⟨hother, hnamed, habsent⟩
    obtain rfl := Option.some.inj (hparent.symm.trans hother)
    exact ⟨rfl, by simp [hnamed, habsent]⟩
  · rintro ⟨rfl, hmissing⟩
    obtain ⟨hnamed, habsent⟩ := Bool.or_eq_false_iff.mp hmissing
    exact ⟨hparent, by simpa using hnamed, habsent⟩

/-- Preparing the parent ends in one of these ways. -/
theorem prepares_prepareParent {path : String} {session : Session FileSystem}
    {result : Except ReportError Unit} {after : FileSystem}
    (h : (prepareParent path).effect session = (result, after)) :
    Prepares session.state path result after := by
  unfold prepareParent at h
  rw [Action.effect_get_bind] at h
  dsimp only at h
  cases hparent : Path.parent? path with
  | none =>
      rw [hparent] at h
      obtain ⟨rfl, rfl⟩ := Prod.mk.inj h
      exact .present fun parent hlacks => by cases hparent.symm.trans hlacks.isParent
  | some parent =>
      rw [hparent] at h
      dsimp only at h
      split_ifs at h with hskip
      · obtain ⟨rfl, rfl⟩ := Prod.mk.inj h
        refine .present fun other hlacks => ?_
        rw [((lacksParent_iff hparent).mp hlacks).2] at hskip
        cases hskip
      · have hlacks := (lacksParent_iff hparent).mpr ⟨rfl, Bool.eq_false_iff.mpr hskip⟩
        rw [Action.HasEffect.log_bind _ _ _ (Action.hasEffect_onState _) session] at h
        split at h
        · next hmade =>
          obtain ⟨rfl, rfl⟩ := Prod.mk.inj h
          exact .made hlacks hmade
        · next hstopped =>
          obtain ⟨rfl, rfl⟩ := Prod.mk.inj h
          exact .stopped hlacks hstopped

/-- The file that a path leads to is opened, and then it has the octets. -/
theorem effect_replaceFile (path : String) (octets : List UInt8) (session : Session FileSystem) :
    (replaceFile path octets).effect session =
      match session.state.findForWriting path with
      | .error cause => (.error (.unopened cause), session.state)
      | .ok place => (.ok (), session.state.writeAt place octets) := by
  unfold replaceFile
  rw [Action.hasEffect_onState]
  cases hplace : session.state.findForWriting path with
  | error cause => simp only [FileSystem.truncate, hplace]
  | ok place =>
      simp only [FileSystem.truncate, hplace, FileSystem.appendAt_writeAt_nil hplace octets]

/-- Saving ends in one of these ways. -/
theorem saves_save {report : Report} {path : String} {session : Session FileSystem}
    {result : Except ReportError Unit} {after : FileSystem}
    (h : (save report path).effect session = (result, after)) :
    Saves report path session.state result after := by
  unfold save at h
  obtain ⟨begun, hbegun⟩ := Action.effect_bind_of_ok
    (Action.hasEffect_log .info .reportFile s!"Writing report to: {path}" session) _
  rw [hbegun, Action.effect_get_bind] at h
  dsimp only at h
  cases hfault : pathFault? session.state path with
  | some fault =>
      rw [hfault] at h
      obtain ⟨rfl, rfl⟩ := Prod.mk.inj h
      exact .refused hfault
  | none =>
      rw [hfault] at h
      dsimp only at h
      rcases hparent : (prepareParent path).effect ⟨session.state, begun⟩ with
        ⟨reason | _, prepared⟩
      all_goals have hprepare := prepares_prepareParent hparent
      · rw [Action.effect_bind_of_error hparent] at h
        obtain ⟨rfl, rfl⟩ := Prod.mk.inj h
        exact .unprepared hfault hprepare
      · obtain ⟨made, hmade⟩ := Action.effect_bind_of_ok hparent _
        rw [hmade] at h
        have hreplace := effect_replaceFile path report.octets ⟨prepared, made⟩
        dsimp only at hreplace
        cases hopen : prepared.findForWriting path with
        | error cause =>
            rw [hopen] at hreplace
            rw [Action.effect_bind_of_error hreplace] at h
            obtain ⟨rfl, rfl⟩ := Prod.mk.inj h
            exact .unopened hfault hprepare hopen
        | ok place =>
            rw [hopen] at hreplace
            obtain ⟨written, hwritten⟩ := Action.effect_bind_of_ok hreplace _
            rw [hwritten] at h
            -- the last step only tells how large the file is
            obtain ⟨rfl, rfl⟩ := Prod.mk.inj h
            exact .written hfault hprepare hopen

/-! ## What is left -/

variable {path : String} {before after : FileSystem} {result : Except ReportError Unit}

/-- Preparing the parent makes nothing but directories. -/
theorem Prepares.growsTo (h : Prepares before path result after) : before.GrowsTo after := by
  cases h with
  | present _ => exact .refl before
  | @made parent _ _ hmade =>
      have hgrows := FileSystem.growsTo_createDirectories before parent
      rwa [hmade] at hgrows
  | @stopped parent _ _ _ hstopped =>
      have hgrows := FileSystem.growsTo_createDirectories before parent
      rwa [hstopped] at hgrows

/-- A state that preparing the parent changes lacks the parent. -/
theorem Prepares.lacksParent (h : Prepares before path result after) (hne : after ≠ before) :
    ∃ parent, LacksParent before path parent := by
  cases h with
  | present _ => exact absurd rfl hne
  | made hlacks _ => exact ⟨_, hlacks⟩
  | stopped hlacks _ => exact ⟨_, hlacks⟩

namespace Saves

variable {report : Report}

/-- A path that cannot take a report is refused before anything is done. -/
theorem of_fault (h : Saves report path before result after) {fault : PathFault}
    (hfault : pathFault? before path = some fault) :
    result = .error (.badPath fault) ∧ after = before := by
  cases h with
  | refused hother =>
      obtain rfl := Option.some.inj (hfault.symm.trans hother)
      exact ⟨rfl, rfl⟩
  | unprepared hfit _ => cases hfault.symm.trans hfit
  | unopened hfit _ _ => cases hfault.symm.trans hfit
  | written hfit _ _ => cases hfault.symm.trans hfit

/-- Before an error nothing but directories is made. -/
theorem growsTo_of_error {reason : ReportError}
    (h : Saves report path before (.error reason) after) : before.GrowsTo after := by
  cases h with
  | refused _ => exact .refl before
  | unprepared _ hprepare => exact hprepare.growsTo
  | unopened _ hprepare _ => exact hprepare.growsTo

/-- Without an error the report is in the file that the path leads to, and no
other file is changed. -/
theorem exists_place (h : Saves report path before (.ok ()) after) :
    ∃ place executable, after.find path = .ok (place, .file report.octets executable) ∧
      ∀ location, location ≠ place → ∀ content executable,
        after.tree.at? location = some (.file content executable) ↔
          before.tree.at? location = some (.file content executable) := by
  cases h with
  | @written prepared place _ hprepare hopen =>
      refine ⟨place, prepared.isExecutableAt place, FileSystem.find_writeAt hopen report.octets,
        fun location hne content executable => ?_⟩
      rw [← hprepare.growsTo.tree.file_iff, ← Entry.map_outline_eq_file_iff,
        FileSystem.outline_at?_writeAt hopen report.octets hne, Entry.map_outline_eq_file_iff]

/-- If there is a new directory, the parent was not there. -/
theorem lacksParent (h : Saves report path before result after) {location : List String}
    {entries : List (String × Entry)} (hfree : before.tree.at? location = none)
    (hmade : after.tree.at? location = some (.directory entries)) :
    ∃ parent, LacksParent before path parent := by
  have hdiffers {state : FileSystem} {entry : Entry}
      (hentry : state.tree.at? location = some entry) : state ≠ before := by
    rintro rfl
    cases hfree.symm.trans hentry
  cases h with
  | refused _ => exact absurd rfl (hdiffers hmade)
  | unprepared _ hprepare => exact hprepare.lacksParent (hdiffers hmade)
  | unopened _ hprepare _ => exact hprepare.lacksParent (hdiffers hmade)
  | @written prepared place _ hprepare hopen =>
      by_cases hplace : location = place
      · -- what is there is the file
        subst hplace
        have hfile := (FileSystem.leadsTo_of_findForWriting hopen).2.isPlace.at?_put
          (.file report.octets (prepared.isExecutableAt location))
        cases hfile.symm.trans hmade
      · have hsame := FileSystem.outline_at?_writeAt hopen report.octets hplace
        obtain ⟨old, hold⟩ := Entry.map_outline_eq_directory_iff.mp
          (hsame.symm.trans (Entry.map_outline_eq_directory_iff.mpr ⟨entries, hmade⟩))
        exact hprepare.lacksParent (hdiffers hold)

end Saves

/-- If nothing has to be prepared, saving writes to where the path leads. -/
theorem effect_save_of_place {fs : FileSystem} {place : List String}
    (hfit : pathFault? fs path = none) (hpresent : ∀ parent, ¬ LacksParent fs path parent)
    (hplace : fs.findForWriting path = .ok place) (report : Report) (journal : Journal) :
    (save report path).effect ⟨fs, journal⟩ = (.ok (), fs.writeAt place report.octets) := by
  rcases heffect : (save report path).effect ⟨fs, journal⟩ with ⟨result, after⟩
  cases saves_save heffect with
  | refused hfault => cases hfault.symm.trans hfit
  | unprepared _ hprepare =>
      cases hprepare with
      | stopped hlacks _ => exact absurd hlacks (hpresent _)
  | unopened _ hprepare hopen =>
      cases hprepare with
      | present _ => cases hopen.symm.trans hplace
      | made hlacks _ => exact absurd hlacks (hpresent _)
  | written _ hprepare hopen =>
      cases hprepare with
      | present _ =>
          obtain rfl := Except.ok.inj (hopen.symm.trans hplace)
          rfl
      | made hlacks _ => exact absurd hlacks (hpresent _)

/-- A path cannot take a report if it is empty or leads to a directory. -/
theorem exists_pathFault {fs : FileSystem} {path : String}
    (h : path = "" ∨ ∃ location entries, fs.find path = .ok (location, .directory entries)) :
    ∃ fault, pathFault? fs path = some fault := by
  unfold pathFault?
  split_ifs with hempty hdirectory
  · exact ⟨_, rfl⟩
  · exact ⟨_, rfl⟩
  · rcases h with rfl | ⟨location, entries, hfind⟩
    · exact absurd rfl hempty
    · exact absurd (by simp only [FileSystem.isDirectory, hfind, Entry.isDirectory]) hdirectory

/-- Saving a report that succeeds puts its text and a line feed into the file that
the path leads to, and keeps every other file; saving that fails keeps all files,
and changes nothing for a path that is empty or a directory.  New directories are
only made if the path names a parent that does not exist. -/
theorem save_touches_one_file (report : Report) (path : String) (session : Session FileSystem) :
    ∃ result after, (save report path).effect session = (result, after) ∧
      (result = .ok () →
        ∃ place executable,
          after.find path =
            .ok (place, .file (Utf8.encode (report.text ++ "\n")) executable) ∧
          ∀ location, location ≠ place → ∀ content executable,
            after.tree.at? location = some (.file content executable) ↔
              session.state.tree.at? location = some (.file content executable)) ∧
      (∀ reason, result = .error reason →
        ∀ location content executable,
          after.tree.at? location = some (.file content executable) ↔
            session.state.tree.at? location = some (.file content executable)) ∧
      (path = "" ∨ (∃ location entries,
          session.state.find path = .ok (location, .directory entries)) →
        (∃ reason, result = .error reason) ∧ after = session.state) ∧
      ∀ location entries, session.state.tree.at? location = none →
        after.tree.at? location = some (.directory entries) →
        ∃ parent, Path.parent? path = some parent ∧ parent ≠ "" ∧
          session.state.exists? parent = false := by
  rcases heffect : (save report path).effect session with ⟨result, after⟩
  have hsaves := saves_save heffect
  refine ⟨result, after, rfl, ?_, ?_, fun hunfit => ?_, fun location entries hfree hmade => ?_⟩
  · rintro rfl
    exact hsaves.exists_place
  · rintro reason rfl location content executable
    exact hsaves.growsTo_of_error.tree.file_iff
  · obtain ⟨fault, hfault⟩ := exists_pathFault hunfit
    obtain ⟨hresult, hsame⟩ := hsaves.of_fault hfault
    exact ⟨⟨_, hresult⟩, hsame⟩
  · obtain ⟨parent, hlacks⟩ := hsaves.lacksParent hfree hmade
    exact ⟨parent, hlacks.isParent, hlacks.named, hlacks.absent⟩

/-! ### Beside another file -/

/-- A working directory with one file. -/
def oneFile : FileSystem where
  tree := .directory [("old.json", .file [0x30] false)]
  working := []

/-- A report about one file that is not compiled. -/
def oneFailure : Report :=
  .ofResults [.failed "A.sol" "not compiled"]

/-- A free name is where a file can be written. -/
theorem findForWriting_oneFile : oneFile.findForWriting "out.json" = .ok ["out.json"] := by
  have hpath : FileSystem.rejects? "out.json" = none ∧ FileSystem.origin [] "out.json" = [] ∧
      Path.names "out.json" = ["out.json"] ∧ Path.endsInSlash "out.json" = false := by
    decide +kernel
  have hshort : ¬ FileSystem.maxName < "out.json".utf8ByteSize := by decide
  simp [FileSystem.findForWriting, hpath, hshort, oneFile, FileSystem.walkForWriting,
    Entry.at?, Entry.child?, Keyed.lookup, Entry.isDirectory]

/-- The report can be saved at a name that is free. -/
theorem effect_save_oneFile :
    (save oneFailure "out.json").effect ⟨oneFile, #[]⟩ =
      (.ok (), oneFile.writeAt ["out.json"] oneFailure.octets) := by
  have hpath : FileSystem.rejects? "out.json" = none ∧ FileSystem.origin [] "out.json" = [] ∧
      FileSystem.steps "out.json" = ["out.json"] ∧ Path.parent? "out.json" = some "" := by
    decide +kernel
  have hshort : ¬ FileSystem.maxName < "out.json".utf8ByteSize := by decide
  refine effect_save_of_place ?fit ?present findForWriting_oneFile oneFailure #[]
  case fit =>
    simp [pathFault?, FileSystem.isDirectory, FileSystem.find, FileSystem.locate, hpath, hshort,
      oneFile, FileSystem.walk, Entry.at?, Entry.child?, Keyed.lookup]
  case present =>
    intro parent hlacks
    exact hlacks.named (Option.some.inj (hlacks.isParent.symm.trans hpath.2.2.2))

/-- A report is saved beside a file, which stays as it is; under an empty path it is
not saved. -/
theorem save_touches_one_file_beside_another :
    ∃ after, (save oneFailure "out.json").effect ⟨oneFile, #[]⟩ = (.ok (), after) ∧
      after.find "out.json" = .ok (["out.json"], .file oneFailure.octets false) ∧
      after.tree.at? ["old.json"] = some (.file [0x30] false) ∧
      ∃ reason, (save oneFailure "").effect ⟨oneFile, #[]⟩ = (.error reason, oneFile) := by
  obtain ⟨result, after, heffect, hsaved, -⟩ :=
    save_touches_one_file oneFailure "out.json" ⟨oneFile, #[]⟩
  obtain ⟨result', after', hempty, -, -, hunfit, -⟩ :=
    save_touches_one_file oneFailure "" ⟨oneFile, #[]⟩
  obtain ⟨rfl, rfl⟩ := Prod.mk.inj (effect_save_oneFile.symm.trans heffect)
  have hfind := FileSystem.find_writeAt findForWriting_oneFile oneFailure.octets
  obtain ⟨place, executable, hplace, hothers⟩ := hsaved rfl
  obtain ⟨rfl, -⟩ := Prod.mk.inj (Except.ok.inj (hfind.symm.trans hplace))
  obtain ⟨⟨reason, rfl⟩, rfl⟩ := hunfit (.inl rfl)
  exact ⟨_, heffect, hfind, (hothers ["old.json"] (by decide) [0x30] false).mpr rfl, reason, hempty⟩

end Report
end SyntaxCensus
