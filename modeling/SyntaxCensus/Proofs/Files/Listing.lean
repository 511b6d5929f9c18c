import SyntaxCensus.Files.Sources
import SyntaxCensus.Proofs.Journal.Agreement
import SyntaxCensus.Proofs.Journal.Changes

/-!
# Sources of directories

The sources of a directory are determined by the names in it, by which of them
are files, and by what these hold.  Directories that are alike in this have the
same sources with the same texts, in whatever order they have them.  Listing and
reading changes nothing.

Main definitions:

- `Sources.selected`, `Sources.listed`: the sources that are listed.
- `Sources.Alike`: some names stand for the same files in two directories.

Main results:

- `Sources.hasEffect_list`, `Sources.hasEffect_read`: what listing and reading
  do.
- `Sources.Alike.listed_eq`, `Sources.agree_read`: sources of directories that
  are alike.
-/

namespace SyntaxCensus
namespace Sources

/-! ## Listing -/

/-- The names of files with the extension asked for. -/
def selected (fs : FileSystem) (directory : String) (filter : Option String)
    (names : List String) : List String :=
  names.filter fun name => fs.isFile (Path.join directory name) && hasExtension filter name

/-- Texts in ascending order. -/
def ascending (names : List String) : List String :=
  names.mergeSort fun a b => !decide (b < a)

/-- The sources that are listed. -/
def listed (fs : FileSystem) (directory : String) (filter : Option String) :
    Except SourceError (List String) :=
  match fs.list directory with
  | .error cause => .error (.unlisted directory cause)
  | .ok names => .ok (ascending (selected fs directory filter names))

/-- Selecting keeps the files and gives the names that are wanted. -/
theorem hasEffect_select (fs : FileSystem) (directory : String) (filter : Option String)
    (names : List String) :
    Action.HasEffect (select fs directory filter names)
      fun state => (.ok (selected fs directory filter names), state) := by
  induction names with
  | nil => exact Action.hasEffect_pure []
  | cons name rest ih =>
      have hkeep : Action.HasEffect (do return name :: (← select fs directory filter rest))
          fun state => (.ok (name :: selected fs directory filter rest), state) :=
        ih.bind fun _ => Action.hasEffect_pure _
      unfold select
      dsimp only
      by_cases hfile : fs.isFile (Path.join directory name)
      · by_cases hextension : hasExtension filter name
        · simpa only [selected, hfile, hextension, if_true, Bool.and_true, List.filter_cons_of_pos]
            using hkeep
        · simpa [selected, hfile, hextension] using Action.HasEffect.log_bind _ _ _ ih
      · simpa [selected, hfile] using ih

/-- What listing does. -/
theorem hasEffect_list (directory : String) (filter : Option String) :
    Action.HasEffect (list directory filter) fun fs => (listed fs directory filter, fs) := by
  refine @Action.HasEffect.get_bind _ _ _ _
    (fun fs state => (listed fs directory filter, state)) fun session => ?_
  unfold listed
  dsimp only
  cases session.state.list directory with
  | error cause => exact Action.hasEffect_throw _
  | ok names =>
      exact (hasEffect_select session.state directory filter names).bind fun _ =>
        Action.hasEffect_pure _

/-- Listing leads to the sources and keeps the files. -/
theorem leads_list_iff {directory : String} {filter : Option String} {fs next : FileSystem}
    {sources : List String} :
    (list directory filter).Leads fs sources next ↔
      listed fs directory filter = .ok sources ∧ next = fs := by
  rw [Action.Leads, hasEffect_list directory filter]
  simp only [Prod.mk.injEq, eq_comm]

theorem gives_list_iff {directory : String} {filter : Option String} {fs : FileSystem}
    {sources : List String} :
    (list directory filter).Gives ⟨fs, #[]⟩ sources ↔
      listed fs directory filter = .ok sources := by
  rw [← Action.exists_leads_iff]
  simp [leads_list_iff]

/-- Sources cannot be listed if the directory cannot. -/
theorem fails_list_iff {directory : String} {filter : Option String} {fs : FileSystem} :
    (list directory filter).Fails fs ↔ ∃ cause, fs.list directory = .error cause := by
  rw [Action.Fails, hasEffect_list directory filter]
  unfold listed
  dsimp only
  cases fs.list directory <;> simp

/-- Listed sources are names in the directory. -/
theorem mem_of_listed {fs : FileSystem} {directory : String} {filter : Option String}
    {names sources : List String} (hnames : fs.list directory = .ok names)
    (h : listed fs directory filter = .ok sources) {name : String} (hmem : name ∈ sources) :
    name ∈ names := by
  simp only [listed, hnames, Except.ok.injEq] at h
  rw [← h, ascending, List.mem_mergeSort] at hmem
  exact (List.mem_filter.mp hmem).1

/-- Texts in ascending order are in the order of texts. -/
theorem pairwise_ascending (names : List String) : (ascending names).Pairwise (· ≤ ·) := by
  have hle (a b : String) : (!decide (b < a)) = true ↔ a ≤ b := by
    rw [Bool.not_eq_true', decide_eq_false_iff_not, String.not_lt]
  refine (List.pairwise_mergeSort ?_ ?_ names).imp fun {a b} hab => (hle a b).mp hab
  · intro a b c hab hbc
    exact (hle a c).mpr (String.le_trans ((hle a b).mp hab) ((hle b c).mp hbc))
  · intro a b
    rw [Bool.or_eq_true, hle, hle]
    exact String.le_total a b

/-- Nothing is lost and nothing is new in ascending order. -/
theorem perm_ascending (names : List String) : (ascending names).Perm names :=
  List.mergeSort_perm _ _

/-- Texts that are in ascending order are those that sorting gives. -/
theorem eq_ascending {sorted names : List String} (hsorted : sorted.Pairwise (· ≤ ·))
    (hperm : sorted.Perm names) : sorted = ascending names := by
  have hsame := hperm.trans (perm_ascending names).symm
  refine hsame.eq_of_pairwise ?_ hsorted (pairwise_ascending names)
  exact fun _ _ _ _ hab hba => String.le_antisymm hab hba

/-- Texts in another order are the same in ascending order. -/
theorem ascending_eq_of_perm {names others : List String} (h : names.Perm others) :
    ascending names = ascending others :=
  eq_ascending (pairwise_ascending names) ((perm_ascending names).trans h)

/-- What is kept of texts in ascending order is in ascending order. -/
theorem filter_ascending (keep : String → Bool) (names : List String) :
    (ascending names).filter keep = ascending (names.filter keep) :=
  eq_ascending ((pairwise_ascending names).filter _) ((perm_ascending names).filter _)

/-- Where the same names are those of files, the order of names does not
matter. -/
theorem listed_eq_of_perm {fs fs' : FileSystem} {directory other : String}
    {names others : List String} (hperm : names.Perm others)
    (hnames : fs.list directory = .ok names) (hothers : fs'.list other = .ok others)
    (hfiles : ∀ name ∈ names,
      fs.isFile (Path.join directory name) = fs'.isFile (Path.join other name))
    (filter : Option String) : listed fs directory filter = listed fs' other filter := by
  have hselected : selected fs directory filter names = selected fs' other filter names :=
    List.filter_congr fun name hname => by rw [hfiles name hname]
  simp only [listed, hnames, hothers, hselected]
  exact congrArg _ (ascending_eq_of_perm (hperm.filter _))

/-! ## Reading -/

/-- The text of a source. -/
def textOf (fs : FileSystem) (directory name : String) : Except SourceError String :=
  match fs.readFile (Path.join directory name) with
  | .error cause => .error (.unread (Path.join directory name) cause)
  | .ok octets =>
      match Utf8.decode? octets with
      | none => .error (.unread (Path.join directory name) .notText)
      | some text => .ok text

/-- A source has a text if it can be read and its octets are that of a text. -/
theorem toOption_textOf (fs : FileSystem) (directory name : String) :
    (textOf fs directory name).toOption =
      (fs.readFile (Path.join directory name)).toOption.bind Utf8.decode? := by
  unfold textOf
  cases fs.readFile (Path.join directory name) with
  | error cause => rfl
  | ok octets =>
      simp only [Except.toOption, Option.bind_some]
      cases Utf8.decode? octets <;> rfl

/-- What reading does. -/
theorem hasEffect_read (directory name : String) :
    Action.HasEffect (read directory name) fun fs => (textOf fs directory name, fs) := by
  refine @Action.HasEffect.get_bind _ _ _ _
    (fun fs state => (textOf fs directory name, state)) fun session => ?_
  unfold textOf
  dsimp only
  cases session.state.readFile (Path.join directory name) with
  | error cause => exact Action.hasEffect_throw _
  | ok octets =>
      dsimp only
      cases Utf8.decode? octets with
      | none => exact Action.hasEffect_throw _
      | some text => exact Action.hasEffect_pure text

/-! ## Nothing changes -/

theorem within_list (step : FileSystem → FileSystem → Prop) (directory : String)
    (filter : Option String) : Action.Within step (list directory filter) :=
  Action.within_of_hasEffect (hasEffect_list directory filter)

theorem within_read (step : FileSystem → FileSystem → Prop) (directory name : String) :
    Action.Within step (read directory name) :=
  Action.within_of_hasEffect (hasEffect_read directory name)

/-! ## Directories that are alike -/

/-- Some names stand for files in one directory exactly if they do in another
one, and these can be read in both, with the same octets, or in none. -/
structure Alike (names : List String) (directory other : String) (fs fs' : FileSystem) :
    Prop where
  files : ∀ name ∈ names,
    fs.isFile (Path.join directory name) = fs'.isFile (Path.join other name)
  octets : ∀ name ∈ names,
    (fs.readFile (Path.join directory name)).toOption =
      (fs'.readFile (Path.join other name)).toOption

namespace Alike

variable {names : List String} {directory other : String} {fs fs' : FileSystem}

/-- Directories with the same names that are alike have the same sources. -/
theorem listed_eq (h : Alike names directory other fs fs') {others : List String}
    (hperm : names.Perm others) (hnames : fs.list directory = .ok names)
    (hothers : fs'.list other = .ok others) (filter : Option String) :
    listed fs directory filter = listed fs' other filter :=
  listed_eq_of_perm hperm hnames hothers h.files filter

/-- Sources of directories that are alike have the same text, or none. -/
theorem textOf_eq (h : Alike names directory other fs fs') {name : String} (hname : name ∈ names) :
    (textOf fs directory name).toOption = (textOf fs' other name).toOption := by
  rw [toOption_textOf, toOption_textOf, h.octets name hname]

end Alike

/-- Reading a source under names that are alike in related states. -/
theorem agree_read {rel : FileSystem → FileSystem → Prop} {names : List String}
    {directory other name : String} (h : ∀ fs fs', rel fs fs' → Alike names directory other fs fs')
    (hname : name ∈ names) : Action.Agree rel (read directory name) (read other name) :=
  Action.agree_of_hasEffect (hasEffect_read _ _) (hasEffect_read _ _)
    fun fs fs' hrel => ⟨(h fs fs' hrel).textOf_eq hname, hrel⟩

end Sources
end SyntaxCensus
