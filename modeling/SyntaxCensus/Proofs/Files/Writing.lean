import Mathlib.Tactic.SplitIfs
import SyntaxCensus.Files.Operations
import SyntaxCensus.Proofs.Bindings

/-!
# Reading what was written

Writing a path puts a file at the location that the path leads to.  Nothing
else that a walk sees changes, so the path leads to the new file afterwards,
through the same directories and the same links.

Main definitions:

- `Entry.outline`: what a walk sees of an entry.
- `Entry.IsPlace`: a location where a file can be put.
- `FileSystem.LeadsTo`: the walks through names to such a location.

Main results:

- `Entry.at?_put_self`, `Entry.outline_at?_put`: putting a file changes its own
  location only.
- `FileSystem.LeadsTo.walk_eq`: after a file was put where names lead, walking
  through the names ends at it.
- `FileSystem.find_writeAt`, `FileSystem.outline_at?_writeAt`: what a path leads
  to after writing to it, and what is elsewhere.
-/

namespace SyntaxCensus
namespace Entry

/-! ## Putting a file into a tree -/

/-- What a walk sees of an entry; it looks at the entries of a directory only
one by one. -/
def outline : Entry → Entry
  | .directory _ => .directory []
  | other => other

/-- The outline of a directory tells that it is one. -/
theorem outline_eq_directory {entry : Entry} (h : entry.outline = .directory []) :
    ∃ entries, entry = .directory entries := by
  cases entry with
  | file content executable => simp [outline] at h
  | directory entries => exact ⟨entries, rfl⟩
  | link target => simp [outline] at h

/-- The outline of a link tells its target. -/
theorem outline_eq_link {entry : Entry} {target : String} (h : entry.outline = .link target) :
    entry = .link target := by
  cases entry with
  | file content executable => simp [outline] at h
  | directory entries => simp [outline] at h
  | link other => exact h

/-- A location where a file can be put: in a directory, and nothing else than a
file is there. -/
def IsPlace (tree : Entry) (location : List String) : Prop :=
  ∃ directory name, location = directory ++ [name] ∧
    (∃ entries, tree.at? directory = some (.directory entries)) ∧
    ∀ entry, tree.at? location = some entry → entry.isFile = true

/-- A file has no entries. -/
theorem at?_cons_of_isFile {entry : Entry} (h : entry.isFile = true) (name : String)
    (rest : List String) : entry.at? (name :: rest) = none := by
  cases entry with
  | file content executable => rfl
  | directory entries => simp [isFile] at h
  | link target => simp [isFile] at h

/-- What is at a name in a directory is at the location of the name. -/
theorem at?_append (tree : Entry) (directory rest : List String) :
    tree.at? (directory ++ rest) = (tree.at? directory).bind (·.at? rest) := by
  induction directory generalizing tree with
  | nil => rfl
  | cons name more ih =>
      simp only [List.cons_append, at?, Option.bind_assoc]
      exact congrArg _ (funext fun entry => ih entry)

/-- A directory in which something is. -/
theorem isDirectory_of_at? {tree entry : Entry} {directory : List String} {name : String}
    (h : tree.at? (directory ++ [name]) = some entry) :
    ∃ entries, tree.at? directory = some (.directory entries) := by
  rw [at?_append] at h
  obtain ⟨parent, hparent, hchild⟩ := Option.bind_eq_some_iff.mp h
  cases parent with
  | file content executable => simp [at?, child?] at hchild
  | directory entries => exact ⟨entries, hparent⟩
  | link target => simp [at?, child?] at hchild

/-- An entry on the way to a directory is a directory with the next one in it. -/
theorem directory_of_at?_cons {tree entry : Entry} {name : String} {rest : List String}
    (h : tree.at? (name :: rest) = some entry) :
    ∃ entries inner, tree = .directory entries ∧ Keyed.lookup name entries = some inner ∧
      inner.at? rest = some entry := by
  cases tree with
  | file content executable => simp [at?, child?] at h
  | directory entries =>
      obtain ⟨inner, hinner, hrest⟩ := Option.bind_eq_some_iff.mp h
      exact ⟨entries, inner, rfl, hinner, hrest⟩
  | link target => simp [at?, child?] at h

/-- What is below a directory is in what the first name stands for. -/
theorem at?_directory_cons (entries : List (String × Entry)) (name : String)
    (rest : List String) :
    (directory entries).at? (name :: rest) = (Keyed.lookup name entries).bind (·.at? rest) :=
  rfl

/-- A path goes on inside the entry that its first name has. -/
theorem at?_cons_of_lookup {entries : List (String × Entry)} {name : String} {inner : Entry}
    (h : Keyed.lookup name entries = some inner) (rest : List String) :
    (directory entries).at? (name :: rest) = inner.at? rest := by
  rw [at?_directory_cons, h, Option.bind_some]

/-- An entry that is put below a directory is put into what its first name stands
for. -/
theorem at?_put_cons (entries : List (String × Entry)) (name key : String)
    (rest more : List String) (entry : Entry) :
    ((directory entries).put (name :: rest) entry).at? (key :: more) =
      if name = key then
        (((Keyed.lookup name entries).getD (.directory [])).put rest entry).at? more
      else (directory entries).at? (key :: more) := by
  by_cases hkey : name = key <;>
    simp [put, at?, child?, Keyed.lookup_insertWith_const, hkey]

/-- What was put into a directory is there. -/
theorem at?_put_self (tree entry : Entry) {directory : List String} {name : String}
    {entries : List (String × Entry)} (h : tree.at? directory = some (.directory entries)) :
    (tree.put (directory ++ [name]) entry).at? (directory ++ [name]) = some entry := by
  induction directory generalizing tree with
  | nil =>
      obtain rfl : tree = .directory entries := Option.some.inj h
      rw [List.nil_append, at?_put_cons, if_pos rfl]
      rfl
  | cons first rest ih =>
      obtain ⟨bindings, inner, rfl, hinner, hrest⟩ := directory_of_at?_cons h
      rw [List.cons_append, at?_put_cons, if_pos rfl, hinner, Option.getD_some]
      exact ih inner hrest

/-- What was put at a place is there. -/
theorem IsPlace.at?_put {tree : Entry} {place : List String} (h : tree.IsPlace place)
    (entry : Entry) : (tree.put place entry).at? place = some entry := by
  obtain ⟨directory, name, rfl, ⟨entries, hdirectory⟩, _⟩ := h
  exact at?_put_self tree entry hdirectory

/-- Of two entries put at one location the second one stays. -/
theorem put_put (tree first second : Entry) (location : List String) :
    (tree.put location first).put location second = tree.put location second := by
  induction location generalizing tree with
  | nil => rfl
  | cons name rest ih =>
      cases tree with
      | file content executable => rfl
      | directory entries =>
          simp only [put, Keyed.lookup_insertWith_const, if_true, Option.getD_some, ih,
            Keyed.insertWith_insertWith_const]
      | link target => rfl

/-- A file put into a tree leaves what a walk sees at other locations. -/
theorem outline_at?_put (tree : Entry) {file : Entry} (hfile : file.isFile = true)
    {place location : List String} (hplace : tree.IsPlace place) (hne : location ≠ place) :
    ((tree.put place file).at? location).map outline = (tree.at? location).map outline := by
  obtain ⟨directory, name, rfl, ⟨entries, hdirectory⟩, hfree⟩ := hplace
  induction directory generalizing tree location with
  | nil =>
      obtain rfl : tree = .directory entries := Option.some.inj hdirectory
      cases location with
      | nil => rfl
      | cons key rest =>
          rw [List.nil_append, at?_put_cons]
          split_ifs with hkey
          · -- below the file there is nothing, before and after
            subst hkey
            obtain ⟨next, more, rfl⟩ : ∃ next more, rest = next :: more :=
              List.exists_cons_of_ne_nil fun hnil => hne (by rw [hnil, List.nil_append])
            have hnew := at?_cons_of_isFile hfile next more
            have hold : (Entry.directory entries).at? (name :: next :: more) = none := by
              rw [at?_directory_cons]
              cases hlookup : Keyed.lookup name entries with
              | none => rfl
              | some old =>
                  have hisFile : old.isFile = true :=
                    hfree old (by rw [List.nil_append, at?_directory_cons, hlookup]; rfl)
                  exact at?_cons_of_isFile hisFile next more
            rw [hold]
            exact congrArg _ hnew
          · rfl
  | cons first more ih =>
      obtain ⟨bindings, inner, rfl, hinner, hmore⟩ := directory_of_at?_cons hdirectory
      cases location with
      | nil => rfl
      | cons key rest =>
          rw [List.cons_append, at?_put_cons]
          split_ifs with hkey
          · subst hkey
            have hfree' : ∀ entry, inner.at? (more ++ [name]) = some entry →
                entry.isFile = true := fun entry hentry =>
              hfree entry ((at?_cons_of_lookup hinner _).trans hentry)
            have hne' : rest ≠ more ++ [name] := fun heq => hne (by rw [heq, List.cons_append])
            rw [hinner, Option.getD_some, at?_cons_of_lookup hinner]
            exact ih inner hne' hfree' hmore
          · rfl

end Entry

namespace FileSystem

/-! ## Where writing goes -/

/-- A name that stands for an entry of a directory. -/
structure IsProper (name : String) : Prop where
  short : ¬ maxName < name.utf8ByteSize
  notDot : name ≠ "."
  notDots : name ≠ ".."

/-- Names lead from a directory to a place for a file, following at most some
number of links. -/
inductive LeadsTo (tree : Entry) : Nat → List String → List String → List String → Prop
  | stay {links : Nat} {location rest place : List String}
      (next : LeadsTo tree links location rest place) :
      LeadsTo tree links location ("." :: rest) place
  | up {links : Nat} {location rest place : List String}
      (next : LeadsTo tree links location.dropLast rest place) :
      LeadsTo tree links location (".." :: rest) place
  | enter {links : Nat} {location rest place : List String} {name : String}
      {entries : List (String × Entry)} (proper : IsProper name)
      (found : tree.at? (location ++ [name]) = some (.directory entries))
      (next : LeadsTo tree links (location ++ [name]) rest place) :
      LeadsTo tree links location (name :: rest) place
  | follow {left : Nat} {location rest place : List String} {name target : String}
      (proper : IsProper name) (found : tree.at? (location ++ [name]) = some (.link target))
      (nonempty : target ≠ "")
      (next : LeadsTo tree left (origin location target) (steps target ++ rest) place) :
      LeadsTo tree (left + 1) location (name :: rest) place
  | make {links : Nat} {location : List String} {name : String}
      {entries : List (String × Entry)} (proper : IsProper name)
      (parent : tree.at? location = some (.directory entries))
      (found : tree.at? (location ++ [name]) = none) :
      LeadsTo tree links location [name] (location ++ [name])
  | replace {links : Nat} {location : List String} {name : String} {content : List UInt8}
      {executable : Bool} (proper : IsProper name)
      (found : tree.at? (location ++ [name]) = some (.file content executable)) :
      LeadsTo tree links location [name] (location ++ [name])

/-- An entry that is known to be a directory has entries. -/
theorem exists_directory_of_any {found : Option Entry} (h : found.any Entry.isDirectory = true) :
    ∃ entries, found = some (.directory entries) := by
  obtain ⟨entry, rfl, hentry⟩ := (Option.any_eq_true _ _).mp h
  cases entry with
  | file content executable => simp [Entry.isDirectory] at hentry
  | directory entries => exact ⟨entries, rfl⟩
  | link target => simp [Entry.isDirectory] at hentry

/-- Writing goes where the names lead, and never to a path that ends in a
slash. -/
theorem leadsTo_of_walkForWriting {tree : Entry} {links : Nat}
    {location names place : List String} {slash : Bool}
    (h : walkForWriting tree links location names slash = .ok place) :
    slash = false ∧ LeadsTo tree links location names place := by
  fun_induction walkForWriting tree links location names slash with
  | case1 | case2 | case3 | case7 | case10 | case11 | case12 => simp at h
  | case4 _ _ _ _ _ _ ih => exact ⟨(ih h).1, .stay (ih h).2⟩
  | case5 _ _ _ _ _ _ _ ih => exact ⟨(ih h).1, .up (ih h).2⟩
  | case6 _ location _ _ _ hslash hshort hdot hdots hfound hlast =>
      obtain rfl := Except.ok.inj h
      obtain ⟨hnil, hparent⟩ := Bool.and_eq_true_iff.mp hlast
      obtain rfl := List.isEmpty_iff.mp hnil
      obtain ⟨entries, hentries⟩ := exists_directory_of_any hparent
      exact ⟨by simpa using hslash, .make ⟨hshort, hdot, hdots⟩ hentries hfound⟩
  | case8 _ _ _ _ _ _ hshort hdot hdots _ hfound ih =>
      exact ⟨(ih h).1, .enter ⟨hshort, hdot, hdots⟩ hfound (ih h).2⟩
  | case9 _ _ _ _ _ hslash hshort hdot hdots _ _ hfound hnil =>
      obtain rfl := Except.ok.inj h
      obtain rfl := List.isEmpty_iff.mp hnil
      exact ⟨by simpa using hslash, .replace ⟨hshort, hdot, hdots⟩ hfound⟩
  | case13 _ _ _ _ hslash hshort hdot hdots target hfound _ hnonempty hnil ih =>
      obtain rfl := List.isEmpty_iff.mp hnil
      obtain ⟨hend, hnext⟩ := ih h
      -- the target has no slash at its end, so it is walked name by name
      have hsteps : steps target ++ [] = Path.names target := by simp [steps, hend]
      rw [← hsteps] at hnext
      exact ⟨by simpa using hslash,
        .follow ⟨hshort, hdot, hdots⟩ hfound (by simpa using hnonempty) hnext⟩
  | case14 _ _ _ _ _ hshort hdot hdots _ hfound _ hnonempty hlast ih =>
      refine ⟨(ih h).1, .follow ⟨hshort, hdot, hdots⟩ hfound ?_ (ih h).2⟩
      simpa using hnonempty

/-- Where names lead to there is a place for a file. -/
theorem LeadsTo.isPlace {tree : Entry} {links : Nat} {location names place : List String}
    (h : LeadsTo tree links location names place) : tree.IsPlace place := by
  induction h with
  | stay next ih => exact ih
  | up next ih => exact ih
  | enter proper found next ih => exact ih
  | follow proper found nonempty next ih => exact ih
  | make proper parent found =>
      refine ⟨_, _, rfl, ⟨_, parent⟩, fun entry hentry => ?_⟩
      simp [found] at hentry
  | replace proper found =>
      refine ⟨_, _, rfl, Entry.isDirectory_of_at? found, fun entry hentry => ?_⟩
      rw [found] at hentry
      obtain rfl := Option.some.inj hentry
      rfl

/-! ## What is read afterwards -/

/-- A directory or a link in a tree is still there in one that differs at a
place for a file only. -/
theorem at?_of_frame {tree tree' entry : Entry} {place location : List String}
    (hplace : tree.IsPlace place)
    (hframe : ∀ other, other ≠ place →
      (tree'.at? other).map Entry.outline = (tree.at? other).map Entry.outline)
    (hfound : tree.at? location = some entry) (hfile : entry.isFile = false) :
    ∃ entry', tree'.at? location = some entry' ∧ entry'.outline = entry.outline := by
  obtain ⟨_, _, _, _, hfree⟩ := hplace
  have hne : location ≠ place := by
    rintro rfl
    exact absurd (hfree entry hfound) (by simp [hfile])
  have hsame := hframe location hne
  rw [hfound, Option.map_some] at hsame
  exact Option.map_eq_some_iff.mp hsame

/-- A tree with a file where names lead to, and otherwise as it was for a walk:
walking through the names ends at the file. -/
theorem LeadsTo.walk_eq {tree tree' : Entry} {links : Nat} {location names place : List String}
    {content : List UInt8} {executable : Bool}
    (h : LeadsTo tree links location names place)
    (hfile : tree'.at? place = some (.file content executable))
    (hframe : ∀ other, other ≠ place →
      (tree'.at? other).map Entry.outline = (tree.at? other).map Entry.outline) :
    walk tree' true links location names = .ok (.present place (.file content executable)) := by
  have hplace := h.isPlace
  induction h with
  | stay next ih =>
      have hshort : ¬ maxName < ".".utf8ByteSize := by decide
      simp only [walk, hshort, if_false, if_true]
      exact ih hfile hframe hplace
  | up next ih =>
      have hshort : ¬ maxName < "..".utf8ByteSize := by decide
      have hdot : ".." ≠ "." := by decide
      simp only [walk, hshort, hdot, if_false, if_true]
      exact ih hfile hframe hplace
  | enter proper found next ih =>
      obtain ⟨entry', hentry', houtline⟩ := at?_of_frame hplace hframe found rfl
      obtain ⟨entries', rfl⟩ := Entry.outline_eq_directory houtline
      simp only [walk, proper.short, proper.notDot, proper.notDots, if_false, hentry']
      exact ih hfile hframe hplace
  | follow proper found nonempty next ih =>
      obtain ⟨entry', hentry', houtline⟩ := at?_of_frame hplace hframe found rfl
      obtain rfl := Entry.outline_eq_link houtline
      simp only [walk, proper.short, proper.notDot, proper.notDots, if_false, hentry',
        Bool.not_true, Bool.and_false, Bool.false_eq_true, String.isEmpty_iff, nonempty]
      exact ih hfile hframe hplace
  | make proper parent found =>
      simp [walk, proper.short, proper.notDot, proper.notDots, hfile]
  | replace proper found =>
      simp [walk, proper.short, proper.notDot, proper.notDots, hfile]

/-- Where writing to a path goes the names of the path lead. -/
theorem leadsTo_of_findForWriting {fs : FileSystem} {path : String} {place : List String}
    (h : fs.findForWriting path = .ok place) :
    rejects? path = none ∧
      LeadsTo fs.tree maxLinks (origin fs.working path) (steps path) place := by
  cases hrejects : rejects? path with
  | some fault => simp [findForWriting, hrejects] at h
  | none =>
      simp only [findForWriting, hrejects] at h
      obtain ⟨hslash, hleads⟩ := leadsTo_of_walkForWriting h
      have hsteps : steps path = Path.names path := by simp [steps, hslash]
      exact ⟨rfl, hsteps ▸ hleads⟩

section Write

variable {fs : FileSystem} {path : String} {place : List String}
  (h : fs.findForWriting path = .ok place) (octets : List UInt8)
include h

/-- What is written where writing to a path goes is what the path leads to. -/
theorem find_writeAt :
    (fs.writeAt place octets).find path =
      .ok (place, .file octets (fs.isExecutableAt place)) := by
  obtain ⟨hrejects, hleads⟩ := leadsTo_of_findForWriting h
  have hwalk := hleads.walk_eq
    (hleads.isPlace.at?_put (.file octets (fs.isExecutableAt place)))
    fun other hother => Entry.outline_at?_put fs.tree rfl hleads.isPlace hother
  simp only [find, locate, writeAt, hrejects, hwalk]

/-- Writing changes nothing that a walk sees at other locations. -/
theorem outline_at?_writeAt {location : List String} (hne : location ≠ place) :
    ((fs.writeAt place octets).tree.at? location).map Entry.outline =
      (fs.tree.at? location).map Entry.outline :=
  Entry.outline_at?_put fs.tree rfl (leadsTo_of_findForWriting h).2.isPlace hne

/-- Emptying a file and writing at its end replaces what it has. -/
theorem appendAt_writeAt_nil :
    (fs.writeAt place []).appendAt place octets = fs.writeAt place octets := by
  have hempty := (leadsTo_of_findForWriting h).2.isPlace.at?_put
    (.file [] (fs.isExecutableAt place))
  simp only [appendAt, writeAt, contentAt, isExecutableAt] at hempty ⊢
  simp only [hempty, List.nil_append, Entry.put_put]

end Write

end FileSystem
end SyntaxCensus
