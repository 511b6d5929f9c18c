import SyntaxCensus.Proofs.Files.Writing

/-!
# Trees that grow by directories

Making a directory puts it where nothing was.  Making several, also when a fault
ends it before the last one, is making one after another, so no file is made,
replaced or lost on the way.

Main definitions:

- `Entry.GrowsTo`, `FileSystem.GrowsTo`: nothing but further directories.

Main results:

- `Entry.growsTo_put`: one directory where nothing was.
- `FileSystem.growsTo_createDirectories`: a directory and those above it.
- `Entry.GrowsTo.file_iff`: the files stay as they are.
-/

namespace SyntaxCensus
namespace Entry

/-! ## Trees -/

/-- Outlines tell files apart. -/
theorem map_outline_eq_file_iff {found : Option Entry} {content : List UInt8}
    {executable : Bool} :
    found.map outline = some (.file content executable) ↔
      found = some (.file content executable) := by
  rcases found with _ | (_ | _ | _) <;> simp [outline]

/-- Outlines tell directories apart. -/
theorem map_outline_eq_directory_iff {found : Option Entry} :
    found.map outline = some (.directory []) ↔
      ∃ entries, found = some (.directory entries) := by
  rcases found with _ | (_ | _ | _) <;> simp [outline]

/-- Everything that a walk sees in a tree is in another one too, and what is there
beyond it are directories. -/
def GrowsTo (tree grown : Entry) : Prop :=
  ∀ location, (grown.at? location).map outline = (tree.at? location).map outline ∨
    tree.at? location = none ∧ (grown.at? location).map outline = some (.directory [])

namespace GrowsTo

theorem refl (tree : Entry) : tree.GrowsTo tree :=
  fun _ => .inl rfl

theorem trans {tree middle grown : Entry} (hfirst : tree.GrowsTo middle)
    (hsecond : middle.GrowsTo grown) : tree.GrowsTo grown := by
  intro location
  rcases hfirst location with hsame | ⟨hfree, hmade⟩
  · rcases hsecond location with hkept | ⟨hvacant, hmade⟩
    · exact .inl (hkept.trans hsame)
    · have hfree : tree.at? location = none := by
        rw [hvacant] at hsame
        exact Option.map_eq_none_iff.mp hsame.symm
      exact .inr ⟨hfree, hmade⟩
  · rcases hsecond location with hkept | ⟨hvacant, -⟩
    · exact .inr ⟨hfree, hkept.trans hmade⟩
    · rw [hvacant] at hmade
      cases hmade

/-- The files are the same. -/
theorem file_iff {tree grown : Entry} (h : tree.GrowsTo grown) {location : List String}
    {content : List UInt8} {executable : Bool} :
    grown.at? location = some (.file content executable) ↔
      tree.at? location = some (.file content executable) := by
  calc grown.at? location = some (.file content executable)
      ↔ (grown.at? location).map outline = some (.file content executable) :=
        map_outline_eq_file_iff.symm
    _ ↔ (tree.at? location).map outline = some (.file content executable) := by
        rcases h location with hsame | ⟨hfree, hmade⟩
        · rw [hsame]
        · simp [hfree, hmade]
    _ ↔ tree.at? location = some (.file content executable) := map_outline_eq_file_iff

end GrowsTo

/-- A directory put where nothing was lets the tree grow. -/
theorem growsTo_put (tree : Entry) {location : List String} (hfree : tree.at? location = none) :
    tree.GrowsTo (tree.put location (.directory [])) := by
  induction location generalizing tree with
  | nil => cases hfree
  | cons name rest ih =>
      cases tree with
      | file content executable => exact .refl _
      | link target => exact .refl _
      | directory entries =>
          intro other
          cases other with
          | nil => exact .inl rfl
          | cons key more =>
              rw [at?_put_cons]
              split_ifs with hkey
              · subst hkey
                cases hlookup : Keyed.lookup name entries with
                | some inner =>
                    rw [at?_cons_of_lookup hlookup] at hfree ⊢
                    exact ih inner hfree more
                | none =>
                    have hvacant : (directory entries).at? (name :: more) = none := by
                      rw [at?_directory_cons, hlookup, Option.bind_none]
                    -- the directories on the way are new as well
                    have hinside : (directory []).GrowsTo
                        ((directory []).put rest (directory [])) := by
                      cases rest with
                      | nil => exact .refl _
                      | cons next others => exact ih _ rfl
                    rw [hvacant, Option.getD_none]
                    rcases hinside more with hsame | ⟨-, hmade⟩
                    · cases more with
                      | nil => exact .inr ⟨rfl, hsame⟩
                      | cons next others => exact .inl hsame
                    · exact .inr ⟨rfl, hmade⟩
              · exact .inl rfl

end Entry

namespace FileSystem

/-! ## Making directories -/

/-- Nothing but directories is made, and the working directory stays. -/
structure GrowsTo (before after : FileSystem) : Prop where
  tree : before.tree.GrowsTo after.tree
  working : after.working = before.working

namespace GrowsTo

theorem refl (fs : FileSystem) : fs.GrowsTo fs where
  tree := .refl _
  working := rfl

theorem trans {before middle after : FileSystem} (hfirst : before.GrowsTo middle)
    (hsecond : middle.GrowsTo after) : before.GrowsTo after where
  tree := hfirst.tree.trans hsecond.tree
  working := hsecond.working.trans hfirst.working

end GrowsTo

/-- A directory that was made is where nothing was. -/
theorem growsTo_createDirectory {fs made : FileSystem} {path : String}
    (h : fs.createDirectory path = .ok made) : fs.GrowsTo made := by
  unfold createDirectory at h
  split at h
  · cases h
  · split at h
    · cases h
    · split at h
      · cases h
      · next directory last _ =>
        split_ifs at h
        split at h
        · cases h
        · next hfree =>
          obtain rfl := Except.ok.inj h
          exact ⟨Entry.growsTo_put fs.tree hfree, rfl⟩

/-- Making directories level by level makes nothing else, wherever a fault ends
it. -/
theorem growsTo_createLevels (fs : FileSystem) (path : String) (depth : Nat) :
    fs.GrowsTo (fs.createLevels path depth).2 := by
  fun_induction createLevels fs path depth with
  | case1 | case2 | case4 | case9 | case10 => exact .refl fs
  | case3 _ _ _ _ hmade => exact growsTo_createDirectory hmade
  | case5 _ _ _ _ _ _ _ _ habove ih => rwa [habove] at ih
  | case6 _ _ _ _ _ _ _ habove _ hmade ih =>
      rw [habove] at ih
      exact ih.trans (growsTo_createDirectory hmade)
  -- the levels above are made, and on this one nothing is
  | case7 _ _ _ _ _ _ _ habove _ _ _ ih => rwa [habove] at ih
  | case8 _ _ _ _ _ _ _ habove _ _ _ ih => rwa [habove] at ih

/-- Creating directories adds some and takes nothing away, also if it fails on the way. -/
theorem growsTo_createDirectories (fs : FileSystem) (path : String) :
    fs.GrowsTo (fs.createDirectories path).2 :=
  growsTo_createLevels fs path _

end FileSystem
end SyntaxCensus
