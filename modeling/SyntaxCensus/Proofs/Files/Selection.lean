import SyntaxCensus.Proofs.Files.Listing
import SyntaxCensus.Proofs.Text.Order

/-!
# Which sources are listed

The extension of a name is a suffix without a dot that follows a dot with
something before it.  So which names are listed can be told without looking for
the last dot, and their order by the octets.  Both depend on the names in the
directory only, and not on the order in which the system gives them.

Main definitions:

- `Sources.Wanted`: a name that a filter asks for.
- `Sources.Selects`: a list of the files that a filter asks for.

Main results:

- `Path.extension?_eq_some_iff`: which names have an extension.
- `Sources.selects_ascending`: what is listed.
- `Sources.list_selects_ascending`: what listing gives for every filter.
-/

namespace SyntaxCensus

/-! ## Extensions -/

namespace Path

/-- Behind the last dot there is none. -/
theorem dot_notMem_takeWhile (reversed : List Char) : '.' ∉ reversed.takeWhile (· ≠ '.') := by
  intro hdot
  have hall := List.all_eq_true.mp (List.all_takeWhile (l := reversed)) _ hdot
  simp at hall

/-- What is left from the last dot on, seen from the end, begins with it. -/
theorem eq_dot_of_dropWhile {reversed rest : List Char} {c : Char}
    (h : reversed.dropWhile (· ≠ '.') = c :: rest) : c = '.' := by
  have hne : reversed.dropWhile (· ≠ '.') ≠ [] := by rw [h]; exact List.cons_ne_nil c rest
  have hhead := List.head_dropWhile_not (· ≠ '.') hne
  simpa only [h, List.head_cons, decide_eq_false_iff_not, not_not] using hhead

/-- A text without a dot, seen from the end, is passed over up to the dot before
it. -/
theorem span_reverse {ext : List Char} (hext : '.' ∉ ext) (front : List Char) :
    (front ++ '.' :: ext).reverse.takeWhile (· ≠ '.') = ext.reverse ∧
      (front ++ '.' :: ext).reverse.dropWhile (· ≠ '.') = '.' :: front.reverse := by
  have hpass : ∀ c ∈ ext.reverse, decide (c ≠ '.') = true := fun c hc =>
    decide_eq_true fun hdot => hext (hdot ▸ List.mem_reverse.mp hc)
  have hsplit : (front ++ '.' :: ext).reverse = ext.reverse ++ '.' :: front.reverse := by simp
  rw [hsplit, List.takeWhile_append_of_pos hpass, List.dropWhile_append_of_pos hpass]
  simp

/-- The extension of a name is a suffix without a dot that follows a dot with
something before it. -/
theorem extension?_eq_some_iff {name ext : String} :
    extension? name = some ext ↔
      '.' ∉ ext.toList ∧ ∃ front, front ≠ "" ∧ name = front ++ "." ++ ext := by
  constructor
  · intro h
    have hwhole := List.takeWhile_append_dropWhile (p := (· ≠ '.')) (l := name.toList.reverse)
    have hfree := dot_notMem_takeWhile name.toList.reverse
    unfold extension? at h
    dsimp only at h
    generalize name.toList.reverse.takeWhile (· ≠ '.') = after at h hwhole hfree
    split at h
    · cases h
    · cases h
    · next dot rest hrest hdrop =>
      obtain rfl := Option.some.inj h
      obtain rfl := eq_dot_of_dropWhile hdrop
      have hname : name.toList = rest.reverse ++ '.' :: after.reverse := by
        rw [← List.reverse_reverse name.toList, ← hwhole, hdrop]
        simp
      refine ⟨?_, String.ofList rest.reverse, ?_, String.toList_inj.mp ?_⟩
      · rwa [String.toList_ofList, List.mem_reverse]
      · intro hempty
        exact hrest (by simpa using congrArg String.toList hempty)
      · simp [hname]
  · rintro ⟨hext, front, hfront, rfl⟩
    obtain ⟨before, others, hbefore⟩ : ∃ before others, front.toList.reverse = before :: others :=
      List.exists_cons_of_ne_nil fun hnil => hfront (by simpa using hnil)
    have hname : (front ++ "." ++ ext).toList = front.toList ++ '.' :: ext.toList := by simp
    obtain ⟨htake, hdrop⟩ := span_reverse hext front.toList
    unfold extension?
    dsimp only
    rw [hname, hdrop, hbefore]
    dsimp only
    rw [htake, List.reverse_reverse, String.ofList_toList]

end Path

/-- A path leads to a file if a file is found there. -/
theorem FileSystem.isFile_iff {fs : FileSystem} {path : String} :
    fs.isFile path = true ↔
      ∃ location content executable, fs.find path = .ok (location, .file content executable) := by
  unfold FileSystem.isFile
  rcases fs.find path with fault | ⟨location, entry⟩
  · simp
  · cases entry <;> simp [Entry.isFile]

namespace Sources

/-! ## Filters -/

/-- A name that a filter asks for: without a filter every name, otherwise a name
that ends in a dot and the filter, with something before the dot and no dot
behind it. -/
def Wanted : Option String → String → Prop
  | none, _ => True
  | some ext, name => '.' ∉ ext.toList ∧ ∃ front, front ≠ "" ∧ name = front ++ "." ++ ext

/-- The extension of a name is what stands behind its last dot, if something stands before it. -/
theorem hasExtension_iff {filter : Option String} {name : String} :
    hasExtension filter name = true ↔ Wanted filter name := by
  cases filter with
  | none => simp [hasExtension, Wanted]
  | some ext => simp only [hasExtension, Wanted, decide_eq_true_eq, Path.extension?_eq_some_iff]

/-- Nothing is asked for by a filter with a dot. -/
theorem not_wanted_of_dot {ext : String} (hdot : '.' ∈ ext.toList) (name : String) :
    ¬ Wanted (some ext) name :=
  fun h => h.1 hdot

/-- A filter does not ask for a name that has nothing before its dot. -/
theorem not_wanted_dot_append (ext : String) : ¬ Wanted (some ext) ("." ++ ext) := by
  rintro ⟨-, front, hfront, hname⟩
  have hlength := congrArg String.length hname
  rw [String.length_append, String.length_append, String.length_append] at hlength
  exact hfront (String.length_eq_zero_iff.mp (by omega))

/-! ## What is listed -/

variable {fs : FileSystem} {directory : String} {names : List String}

/-- A name is selected if it is there, leads to a file and is wanted. -/
theorem mem_selected_iff {filter : Option String} {name : String} :
    name ∈ selected fs directory filter names ↔
      name ∈ names ∧ fs.isFile (Path.join directory name) = true ∧ Wanted filter name := by
  rw [selected, List.mem_filter, Bool.and_eq_true, hasExtension_iff]

/-- A filter takes from all files those that it asks for. -/
theorem selected_eq_filter (filter : Option String) :
    selected fs directory filter names =
      (selected fs directory none names).filter (hasExtension filter) := by
  simp only [selected, List.filter_filter]
  refine List.filter_congr fun name _ => ?_
  rw [show hasExtension none name = true from rfl, Bool.and_true, Bool.and_comm]

/-- The sources that are listed for a filter are among all files, in the same
order. -/
theorem sublist_ascending_selected (filter : Option String) :
    (ascending (selected fs directory filter names)).Sublist
      (ascending (selected fs directory none names)) := by
  rw [selected_eq_filter filter, ← filter_ascending]
  exact List.filter_sublist

/-- Of distinct texts in ascending order each one has greater octets than those
before it. -/
theorem pairwise_encode_ascending (hdistinct : names.Nodup) :
    (ascending names).Pairwise fun a b => Utf8.encode a < Utf8.encode b := by
  have hnodup : (ascending names).Nodup := (perm_ascending names).nodup_iff.mpr hdistinct
  refine ((pairwise_ascending names).and hnodup).imp fun {a b} hab => ?_
  exact Utf8.encode_lt_encode
    (String.not_le.mp fun hba => hab.2 (String.le_antisymm hab.1 hba))

/-- A list of exactly those of some names in a directory that lead to files and
that a filter asks for, each one with greater octets than those before it. -/
structure Selects (fs : FileSystem) (directory : String) (filter : Option String)
    (names sources : List String) : Prop where
  ascending : sources.Pairwise fun a b => Utf8.encode a < Utf8.encode b
  distinct : sources.Nodup
  mem_iff : ∀ name, name ∈ sources ↔
    name ∈ names ∧
    (∃ location content executable,
      fs.find (Path.join directory name) = .ok (location, .file content executable)) ∧
    Wanted filter name

/-- In ascending order the selected names are the sources. -/
theorem selects_ascending (hdistinct : names.Nodup) (filter : Option String) :
    Selects fs directory filter names (ascending (selected fs directory filter names)) where
  ascending := pairwise_encode_ascending (hdistinct.filter _)
  distinct := (perm_ascending _).nodup_iff.mpr (hdistinct.filter _)
  mem_iff name := by
    rw [(perm_ascending _).mem_iff, mem_selected_iff, FileSystem.isFile_iff]

/-- Nothing is listed for a filter with a dot. -/
theorem Selects.eq_nil_of_dot {ext : String} {sources : List String}
    (h : Selects fs directory (some ext) names sources) (hdot : '.' ∈ ext.toList) :
    sources = [] :=
  List.eq_nil_iff_forall_not_mem.mpr fun name hname =>
    not_wanted_of_dot hdot name ((h.mem_iff name).mp hname).2.2

/-- From a directory with distinct names the files that a filter asks for are
listed, and nothing changes.  Another directory with the same names for files has
the same list, in whatever order its names come. -/
theorem list_selects_ascending (session : Session FileSystem)
    (hnames : session.state.list directory = .ok names) (hdistinct : names.Nodup) :
    ∃ sources : Option String → List String,
      (∀ filter,
        (list directory filter).effect session = (.ok (sources filter), session.state) ∧
        Selects session.state directory filter names (sources filter) ∧
        (sources filter).Sublist (sources none)) ∧
      (∀ ext, '.' ∈ ext.toList → sources (some ext) = []) ∧
      (∀ ext, "." ++ ext ∉ sources (some ext)) ∧
      ∀ (other : Session FileSystem) (others : List String),
        other.state.list directory = .ok others → names.Perm others →
        (∀ name ∈ names, session.state.isFile (Path.join directory name) =
          other.state.isFile (Path.join directory name)) →
        ∀ filter, (list directory filter).effect other = (.ok (sources filter), other.state) := by
  have hlisted (filter : Option String) : listed session.state directory filter =
      .ok (ascending (selected session.state directory filter names)) := by
    simp only [listed, hnames]
  have hselects (filter : Option String) : Selects session.state directory filter names
      (ascending (selected session.state directory filter names)) :=
    selects_ascending hdistinct filter
  refine ⟨fun filter => ascending (selected session.state directory filter names),
    fun filter => ⟨?_, hselects filter, sublist_ascending_selected filter⟩,
    fun ext => (hselects (some ext)).eq_nil_of_dot, fun ext hlist => ?_,
    fun other others hothers hperm hfiles filter => ?_⟩
  · rw [hasEffect_list directory filter session]
    dsimp only
    rw [hlisted]
  · exact not_wanted_dot_append ext (((hselects (some ext)).mem_iff _).mp hlist).2.2
  · rw [hasEffect_list directory filter other]
    dsimp only
    rw [← listed_eq_of_perm hperm hnames hothers hfiles filter, hlisted]

/-- A directory that does not have its names in order: a file with nothing but
an extension, a directory named as a source, and a link to a source. -/
def mixedFiles : FileSystem where
  tree := .directory [("src", .directory
    [("b.sol", .file [] false), (".sol", .file [] false), ("c.sol", .directory []),
      ("a.t.sol", .link "b.sol")])]
  working := []

/-- The names come as the directory has them. -/
theorem list_mixedFiles :
    mixedFiles.list "src" = .ok ["b.sol", ".sol", "c.sol", "a.t.sol"] := by
  have htaken : FileSystem.rejects? "src" = none ∧ FileSystem.origin [] "src" = [] ∧
      FileSystem.steps "src" = ["src"] := by decide +kernel
  have hshort : ¬ FileSystem.maxName < "src".utf8ByteSize := by decide
  simp [FileSystem.list, FileSystem.find, FileSystem.locate, htaken, hshort, mixedFiles,
    FileSystem.walk, Entry.at?, Entry.child?, Keyed.lookup]

/-- The link leads to the source beside it. -/
theorem find_mixedFiles :
    mixedFiles.find (Path.join "src" "a.t.sol") = .ok (["src", "b.sol"], .file [] false) := by
  have hpaths : Path.join "src" "a.t.sol" = "src/a.t.sol" ∧
      FileSystem.rejects? "src/a.t.sol" = none ∧ FileSystem.origin [] "src/a.t.sol" = [] ∧
      FileSystem.steps "src/a.t.sol" = ["src", "a.t.sol"] ∧
      FileSystem.steps "b.sol" = ["b.sol"] ∧ FileSystem.origin ["src"] "b.sol" = ["src"] := by
    decide +kernel
  have hshort : ∀ name ∈ ["src", "a.t.sol", "b.sol"],
      ¬ FileSystem.maxName < name.utf8ByteSize := by decide
  simp only [List.forall_mem_cons] at hshort
  simp [FileSystem.find, FileSystem.locate, hpaths, hshort, mixedFiles, FileSystem.walk,
    FileSystem.maxLinks, Entry.at?, Entry.child?, Keyed.lookup]

/-- A link to a source is one itself; a name that is all extension is none. -/
theorem list_selects_ascending_mixed :
    mixedFiles.list "src" = .ok ["b.sol", ".sol", "c.sol", "a.t.sol"] ∧
      ["b.sol", ".sol", "c.sol", "a.t.sol"].Nodup ∧
      ∃ sources, (list "src" (some "sol")).effect ⟨mixedFiles, #[]⟩ = (.ok sources, mixedFiles) ∧
        "a.t.sol" ∈ sources ∧ ".sol" ∉ sources := by
  have hdistinct : ["b.sol", ".sol", "c.sol", "a.t.sol"].Nodup := by decide
  obtain ⟨sources, hsources, -, hdot, -⟩ :=
    list_selects_ascending ⟨mixedFiles, #[]⟩ list_mixedFiles hdistinct
  obtain ⟨heffect, hselects, -⟩ := hsources (some "sol")
  refine ⟨list_mixedFiles, hdistinct, sources (some "sol"), heffect, ?_, hdot "sol"⟩
  exact (hselects.mem_iff "a.t.sol").mpr ⟨by decide, ⟨_, _, _, find_mixedFiles⟩, by decide,
    "a.t", by decide, by decide⟩

end Sources
end SyntaxCensus
