import SyntaxCensus.Histogram.Reader
import SyntaxCensus.Proofs.Json.Drafts
import SyntaxCensus.Proofs.Report.Normalisation

/-!
# Histograms from texts and from values

A histogram is read from a text member by member, or from the value of the text.
The first way requires a count of every member where it is written.  The second one
looks at the value, which has the last member of each key only.  So the two differ on
texts that give a key several values, and only if one that does not count is no
count: then the text is turned down, and the value is not.

Main definitions:

- `Histogram.EndsAs`: a scan gives what reading a value does.
- `Histogram.countsIn`: the counts of a draft, as they are written.
- `Histogram.HoldsLast`: the counts of a histogram are the last ones of members.

Main results:

- `Drafts.endsAs_scanObject`, `Histogram.drafts_of_scanObject`: the reader of
  histograms reads drafts of objects of counts, and stops at the first member of
  others that is no count.
- `Histogram.ofJson_settled_iff`: the drafts whose values are histograms.
- `Histogram.parse_agrees_ofJson`: the two ways to a histogram.
-/

namespace SyntaxCensus

/-! ## Numbers by their first octet -/

section Number

variable {octet : UInt8} {input more rest : List UInt8}

/-- A number is scanned only where a minus or a digit stands. -/
theorem startsNumber_of_scanScalar {n : Number}
    (h : scanScalar (octet :: more) = .ok (.number n, rest)) : Json.StartsNumber octet := by
  rw [scanScalar] at h
  repeat' split at h
  all_goals first | assumption | cases h

/-- A draft that is a number begins with a minus or a digit. -/
theorem Drafts.startsNumber {n : Number} (h : Drafts input (.number n) rest)
    (hskip : skipBlanks input = octet :: more) : Json.StartsNumber octet := by
  cases h with
  | scalar skipped noContainer scanned =>
      obtain ⟨rfl, rfl⟩ := List.cons.inj (hskip.symm.trans skipped)
      exact startsNumber_of_scanScalar scanned

/-- A draft that begins with a minus or a digit is a number. -/
theorem Drafts.exists_scanNumber {draft : Json} (h : Drafts input draft rest)
    (hskip : skipBlanks input = octet :: more) (hstarts : Json.StartsNumber octet) :
    ∃ n, draft = .number n ∧ scanNumber (octet :: more) = .ok (n, rest) := by
  have hbracket : ¬ Json.StartsNumber Octet.openBracket := by unfold Json.StartsNumber; decide
  have hbrace : ¬ Json.StartsNumber Octet.openBrace := by unfold Json.StartsNumber; decide
  cases h with
  | scalar skipped noContainer scanned =>
      obtain ⟨rfl, rfl⟩ := List.cons.inj (hskip.symm.trans skipped)
      rw [scanScalar_of_startsNumber hstarts] at scanned
      cases hscan : scanNumber (octet :: more) with
      | error stop =>
          rw [hscan] at scanned
          cases scanned
      | ok found =>
          rw [hscan] at scanned
          obtain ⟨rfl, rfl⟩ := Prod.mk.inj (Except.ok.inj scanned)
          exact ⟨found.1, rfl, rfl⟩
  | emptyArray skipped closed | array skipped begun drafted others =>
      exact absurd ((List.cons.inj (hskip.symm.trans skipped)).1 ▸ hstarts) hbracket
  | emptyObject skipped closed | object skipped begun drafted others =>
      exact absurd ((List.cons.inj (hskip.symm.trans skipped)).1 ▸ hstarts) hbrace

end Number

namespace Histogram

/-! ## Counts where they are written -/

/-- A scan ends as a result says: with its value in front of the rest, or at its
mismatch. -/
def EndsAs {α : Type} (result : Except Mismatch α) (rest : List UInt8) (scanned : Scan α) : Prop :=
  match result with
  | .ok value => scanned = .ok (value, rest)
  | .error reason => ∃ stop : Stop, stop.fault = .mismatch reason ∧ scanned = .error stop

section EndsAs

variable {α : Type} {result : Except Mismatch α} {rest : List UInt8} {scanned : Scan α}

theorem EndsAs.of_ok {value : α} (h : EndsAs result rest scanned) (hresult : result = .ok value) :
    scanned = .ok (value, rest) := by
  subst hresult
  exact h

/-- It stops for the same reason if there is none. -/
theorem EndsAs.of_error {reason : Mismatch} (h : EndsAs result rest scanned)
    (hresult : result = .error reason) :
    ∃ stop : Stop, stop.fault = .mismatch reason ∧ scanned = .error stop := by
  subst hresult
  exact h

end EndsAs

/-- What is told of a value that was not expected is its shape. -/
theorem endsAs_mismatchAt {α : Type} {input after : List UInt8} {shape : Shape}
    (h : scanShape input = .ok (shape, after)) (expected : Shape → Mismatch)
    (rest : List UInt8) :
    EndsAs (.error (expected shape) : Except Mismatch α) rest (mismatchAt expected input) := by
  refine ⟨.here (.mismatch (expected shape)) after, rfl, ?_⟩
  rw [mismatchAt, h]

section Count

variable {kind : String} {count : Nat} {input after : List UInt8} {done : List (String × Nat)}

/-- A count is read, and then what follows it decides. -/
theorem scanCounts_eq (done : List (String × Nat)) (kind : String) (input : List UInt8) :
    scanCounts done kind input =
      match scanCount input with
      | .error stop => .error stop
      | .ok (count, rest) =>
          match scanNextKey rest with
          | .error stop => .error stop
          | .ok (some next, after) => scanCounts ((kind, count) :: done) next after
          | .ok (none, after) => .ok (((kind, count) :: done).reverse, after) := by
  fun_cases scanCounts done kind input with
  | case1 stop hstop => simp only [hstop]
  | case2 count rest hcount stop hstop => simp only [hcount, hstop]
  | case3 count rest hcount next after hnext => simp only [hcount, hnext]
  | case4 count rest hcount after hclosed => simp only [hcount, hclosed]

/-- A wrong count ends the reading of a histogram. -/
theorem scanCounts_of_error {stop : Stop} (h : scanCount input = .error stop) :
    scanCounts done kind input = .error stop := by
  rw [scanCounts_eq, h]

/-- After the last count there are all pairs, in the order of the text. -/
theorem scanCounts_closed {rest : List UInt8} (h : scanCount input = .ok (count, after))
    (hclosed : scanNextKey after = .ok (none, rest)) :
    scanCounts done kind input = .ok (done.reverse ++ [(kind, count)], rest) := by
  rw [scanCounts_eq, h]
  simp only [hclosed, List.reverse_cons]

/-- After another one its pair is put before those that were read. -/
theorem scanCounts_next {first : List UInt8} {next : String}
    (h : scanCount input = .ok (count, after))
    (hnext : scanNextKey after = .ok (some next, first)) :
    scanCounts done kind input = scanCounts ((kind, count) :: done) next first := by
  rw [scanCounts_eq, h]
  simp only [hnext]

end Count

end Histogram

open Histogram (EndsAs countOf countsOf countJson)

/-- The shape of a draft is known where it begins. -/
theorem Drafts.exists_scanShape {input rest : List UInt8} {draft : Json}
    (h : Drafts input draft rest) :
    ∃ octet more after, skipBlanks input = octet :: more ∧
      Histogram.scanShape (octet :: more) = .ok (.ofJson draft, after) := by
  cases h with
  | scalar skipped noContainer scanned =>
      refine ⟨_, _, rest, skipped, ?_⟩
      simp only [Histogram.scanShape, if_neg noContainer.1, if_neg noContainer.2, scanned]
  | emptyArray skipped closed => exact ⟨_, _, _, skipped, rfl⟩
  | array skipped begun drafted others => exact ⟨_, _, _, skipped, rfl⟩
  | emptyObject skipped closed => exact ⟨_, _, _, skipped, rfl⟩
  | object skipped begun drafted others => exact ⟨_, _, _, skipped, rfl⟩

/-- A count is scanned where a draft begins exactly as it is read from the draft. -/
theorem Drafts.endsAs_scanCount {input rest : List UInt8} {draft : Json}
    (h : Drafts input draft rest) : EndsAs (countOf draft) rest (Histogram.scanCount input) := by
  obtain ⟨octet, more, after, hskip, hshape⟩ := h.exists_scanShape
  rw [Histogram.scanCount, hskip]
  by_cases hstarts : octet = Octet.minus ∨ Octet.isDigit octet = true
  · obtain ⟨n, rfl, hscan⟩ := h.exists_scanNumber hskip hstarts
    simp only [if_pos hstarts, hscan]
    cases countOf (.number n) with
    | error reason => exact ⟨_, rfl, rfl⟩
    | ok count => rfl
  · have hother : ∀ value, draft ≠ .number (.whole value) := by
      rintro value rfl
      exact hstarts (h.startsNumber hskip)
    rw [Histogram.countOf_eq_error_iff.mpr (.other hother)]
    simp only [if_neg hstarts]
    exact Histogram.endsAs_mismatchAt hshape .notCount rest

/-- The members of an object are scanned as their counts are read, one after
another. -/
theorem DraftsMembers.endsAs_scanCounts {input after rest : List UInt8} {value : Json}
    {members : List (String × Json)} (hvalue : Drafts input value after)
    (h : DraftsMembers after members rest) (done : List (String × Nat)) (kind : String) :
    EndsAs ((countsOf ((kind, value) :: members)).map (done.reverse ++ ·)) rest
      (Histogram.scanCounts done kind input) := by
  -- What has been read is kept in reverse, so the statement is about any `done`.
  have hscan := hvalue.endsAs_scanCount
  rw [countsOf]
  cases hcount : countOf value with
  | error reason =>
      obtain ⟨stop, hfault, hstop⟩ := hscan.of_error hcount
      exact ⟨stop, hfault, Histogram.scanCounts_of_error hstop⟩
  | ok count =>
      cases h with
      | closed closed => exact Histogram.scanCounts_closed (hscan.of_ok hcount) closed
      | @next _ _ _ _ next other others begun drafted following =>
          have hrest :=
            DraftsMembers.endsAs_scanCounts drafted following ((kind, count) :: done) next
          rw [Histogram.scanCounts_next (hscan.of_ok hcount) begun]
          cases hothers : countsOf ((next, other) :: others) with
          | error reason =>
              rw [hothers] at hrest
              exact hrest
          | ok counts =>
              rw [hothers] at hrest
              simpa [Except.map] using hrest
termination_by members.length

namespace Histogram

/-- The counts of a draft, as they are written; none if some member is no count. -/
def countsIn : Json → Except Mismatch (List (String × Nat))
  | .object members => countsOf members
  | other => .error (.notMap (.ofJson other))

end Histogram

/-- An object of counts is scanned as its counts are read. -/
theorem Drafts.endsAs_scanObject {input rest : List UInt8} {draft : Json}
    (h : Drafts input draft rest) :
    EndsAs (Histogram.countsIn draft) rest (Histogram.scanObject input) := by
  obtain ⟨octet, more, after, hskip, hshape⟩ := h.exists_scanShape
  have hmarks : Octet.openBracket ≠ Octet.openBrace := by decide
  rw [Histogram.scanObject, hskip]
  cases h with
  | emptyObject skipped closed =>
      obtain ⟨rfl, rfl⟩ := List.cons.inj (hskip.symm.trans skipped)
      simp only [if_true, closed]
      rfl
  | @object _ _ _ _ _ kind value members skipped begun drafted others =>
      obtain ⟨rfl, rfl⟩ := List.cons.inj (hskip.symm.trans skipped)
      have hcounts := DraftsMembers.endsAs_scanCounts drafted others [] kind
      have hnothing : (([] : List (String × Nat)).reverse ++ ·) = id := rfl
      rw [hnothing, Except.map_id] at hcounts
      simp only [if_true, begun]
      exact hcounts
  | scalar skipped noContainer scanned =>
      obtain ⟨rfl, rfl⟩ := List.cons.inj (hskip.symm.trans skipped)
      have hheight := Json.height_scanScalar scanned
      simp only [if_neg noContainer.2]
      cases draft with
      | object members => cases hheight
      | null | bool _ | number _ | string _ | array _ =>
          exact Histogram.endsAs_mismatchAt hshape .notMap rest
  | emptyArray skipped closed | array skipped begun drafted others =>
      obtain ⟨rfl, rfl⟩ := List.cons.inj (hskip.symm.trans skipped)
      simp only [if_neg hmarks]
      exact Histogram.endsAs_mismatchAt hshape .notMap rest

namespace Histogram

section Drafted

variable {input rest : List UInt8}

/-- Where a count is scanned a draft of it begins. -/
theorem drafts_of_scanCount {count : Nat} (h : scanCount input = .ok (count, rest)) :
    Drafts input (countJson count) rest := by
  unfold scanCount at h
  split at h
  · cases h
  · rename_i octet more hskip
    split at h
    · rename_i hstarts
      have hnumber : Json.StartsNumber octet := hstarts
      split at h
      · cases h
      · rename_i n after hscan
        split at h
        · cases h
        · rename_i found hcount
          obtain ⟨rfl, rfl⟩ := Prod.mk.inj (Except.ok.inj h)
          rw [← countOf_eq_ok_iff.mp hcount]
          exact .scalar hskip
            ⟨hnumber.ne (by decide) (by decide), hnumber.ne (by decide) (by decide)⟩
            (scanScalar_number hnumber hscan)
    · unfold mismatchAt at h
      split at h <;> cases h

/-- Where counts are scanned drafts of them begin, with their keys in front. -/
theorem exists_drafts_of_scanCounts {done counts : List (String × Nat)} {kind : String}
    (h : scanCounts done kind input = .ok (counts, rest)) :
    ∃ count others after, counts = done.reverse ++ (kind, count) :: others ∧
      Drafts input (countJson count) after ∧
        DraftsMembers after (others.map fun entry => (entry.1, countJson entry.2)) rest := by
  fun_induction scanCounts done kind input with
  | case1 => cases h
  | case2 => cases h
  | case3 done kind input count after hcount next first hnext ih =>
      obtain ⟨following, others, behind, rfl, hdraft, hothers⟩ := ih h
      refine ⟨count, (next, following) :: others, after, by simp, drafts_of_scanCount hcount, ?_⟩
      exact .next hnext hdraft hothers
  | case4 done kind input count after hcount first hclosed =>
      obtain ⟨rfl, rfl⟩ := Prod.mk.inj (Except.ok.inj h)
      exact ⟨count, [], after, by simp, drafts_of_scanCount hcount, .closed hclosed⟩

/-- Where an object of counts is scanned a draft of it begins. -/
theorem drafts_of_scanObject {counts : List (String × Nat)}
    (h : scanObject input = .ok (counts, rest)) :
    Drafts input (.object (counts.map fun entry => (entry.1, countJson entry.2))) rest := by
  unfold scanObject at h
  split at h
  · cases h
  · rename_i octet more hskip
    split at h
    · rename_i hbrace
      subst hbrace
      split at h
      · cases h
      · rename_i kind first hfirst
        obtain ⟨count, others, after, rfl, hdraft, hothers⟩ := exists_drafts_of_scanCounts h
        exact .object hskip hfirst hdraft hothers
      · rename_i hfirst
        obtain ⟨rfl, rfl⟩ := Prod.mk.inj (Except.ok.inj h)
        exact .emptyObject hskip hfirst
    · unfold mismatchAt at h
      split at h <;> cases h

end Drafted

/-! ## Histograms of drafted texts -/

section Text

variable {text : String} {draft : Json} {counts : List (String × Nat)}

/-- A text of counts is read as the histogram of the last counts of its keys. -/
theorem parse_of_countsIn (h : Json.DraftedAs text draft) (hcounts : countsIn draft = .ok counts) :
    parse text = .ok (ofPairs (Keyed.ofBindings counts)) := by
  obtain ⟨rest, hdraft, hskip⟩ := h
  refine Json.mapError_eq_ok_iff.mpr ?_
  rw [read, hdraft.endsAs_scanObject.of_ok hcounts]
  simp only [hskip]

/-- Of a text whose members are not all counts it is told what is told of its draft. -/
theorem exists_parse_eq_error {reason : Mismatch} (h : Json.DraftedAs text draft)
    (hcounts : countsIn draft = .error reason) :
    ∃ told : ReadError, told.fault = .mismatch reason ∧ parse text = .error told := by
  obtain ⟨rest, hdraft, hskip⟩ := h
  obtain ⟨stop, hfault, hstop⟩ := hdraft.endsAs_scanObject.of_error hcounts
  refine ⟨.ofStop .text (Utf8.encode text) stop, hfault, ?_⟩
  simp only [parse, read, hstop]
  rfl

/-- The texts that are read as histograms are those of objects of counts. -/
theorem exists_draftedAs_of_parse {h : Histogram} (hparse : parse text = .ok h) :
    ∃ counts : List (String × Nat),
      Json.DraftedAs text (.object (counts.map fun entry => (entry.1, countJson entry.2))) ∧
        h = ofPairs (Keyed.ofBindings counts) := by
  have hread := Json.mapError_eq_ok_iff.mp hparse
  unfold read at hread
  split at hread
  · cases hread
  · rename_i counts rest hscan
    split at hread
    · rename_i hskip
      exact ⟨counts, ⟨rest, drafts_of_scanObject hscan, hskip⟩, (Except.ok.inj hread).symm⟩
    · cases hread

end Text

/-! ## Values of drafts of counts -/

/-- The value of a draft is a count only if the draft is this count. -/
theorem settled_eq_countJson_iff {draft : Json} {count : Nat} :
    draft.settled = countJson count ↔ draft = countJson count := by
  cases draft <;> simp [Json.settled, Json.ofBindings, countJson]

/-- The values of members are counts only if the members are these counts. -/
theorem map_settled_eq_iff {members : List (String × Json)} {counts : List (String × Nat)} :
    (members.map fun member => (member.1, member.2.settled)) =
        (counts.map fun entry => (entry.1, countJson entry.2)) ↔
      members = counts.map fun entry => (entry.1, countJson entry.2) := by
  induction members generalizing counts with
  | nil => cases counts <;> simp
  | cons member rest ih =>
      cases counts with
      | nil => simp
      | cons entry others =>
          simp only [List.map_cons, List.cons.injEq, Prod.ext_iff, settled_eq_countJson_iff, ih]

/-- The value of a draft is a histogram exactly if the draft is an object whose keys all
have counts as their last values. -/
theorem ofJson_settled_iff {draft : Json} {h : Histogram} :
    ofJson draft.settled = .ok h ↔
      ∃ members, draft = .object members ∧
        ∃ counts : List (String × Nat),
          Keyed.ofBindings members = counts.map (fun entry => (entry.1, countJson entry.2)) ∧
            h = ofPairs counts := by
  rw [ofJson_eq_ok_iff]
  cases draft with
  | object members =>
      simp only [Json.settled, Json.ofBindings, Json.settledMembers_eq_map, Keyed.ofBindings_map,
        Json.object.injEq, map_settled_eq_iff, exists_eq_left']
  | null | bool _ | number _ | string _ | array _ => simp [Json.settled]

/-! ## The last counts of keys -/

/-- The counts of a histogram are the last ones that members have for their keys: every
key has one, and those that are not zero are kept. -/
structure HoldsLast (h : Histogram) (members : List (String × Json)) : Prop where
  exists_last : ∀ key ∈ members.map Prod.fst,
    ∃ count, Keyed.BoundLast members key (countJson count)
  mem_entries_iff : ∀ key count,
    (key, count) ∈ h.entries ↔ Keyed.BoundLast members key (countJson count) ∧ 0 < count

theorem countJson_inj {count other : Nat} : countJson count = countJson other ↔ count = other := by
  rw [countJson, countJson, Json.number.injEq, Number.whole.injEq, Int.ofNat_inj]

/-- The histogram of the last counts of members holds them. -/
theorem holdsLast_ofPairs {members : List (String × Json)} {counts : List (String × Nat)}
    (h : Keyed.ofBindings members = counts.map fun entry => (entry.1, countJson entry.2)) :
    (ofPairs counts).HoldsLast members := by
  have hlast : ∀ key count,
      Keyed.BoundLast members key (countJson count) ↔ (key, count) ∈ counts := by
    intro key count
    rw [← Keyed.mem_ofBindings_iff, h, List.mem_map]
    constructor
    · rintro ⟨entry, hentry, heq⟩
      obtain ⟨rfl, hcount⟩ := Prod.mk.inj heq
      exact countJson_inj.mp hcount ▸ hentry
    · intro hentry
      exact ⟨(key, count), hentry, rfl⟩
  have hsorted : Keyed.Sorted counts :=
    (sorted_map_countJson counts).mp (h ▸ Keyed.sorted_ofBindings members)
  constructor
  case exists_last =>
    intro key hkey
    obtain ⟨value, hvalue⟩ := Option.ne_none_iff_exists'.mp fun hnone =>
      Keyed.lookup_ofBindings_eq_none_iff.mp hnone hkey
    have hmem := Keyed.mem_of_lookup hvalue
    rw [h, List.mem_map] at hmem
    obtain ⟨entry, hentry, heq⟩ := hmem
    obtain ⟨rfl, rfl⟩ := Prod.mk.inj heq
    exact ⟨entry.2, (hlast _ _).mpr hentry⟩
  case mem_entries_iff =>
    intro key count
    rw [entries_ofPairs hsorted, List.mem_filter, hlast]
    simp [Nat.pos_iff_ne_zero]

/-! ## The two ways to a histogram -/

section Agreement

variable {text : String} {draft : Json}

/-- A text that is read as a histogram is a document, and its value is read as the same
histogram. -/
theorem exists_ofJson_of_parse {h : Histogram} (hparse : parse text = .ok h) :
    ∃ value, Json.parse text = .ok value ∧ ofJson value = .ok h := by
  obtain ⟨counts, hdraft, rfl⟩ := exists_draftedAs_of_parse hparse
  refine ⟨_, Json.parse_eq_ok_iff_draftedAs.mpr ⟨_, hdraft, rfl⟩, ofJson_settled_iff.mpr ?_⟩
  exact ⟨_, rfl, _, Keyed.ofBindings_map countJson counts, rfl⟩

/-- If the value of a text is a histogram, the text is read as the same histogram or
turned down for a member that is no count. -/
theorem parse_of_ofJson_settled {h : Histogram} (hdraft : Json.DraftedAs text draft)
    (hvalue : ofJson draft.settled = .ok h) :
    parse text = .ok h ∨ ∃ reason, parse text = .error reason ∧ reason.fault.category = .data := by
  cases hcounts : countsIn draft with
  | error reason =>
      obtain ⟨told, hfault, htold⟩ := exists_parse_eq_error hdraft hcounts
      exact .inr ⟨told, htold, by rw [hfault]; rfl⟩
  | ok counts =>
      have hparse := parse_of_countsIn hdraft hcounts
      obtain ⟨value, hread, hsame⟩ := exists_ofJson_of_parse hparse
      obtain ⟨other, hother, rfl⟩ := Json.parse_eq_ok_iff_draftedAs.mp hread
      obtain rfl := hdraft.unique hother
      obtain rfl := Except.ok.inj (hsame.symm.trans hvalue)
      exact .inl hparse

/-- If every member is a count, counts are read from the members. -/
theorem exists_countsOf {members : List (String × Json)}
    (h : ∀ member ∈ members, ∃ count, member.2 = countJson count) :
    ∃ counts, countsOf members = .ok counts := by
  induction members with
  | nil => exact ⟨[], rfl⟩
  | cons member rest ih =>
      obtain ⟨⟨count, hcount⟩, hrest⟩ := List.forall_mem_cons.mp h
      obtain ⟨counts, hcounts⟩ := ih hrest
      exact ⟨(member.1, count) :: counts, by rw [countsOf, hcount, countOf_countJson, hcounts]⟩

/-- If the value of an object is a histogram, its text is read as this histogram exactly if
all its members are counts, the replaced ones as well. -/
theorem parse_eq_ok_iff_forall {members : List (String × Json)} {h : Histogram}
    (hdraft : Json.DraftedAs text (.object members))
    (hvalue : ofJson (Json.object members).settled = .ok h) :
    parse text = .ok h ↔ ∀ member ∈ members, ∃ count, member.2 = countJson count := by
  constructor
  · intro hparse
    obtain ⟨counts, hcounts, -⟩ := exists_draftedAs_of_parse hparse
    obtain rfl := Json.object.inj (hdraft.unique hcounts)
    intro member hmember
    obtain ⟨entry, -, rfl⟩ := List.mem_map.mp hmember
    exact ⟨entry.2, rfl⟩
  · intro hmembers
    obtain ⟨counts, hcounts⟩ := exists_countsOf hmembers
    rcases parse_of_ofJson_settled hdraft hvalue with hparse | ⟨reason, hparse, -⟩
    · exact hparse
    · rw [parse_of_countsIn hdraft hcounts] at hparse
      cases hparse

/-- If the value of a text that repeats no key is a histogram, the text is read as the same
histogram. -/
theorem parse_of_ofJson_of_once {h : Histogram} (hdraft : Json.DraftedAs text draft)
    (hvalue : ofJson draft.settled = .ok h) (honce : ¬ Json.RepeatsKey text) :
    parse text = .ok h := by
  obtain ⟨members, rfl, counts, hlast, -⟩ := ofJson_settled_iff.mp hvalue
  refine (parse_eq_ok_iff_forall hdraft hvalue).mpr fun member hmember => ?_
  -- No later member has the key, so that the member is one of the value's, all of which
  -- are counts.
  obtain ⟨before, after, rfl⟩ := List.append_of_mem hmember
  have hkept : (member.1, member.2) ∈ Keyed.ofBindings (before ++ member :: after) :=
    Keyed.mem_ofBindings_of_last before member.2 fun hagain =>
      honce ⟨_, _, hdraft, .here hagain⟩
  rw [hlast, List.mem_map] at hkept
  obtain ⟨entry, -, hentry⟩ := hkept
  exact ⟨entry.2, (congrArg Prod.snd hentry).symm⟩

end Agreement

/-- A text that is read as a histogram is a document whose value is read as the same
histogram.  If the value of a document is read as a histogram, the document itself is
read as the same one or turned down for a member that is no count, and it is read if
no object in it gives a key several values.  In all these cases the document is an
object, and the histogram holds the last counts written for its keys, those of zero
left out; and the document itself is read exactly if the other members are counts
too. -/
theorem parse_agrees_ofJson (text : String) :
    (∀ h, parse text = .ok h → ∃ value, Json.parse text = .ok value ∧ ofJson value = .ok h) ∧
      (∀ value h, Json.parse text = .ok value → ofJson value = .ok h →
        (parse text = .ok h ∨
            ∃ reason, parse text = .error reason ∧ reason.fault.category = .data) ∧
          (¬ Json.RepeatsKey text → parse text = .ok h)) ∧
      ∀ h, (parse text = .ok h ∨ ∃ value, Json.parse text = .ok value ∧ ofJson value = .ok h) →
        ∃ members, Json.DraftedAs text (.object members) ∧ h.HoldsLast members ∧
          (parse text = .ok h ↔ ∀ member ∈ members, ∃ count, member.2 = countJson count) := by
  refine ⟨?sound, ?complete, ?last⟩
  case sound =>
    intro h hparse
    exact exists_ofJson_of_parse hparse
  case complete =>
    intro value h hread hvalue
    obtain ⟨draft, hdraft, rfl⟩ := Json.parse_eq_ok_iff_draftedAs.mp hread
    exact ⟨parse_of_ofJson_settled hdraft hvalue, parse_of_ofJson_of_once hdraft hvalue⟩
  case last =>
    intro h hread
    have hvalue : ∃ value, Json.parse text = .ok value ∧ ofJson value = .ok h :=
      hread.elim exists_ofJson_of_parse id
    obtain ⟨value, hread, hvalue⟩ := hvalue
    obtain ⟨draft, hdraft, rfl⟩ := Json.parse_eq_ok_iff_draftedAs.mp hread
    obtain ⟨members, rfl, counts, hlast, rfl⟩ := ofJson_settled_iff.mp hvalue
    exact ⟨members, hdraft, holdsLast_ofPairs hlast, parse_eq_ok_iff_forall hdraft hvalue⟩

/-! ### A text with a member that does not count -/

/-- An object that gives one key a text and then a count, and another one a count and then
zero. -/
def overwrittenText : String :=
  "\x7b\"a\":\"x\",\"b\":2,\"a\":1,\"b\":0\x7d"

/-- The value of that text. -/
def overwrittenValue : Json :=
  .object [("a", .number (.whole 1)), ("b", .number (.whole 0))]

/-- A key is overwritten: the value has a histogram, the text does not. -/
theorem parse_agrees_ofJson_overwritten :
    Json.parse overwrittenText = .ok overwrittenValue ∧
      ofJson overwrittenValue = .ok (ofPairs [("a", 1)]) ∧
      (∃ reason, parse overwrittenText = .error reason ∧ reason.fault.category = .data) ∧
      Json.RepeatsKey overwrittenText ∧
      ∃ members, Json.DraftedAs overwrittenText (.object members) ∧
        (ofPairs [("a", 1)]).HoldsLast members := by
  have hread : Json.parse overwrittenText = .ok overwrittenValue := by decide +kernel
  have hvalue : ofJson overwrittenValue = .ok (ofPairs [("a", 1)]) := by decide +kernel
  have hrefused : parse overwrittenText ≠ .ok (ofPairs [("a", 1)]) := by decide +kernel
  obtain ⟨-, hcomplete, hlast⟩ := parse_agrees_ofJson overwrittenText
  obtain ⟨hends, honce⟩ := hcomplete _ _ hread hvalue
  obtain ⟨members, hdraft, hholds, -⟩ := hlast _ (.inr ⟨_, hread, hvalue⟩)
  exact ⟨hread, hvalue, hends.resolve_left hrefused,
    Classical.byContradiction fun hnot => hrefused (honce hnot), members, hdraft, hholds⟩

end Histogram
end SyntaxCensus
