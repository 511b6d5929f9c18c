import SyntaxCensus.Json.Reader
import SyntaxCensus.Proofs.Bindings

/-!
# What readers give

Whatever a text or a file holds, a value that was read from it has sorted objects
without repeated keys, and its whole numbers have 64 bits: a number with more
digits is read as a double.

Main definitions:

- `Json.Stored`: a value is one that can be read.
- `Reading.Stored`: so are all values in a configuration of the machine.

Main results:

- `fits_scanNumber`: whole numbers that are read have 64 bits.
- `Reading.stored_start`, `Reading.stored_resume`, `Reading.stored_run`: steps and
  runs of the machine keep its values so.
- `Json.read_eq_ok_iff`, `Json.parse_eq_ok_iff`, `Json.parseFile_eq_ok_iff`: which
  octets are documents.
- `Json.stored_of_parseFile`: the values that files hold.
-/

namespace SyntaxCensus

/-! ## Numbers -/

/-- A number is a double or a whole number of 64 bits, signed or unsigned. -/
def Number.FitsWord : Number → Prop
  | .whole value => -(maxNegative : Int) ≤ value ∧ value ≤ (maxWhole : Int)
  | .double _ => True

/-- A digit is appended only while the number fits. -/
theorem appendDigit?_le {significand digit longer : Nat}
    (h : appendDigit? significand digit = some longer) : longer ≤ Number.maxWhole := by
  simp only [appendDigit?] at h
  split at h
  · obtain rfl := Option.some.inj h
    assumption
  · cases h

/-- Digits are taken only as long as 64 bits hold the significand. -/
theorem takeDigits_le {significand : Nat} (h : significand ≤ Number.maxWhole) (count : Nat)
    (input : List UInt8) : (takeDigits significand count input).significand ≤ Number.maxWhole := by
  induction input generalizing significand count with
  | nil => exact h
  | cons octet rest ih =>
      simp only [takeDigits]
      split
      · rename_i longer hlonger
        obtain ⟨digit, _, happend⟩ := Option.bind_eq_some_iff.mp hlonger
        exact ih (appendDigit?_le happend) _
      · exact h

theorem digit?_le {octet : UInt8} {digit : Nat} (h : Octet.digit? octet = some digit) :
    digit ≤ 9 := by
  unfold Octet.digit? at h
  split at h
  · rename_i hrange
    obtain rfl := Option.some.inj h
    have hle := UInt8.le_iff_toNat_le.mp hrange.2
    have hnine : (0x39 : UInt8).toNat = 0x39 := rfl
    omega
  · cases h

/-- A magnitude of 64 bits gives a whole number, or a negative one, that fits. -/
theorem fits_wholeNumber {significand : Nat} (h : significand ≤ Number.maxWhole)
    (negative : Bool) : (wholeNumber negative significand).FitsWord := by
  unfold wholeNumber
  split
  · simp only [Number.FitsWord]
    omega
  · split
    · simp only [Number.FitsWord]
      omega
    · trivial

section Scanned

variable {negative : Bool} {significand : Nat} {input rest : List UInt8} {n : Number}

theorem fits_scaledNumber {exponent : Int}
    (h : scaledNumber negative significand exponent input = .ok (n, rest)) : n.FitsWord := by
  unfold scaledNumber at h
  split at h
  · obtain ⟨rfl, _⟩ := Prod.mk.inj (Except.ok.inj h)
    trivial
  · cases h

/-- With an exponent a number is a double. -/
theorem fits_scanExponent {scale : Int}
    (h : scanExponent negative significand scale input = .ok (n, rest)) : n.FitsWord := by
  unfold scanExponent at h
  split at h
  · cases h
  · split at h
    · cases h
    · split at h
      · exact fits_scaledNumber h
      · split at h
        · cases h
        · obtain ⟨rfl, _⟩ := Prod.mk.inj (Except.ok.inj h)
          trivial

theorem fits_scanScale {scale : Int}
    (h : scanScale negative significand scale input = .ok (n, rest)) : n.FitsWord := by
  unfold scanScale at h
  split at h
  · exact fits_scaledNumber h
  · split at h
    · exact fits_scanExponent h
    · exact fits_scaledNumber h

theorem fits_scanFraction {scale : Int}
    (h : scanFraction negative significand scale input = .ok (n, rest)) : n.FitsWord := by
  simp only [scanFraction] at h
  split at h
  · cases h
  · exact fits_scanScale h

/-- Without exponent and fraction it is whole, and its digits fit. -/
theorem fits_scanAfterWhole (hle : significand ≤ Number.maxWhole) {left : Nat}
    (h : scanAfterWhole negative significand left input = .ok (n, rest)) : n.FitsWord := by
  unfold scanAfterWhole at h
  split at h
  · split at h
    · obtain ⟨rfl, _⟩ := Prod.mk.inj (Except.ok.inj h)
      exact fits_wholeNumber hle negative
    · exact fits_scaledNumber h
  · split at h
    · exact fits_scanFraction h
    · split at h
      · exact fits_scanExponent h
      · split at h
        · obtain ⟨rfl, _⟩ := Prod.mk.inj (Except.ok.inj h)
          exact fits_wholeNumber hle negative
        · exact fits_scaledNumber h

/-- So numbers fit, however they are written. -/
theorem fits_scanMagnitude (h : scanMagnitude negative input = .ok (n, rest)) : n.FitsWord := by
  unfold scanMagnitude at h
  split at h
  · cases h
  · split at h
    · cases h
    · split at h
      · cases h
      · exact fits_scanAfterWhole (Nat.zero_le _) h
    · rename_i first hfirst
      have hdigit := digit?_le hfirst
      have hle : first + 1 ≤ Number.maxWhole := Nat.le_trans hdigit (by decide)
      exact fits_scanAfterWhole (takeDigits_le hle 0 _) h

/-- Whole numbers that are read have 64 bits. -/
theorem fits_scanNumber (h : scanNumber input = .ok (n, rest)) : n.FitsWord := by
  unfold scanNumber at h
  split at h
  · cases h
  · split at h
    · exact fits_scanMagnitude h
    · exact fits_scanMagnitude h

end Scanned

/-! ## Values -/

/-- A value as a reader gives it: every object is sorted without repeated keys, and
whole numbers have 64 bits. -/
inductive Json.Stored : Json → Prop
  | null : Stored .null
  | bool (value : Bool) : Stored (.bool value)
  | number {value : Number} (fits : value.FitsWord) : Stored (.number value)
  | string (value : String) : Stored (.string value)
  | array {items : List Json} (inner : ∀ item ∈ items, Stored item) : Stored (.array items)
  | object {members : List (String × Json)} (sorted : Keyed.Sorted members)
      (inner : ∀ member ∈ members, Stored member.2) : Stored (.object members)

/-- An object made of bindings is sorted, and its values are among theirs. -/
theorem Json.stored_ofBindings {bindings : List (String × Json)}
    (h : ∀ binding ∈ bindings, binding.2.Stored) : (ofBindings bindings).Stored :=
  .object (Keyed.sorted_ofBindings bindings) fun member hmember =>
    h member (Keyed.mem_of_mem_ofBindings hmember)

/-- A scalar has no members, and its number fits. -/
theorem stored_scanScalar {input rest : List UInt8} {value : Json}
    (h : scanScalar input = .ok (value, rest)) : value.Stored := by
  unfold scanScalar at h
  split at h
  · cases h
  · split at h
    · split at h
      · cases h
      · obtain ⟨rfl, _⟩ := Prod.mk.inj (Except.ok.inj h)
        exact .null
    · split at h
      · split at h
        · cases h
        · obtain ⟨rfl, _⟩ := Prod.mk.inj (Except.ok.inj h)
          exact .bool true
      · split at h
        · split at h
          · cases h
          · obtain ⟨rfl, _⟩ := Prod.mk.inj (Except.ok.inj h)
            exact .bool false
        · split at h
          · split at h
            · cases h
            · obtain ⟨rfl, _⟩ := Prod.mk.inj (Except.ok.inj h)
              exact .string _
          · split at h
            · split at h
              · cases h
              · rename_i hnumber
                obtain ⟨rfl, _⟩ := Prod.mk.inj (Except.ok.inj h)
                exact .number (fits_scanNumber hnumber)
            · cases h

/-! ## The machine -/

/-- What has been read of a container can be read. -/
def Frame.Stored : Frame → Prop
  | .array done => ∀ item ∈ done, item.Stored
  | .object done _ => ∀ member ∈ done, member.2.Stored

namespace Reading

/-- All values in a configuration can be read. -/
def Stored : Reading → Prop
  | .awaiting stack _ => ∀ frame ∈ stack, frame.Stored
  | .holding stack value _ => (∀ frame ∈ stack, frame.Stored) ∧ value.Stored

/-- Beginning a value keeps the values in the configuration. -/
theorem stored_start {limit : Option Nat} {stack : List Frame} {input : List UInt8}
    {next : Reading} (hstack : ∀ frame ∈ stack, frame.Stored)
    (h : start limit stack input = .ok next) : next.Stored := by
  unfold start at h
  split at h
  · cases h
  · split at h
    · split at h
      · cases h
      · split at h
        · cases h
        · obtain rfl := Except.ok.inj h
          exact List.forall_mem_cons.mpr ⟨by simp [Frame.Stored], hstack⟩
        · obtain rfl := Except.ok.inj h
          exact ⟨hstack, .array (by simp)⟩
    · split at h
      · split at h
        · cases h
        · split at h
          · cases h
          · obtain rfl := Except.ok.inj h
            exact List.forall_mem_cons.mpr ⟨by simp [Frame.Stored], hstack⟩
          · obtain rfl := Except.ok.inj h
            exact ⟨hstack, .object Keyed.sorted_nil (by simp)⟩
      · split at h
        · cases h
        · rename_i hscalar
          obtain rfl := Except.ok.inj h
          exact ⟨hstack, stored_scanScalar hscalar⟩

/-- Putting a value into its container keeps the values in the configuration. -/
theorem stored_resume {frame : Frame} {stack : List Frame} {value : Json} {input : List UInt8}
    {next : Reading} (hframe : frame.Stored) (hstack : ∀ frame ∈ stack, frame.Stored)
    (hvalue : value.Stored) (h : resume frame stack value input = .ok next) : next.Stored := by
  unfold resume at h
  split at h
  · rename_i done
    have hitems : ∀ item ∈ value :: done, item.Stored :=
      List.forall_mem_cons.mpr ⟨hvalue, hframe⟩
    split at h
    · cases h
    · obtain rfl := Except.ok.inj h
      exact List.forall_mem_cons.mpr ⟨hitems, hstack⟩
    · obtain rfl := Except.ok.inj h
      exact ⟨hstack, .array fun item hitem => hitems item (List.mem_reverse.mp hitem)⟩
  · rename_i done key
    have hmembers : ∀ member ∈ (key, value) :: done, member.2.Stored :=
      List.forall_mem_cons.mpr ⟨hvalue, hframe⟩
    split at h
    · cases h
    · obtain rfl := Except.ok.inj h
      exact List.forall_mem_cons.mpr ⟨hmembers, hstack⟩
    · obtain rfl := Except.ok.inj h
      exact ⟨hstack, Json.stored_ofBindings fun member hmember =>
        hmembers member (List.mem_reverse.mp hmember)⟩

/-- A run gives a value that can be read. -/
theorem stored_run {limit : Option Nat} {reading : Reading} {value : Json} {rest : List UInt8}
    (hreading : reading.Stored) (h : run limit reading = .ok (value, rest)) : value.Stored := by
  fun_induction run limit reading with
  | case1 => cases h
  | case2 stack input next hstart ih => exact ih (stored_start hreading hstart) h
  | case3 =>
      obtain ⟨rfl, _⟩ := Prod.mk.inj (Except.ok.inj h)
      exact hreading.2
  | case4 => cases h
  | case5 frame stack value input next hresume ih =>
      obtain ⟨hframe, hstack⟩ := List.forall_mem_cons.mp hreading.1
      exact ih (stored_resume hframe hstack hreading.2 hresume) h

end Reading

/-! ## Documents -/

namespace Json

/-- Octets are a document if a value can be read and nothing but blanks follows. -/
theorem read_eq_ok_iff {limit : Option Nat} {octets : List UInt8} {value : Json} :
    read limit octets = .ok value ↔
      ∃ rest, Reading.run limit (.awaiting [] octets) = .ok (value, rest) ∧
        skipBlanks rest = [] := by
  unfold read
  cases Reading.run limit (.awaiting [] octets) with
  | error stop => simp
  | ok found =>
      obtain ⟨value', rest⟩ := found
      simp only [Except.ok.injEq, Prod.mk.injEq]
      constructor
      · intro h
        split at h
        · rename_i hskip
          exact ⟨rest, ⟨Except.ok.inj h, rfl⟩, hskip⟩
        · cases h
      · rintro ⟨_, ⟨rfl, rfl⟩, hskip⟩
        rw [hskip]

/-- Told in other words, an error is still an error. -/
theorem mapError_eq_ok_iff {ε ε' α : Type} {tell : ε → ε'} {result : Except ε α} {value : α} :
    result.mapError tell = .ok value ↔ result = .ok value := by
  cases result with
  | error reason => constructor <;> intro h <;> cases h
  | ok found => constructor <;> intro h <;> exact congrArg Except.ok (Except.ok.inj h)

/-- A text is a document if its octets are. -/
theorem parse_eq_ok_iff {text : String} {value : Json} :
    parse text = .ok value ↔ read none (Utf8.encode text) = .ok value :=
  mapError_eq_ok_iff

/-- A file is a document if its octets are one within the bound. -/
theorem parseFile_eq_ok_iff {octets : List UInt8} {value : Json} :
    parseFile octets = .ok value ↔ read (some fileDepth) octets = .ok value :=
  mapError_eq_ok_iff

/-- A value that was read can be stored: keys are held once and numbers fit. -/
theorem stored_of_read {limit : Option Nat} {octets : List UInt8} {value : Json}
    (h : read limit octets = .ok value) : value.Stored := by
  obtain ⟨_, hrun, _⟩ := read_eq_ok_iff.mp h
  exact Reading.stored_run (by simp [Reading.Stored]) hrun

/-- The value of a file is one that can be read. -/
theorem stored_of_parseFile {octets : List UInt8} {value : Json}
    (h : parseFile octets = .ok value) : value.Stored :=
  stored_of_read (parseFile_eq_ok_iff.mp h)

end Json
end SyntaxCensus
