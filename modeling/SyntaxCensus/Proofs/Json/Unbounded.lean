import SyntaxCensus.Proofs.Json.Reading

/-!
# Readers without a bound

A reader that has no bound on open containers stops for many reasons, but never
because containers are nested too deep, whether the octets are a document or not.

Main definitions:

- `Shallow`: a reader was not stopped for the nesting.

Main results:

- `Reading.shallow_start`, `Reading.shallow_resume`, `Reading.shallow_run`: steps
  and runs without a bound.
- `Json.fault_of_parse`: no text is nested too deep.
-/

namespace SyntaxCensus

/-- Whatever stopped the reader, it was not the nesting. -/
def Shallow {α : Type} (result : Except Stop α) : Prop :=
  ∀ stop, result = .error stop → stop.fault ≠ .nestedTooDeep

section Outcomes

variable {α β : Type}

@[simp]
theorem shallow_ok (found : α) : Shallow (.ok found) :=
  nofun

@[simp]
theorem shallow_error_iff (stop : Stop) :
    Shallow (.error stop : Except Stop α) ↔ stop.fault ≠ .nestedTooDeep := by
  simp [Shallow]

@[simp]
theorem fault_here (fault : Fault) (rest : List UInt8) : (Stop.here fault rest).fault = fault :=
  rfl

@[simp]
theorem fault_next (fault : Fault) (rest : List UInt8) : (Stop.next fault rest).fault = fault :=
  rfl

@[simp]
theorem fault_hereAfterLook (fault : Fault) (rest : List UInt8) :
    (Stop.hereAfterLook fault rest).fault = fault :=
  rfl

/-- What stopped a part of a reader stops the reader. -/
theorem Shallow.passOn {result : Except Stop α} (h : Shallow result) {stop : Stop}
    (hstop : result = .error stop) : Shallow (.error stop : Except Stop β) :=
  (shallow_error_iff stop).mpr (h stop hstop)

end Outcomes

/-! ## Words and strings -/

/-- A word that is cut short or misspelled stops the reader, and nothing is nested there. -/
theorem shallow_scanWord (word input : List UInt8) : Shallow (scanWord word input) := by
  induction word generalizing input with
  | nil => simp [scanWord]
  | cons expected word ih =>
      cases input with
      | nil => simp [scanWord]
      | cons octet tail =>
          rw [scanWord]
          split
          · exact ih tail
          · simp

theorem shallow_scanHex (input : List UInt8) : Shallow (scanHex input) := by
  unfold scanHex
  split
  · split <;> simp
  · simp

theorem shallow_scanLowSurrogate (high : Nat) (input : List UInt8) :
    Shallow (scanLowSurrogate high input) := by
  unfold scanLowSurrogate
  split
  · simp
  · split
    · simp
    · split
      · simp
      · split
        · simp
        · split
          · rename_i hstop
            exact (shallow_scanHex _).passOn hstop
          · split <;> simp

theorem shallow_scanCodePoint (input : List UInt8) : Shallow (scanCodePoint input) := by
  unfold scanCodePoint
  split
  · rename_i hstop
    exact (shallow_scanHex _).passOn hstop
  · split
    · simp
    · split
      · exact shallow_scanLowSurrogate _ _
      · simp

/-- What stops an escape is its letter, its digits or the end of the octets. -/
theorem shallow_scanEscape (input : List UInt8) : Shallow (scanEscape input) := by
  unfold scanEscape
  split
  · simp
  · split
    · simp
    · split
      · exact shallow_scanCodePoint _
      · simp

/-- A text ends early, has a control character or a wrong escape. -/
theorem shallow_scanStringOnto (content input : List UInt8) :
    Shallow (scanStringOnto content input) := by
  fun_induction scanStringOnto content input with
  | case1 => simp
  | case2 =>
      unfold finishString
      split <;> simp
  | case3 =>
      rename_i hstop _
      exact (shallow_scanEscape _).passOn hstop
  | case4 _ _ _ _ _ _ ih => exact ih
  | case5 => simp
  | case6 _ _ _ _ _ _ ih => exact ih

theorem shallow_scanString (input : List UInt8) : Shallow (scanString input) :=
  shallow_scanStringOnto [] input

/-! ## Numbers -/

section Numbers

variable (negative : Bool) (significand : Nat)

theorem shallow_scaledNumber (exponent : Int) (rest : List UInt8) :
    Shallow (scaledNumber negative significand exponent rest) := by
  unfold scaledNumber
  split <;> simp

theorem shallow_scanExponent (scale : Int) (input : List UInt8) :
    Shallow (scanExponent negative significand scale input) := by
  unfold scanExponent
  split
  · simp
  · split
    · simp
    · split
      · exact shallow_scaledNumber _ _ _ _
      · split <;> simp

theorem shallow_scanScale (scale : Int) (input : List UInt8) :
    Shallow (scanScale negative significand scale input) := by
  cases input with
  | nil => exact shallow_scaledNumber _ _ _ _
  | cons octet rest =>
      rw [scanScale]
      split
      · exact shallow_scanExponent _ _ _ _
      · exact shallow_scaledNumber _ _ _ _

theorem shallow_scanFraction (scale : Int) (input : List UInt8) :
    Shallow (scanFraction negative significand scale input) := by
  rw [scanFraction]
  split
  · split <;> simp
  · exact shallow_scanScale _ _ _ _

theorem shallow_scanAfterWhole (left : Nat) (input : List UInt8) :
    Shallow (scanAfterWhole negative significand left input) := by
  unfold scanAfterWhole
  split
  · split
    · simp
    · exact shallow_scaledNumber _ _ _ _
  · split
    · exact shallow_scanFraction _ _ _ _
    · split
      · exact shallow_scanExponent _ _ _ _
      · split
        · simp
        · exact shallow_scaledNumber _ _ _ _

/-- A number may begin with no digit, or with a zero before others. -/
theorem shallow_scanMagnitude (input : List UInt8) : Shallow (scanMagnitude negative input) := by
  unfold scanMagnitude
  split
  · simp
  · split
    · simp
    · split
      · simp
      · exact shallow_scanAfterWhole _ _ _ _
    · exact shallow_scanAfterWhole _ _ _ _

theorem shallow_scanNumber (input : List UInt8) : Shallow (scanNumber input) := by
  unfold scanNumber
  split
  · simp
  · split
    · exact shallow_scanMagnitude _ _
    · exact shallow_scanMagnitude _ _

end Numbers

/-! ## Parts of containers and scalars -/

theorem shallow_scanFirstItem (input : List UInt8) : Shallow (scanFirstItem input) := by
  unfold scanFirstItem
  split
  · simp
  · split <;> simp

/-- After an item there may be neither a comma nor the end of the array. -/
theorem shallow_scanNextItem (input : List UInt8) : Shallow (scanNextItem input) := by
  unfold scanNextItem
  split
  · simp
  · split
    · simp
    · split
      · split
        · simp
        · split <;> simp
      · simp

/-- A key may have no colon after it. -/
theorem shallow_scanKey (input : List UInt8) : Shallow (scanKey input) := by
  unfold scanKey
  split
  · rename_i hstop
    exact (shallow_scanString _).passOn hstop
  · split
    · simp
    · split <;> simp

theorem shallow_scanFirstKey (input : List UInt8) : Shallow (scanFirstKey input) := by
  unfold scanFirstKey
  split
  · simp
  · split
    · simp
    · split
      · split
        · rename_i hstop
          exact (shallow_scanKey _).passOn hstop
        · simp
      · simp

/-- After a member there may be neither a comma nor the end of the object. -/
theorem shallow_scanNextKey (input : List UInt8) : Shallow (scanNextKey input) := by
  unfold scanNextKey
  split
  · simp
  · split
    · simp
    · split
      · split
        · simp
        · split
          · split
            · rename_i hstop
              exact (shallow_scanKey _).passOn hstop
            · simp
          · split <;> simp
      · simp

/-- A scalar opens no container. -/
theorem shallow_scanScalar (input : List UInt8) : Shallow (scanScalar input) := by
  unfold scanScalar
  split
  · simp
  · split
    · split
      · rename_i hstop
        exact (shallow_scanWord _ _).passOn hstop
      · simp
    · split
      · split
        · rename_i hstop
          exact (shallow_scanWord _ _).passOn hstop
        · simp
      · split
        · split
          · rename_i hstop
            exact (shallow_scanWord _ _).passOn hstop
          · simp
        · split
          · split
            · rename_i hstop
              exact (shallow_scanString _).passOn hstop
            · simp
          · split
            · split
              · rename_i hstop
                exact (shallow_scanNumber _).passOn hstop
              · simp
            · simp

/-! ## The machine -/

namespace Reading

/-- Where a value begins, a container that is opened is not refused: there is no bound. -/
theorem shallow_start (stack : List Frame) (input : List UInt8) :
    Shallow (start none stack input) := by
  unfold start
  split
  · simp
  · split
    · rw [isFull, if_neg Bool.false_ne_true]
      split
      · rename_i hstop
        exact (shallow_scanFirstItem _).passOn hstop
      · simp
      · simp
    · split
      · rw [isFull, if_neg Bool.false_ne_true]
        split
        · rename_i hstop
          exact (shallow_scanFirstKey _).passOn hstop
        · simp
        · simp
      · split
        · rename_i hstop
          exact (shallow_scanScalar _).passOn hstop
        · simp

/-- After a value, no container is opened. -/
theorem shallow_resume (frame : Frame) (stack : List Frame) (value : Json) (input : List UInt8) :
    Shallow (resume frame stack value input) := by
  unfold resume
  split
  · split
    · rename_i hstop
      exact (shallow_scanNextItem _).passOn hstop
    · simp
    · simp
  · split
    · rename_i hstop
      exact (shallow_scanNextKey _).passOn hstop
    · simp
    · simp

/-- A run without a bound is not stopped by the nesting. -/
theorem shallow_run (reading : Reading) : Shallow (run none reading) := by
  fun_induction run none reading with
  | case1 stack input stop hstop => exact (shallow_start stack input).passOn hstop
  | case2 stack input next hstart ih => exact ih
  | case3 value input => simp
  | case4 frame stack value input stop hstop =>
      exact (shallow_resume frame stack value input).passOn hstop
  | case5 frame stack value input next hresume ih => exact ih

end Reading

/-! ## Documents -/

namespace Json

/-- Whatever the octets are, the run and what follows it are not stopped for the nesting. -/
theorem shallow_read (octets : List UInt8) : Shallow (read none octets) := by
  unfold read
  split
  · rename_i hstop
    exact (Reading.shallow_run _).passOn hstop
  · split <;> simp

/-- Whatever is wrong with a text, it is not nested too deep. -/
theorem fault_of_parse {text : String} {reason : ReadError} (h : parse text = .error reason) :
    reason.fault ≠ .nestedTooDeep := by
  simp only [parse] at h
  cases hread : read none (Utf8.encode text) with
  | error stop =>
      rw [hread] at h
      obtain rfl := Except.error.inj h
      exact shallow_read _ stop hread
  | ok value =>
      rw [hread] at h
      cases h

end Json
end SyntaxCensus
