import SyntaxCensus.Json.Scanner

/-!
# Reading documents

A document is read by a machine with a stack of the containers that are open,
so values may be nested to any depth.  Each step uses up at least one octet.  A
bound on the number of open containers is kept where one is given.

Main definitions:

- `Reading`: a configuration of the machine, and `Reading.run` its run.
- `Json.parse`: the value of a text, nested to any depth.
- `Json.parseFile`: the value of a file, with a bound on nesting.

Main results:

- `Reading.start_length` and `Reading.resume_length`: a step uses up input.
-/

namespace SyntaxCensus

/-! ## Between the parts of a container -/

/-- After the bracket of an array: whether an item follows. -/
def scanFirstItem (input : List UInt8) : Scan Bool :=
  match skipBlanks input with
  | [] => .error (.next .endInList [])
  | octet :: rest =>
      if octet = Octet.closeBracket then .ok (false, rest) else .ok (true, octet :: rest)

/-- After an item of an array: whether another item follows. -/
def scanNextItem (input : List UInt8) : Scan Bool :=
  match skipBlanks input with
  | [] => .error (.next .endInList [])
  | octet :: rest =>
      if octet = Octet.closeBracket then .ok (false, rest)
      else if octet = Octet.comma then
        match skipBlanks rest with
        | [] => .error (.next .endInValue [])
        | first :: more =>
            if first = Octet.closeBracket then .error (.next .trailingComma (first :: more))
            else .ok (true, first :: more)
      else .error (.next .listSeparatorExpected (octet :: rest))

/-- A key after its opening quote, with the colon after it. -/
def scanKey (input : List UInt8) : Scan String :=
  match scanString input with
  | .error stop => .error stop
  | .ok (key, rest) =>
      match skipBlanks rest with
      | [] => .error (.next .endInObject [])
      | octet :: after =>
          if octet = Octet.colon then .ok (key, after)
          else .error (.next .colonExpected (octet :: after))

/-- After the brace of an object: the key of the member that follows, if there
is one. -/
def scanFirstKey (input : List UInt8) : Scan (Option String) :=
  match skipBlanks input with
  | [] => .error (.next .endInObject [])
  | octet :: rest =>
      if octet = Octet.closeBrace then .ok (none, rest)
      else if octet = Octet.quote then
        match scanKey rest with
        | .error stop => .error stop
        | .ok (key, after) => .ok (some key, after)
      else .error (.next .keyNotString (octet :: rest))

/-- After a member of an object: the key of the member that follows, if there
is one. -/
def scanNextKey (input : List UInt8) : Scan (Option String) :=
  match skipBlanks input with
  | [] => .error (.next .endInObject [])
  | octet :: rest =>
      if octet = Octet.closeBrace then .ok (none, rest)
      else if octet = Octet.comma then
        match skipBlanks rest with
        | [] => .error (.next .endInValue [])
        | first :: more =>
            if first = Octet.quote then
              match scanKey more with
              | .error stop => .error stop
              | .ok (key, after) => .ok (some key, after)
            else if first = Octet.closeBrace then .error (.next .trailingComma (first :: more))
            else .error (.next .keyNotString (first :: more))
      else .error (.next .objectSeparatorExpected (octet :: rest))

/-! ## Scalars -/

/-- A value that is no container, from its first octet on. -/
def scanScalar : List UInt8 → Scan Json
  | [] => .error (.next .endInValue [])
  | octet :: rest =>
      if octet = 0x6E then
        match scanWord [0x75, 0x6C, 0x6C] rest with
        | .error stop => .error stop
        | .ok after => .ok (.null, after)
      else if octet = 0x74 then
        match scanWord [0x72, 0x75, 0x65] rest with
        | .error stop => .error stop
        | .ok after => .ok (.bool true, after)
      else if octet = 0x66 then
        match scanWord [0x61, 0x6C, 0x73, 0x65] rest with
        | .error stop => .error stop
        | .ok after => .ok (.bool false, after)
      else if octet = Octet.quote then
        match scanString rest with
        | .error stop => .error stop
        | .ok (text, after) => .ok (.string text, after)
      else if octet = Octet.minus ∨ Octet.isDigit octet = true then
        match scanNumber (octet :: rest) with
        | .error stop => .error stop
        | .ok (n, after) => .ok (.number n, after)
      else .error (.next .valueExpected (octet :: rest))

/-! ## The machine -/

/-- A container that is open: what has been read of it, in reverse.  An object
also has the key whose value is being read. -/
inductive Frame where
  | array (done : List Json)
  | object (done : List (String × Json)) (key : String)

/-- A configuration: a value is to be read next, or one has just been read;
with the open containers, the innermost first, and the octets that follow. -/
inductive Reading where
  | awaiting (stack : List Frame) (input : List UInt8)
  | holding (stack : List Frame) (value : Json) (input : List UInt8)

namespace Reading

/-- The octets that follow. -/
def input : Reading → List UInt8
  | .awaiting _ input => input
  | .holding _ _ input => input

/-- No further container may be opened. -/
def isFull (limit : Option Nat) (stack : List Frame) : Bool :=
  match limit with
  | none => false
  | some bound => decide (bound ≤ stack.length)

/-- Begin to read a value: a scalar is read, a container is opened. -/
def start (limit : Option Nat) (stack : List Frame) (input : List UInt8) :
    Except Stop Reading :=
  match skipBlanks input with
  | [] => .error (.next .endInValue [])
  | octet :: rest =>
      if octet = Octet.openBracket then
        if isFull limit stack then .error (.next .nestedTooDeep (octet :: rest))
        else
          match scanFirstItem rest with
          | .error stop => .error stop
          | .ok (true, after) => .ok (.awaiting (.array [] :: stack) after)
          | .ok (false, after) => .ok (.holding stack (.array []) after)
      else if octet = Octet.openBrace then
        if isFull limit stack then .error (.next .nestedTooDeep (octet :: rest))
        else
          match scanFirstKey rest with
          | .error stop => .error stop
          | .ok (some key, after) => .ok (.awaiting (.object [] key :: stack) after)
          | .ok (none, after) => .ok (.holding stack (.object []) after)
      else
        match scanScalar (octet :: rest) with
        | .error stop => .error stop
        | .ok (value, after) => .ok (.holding stack value after)

/-- Put a value that has been read into the innermost container, which either
goes on or ends. -/
def resume (frame : Frame) (stack : List Frame) (value : Json) (input : List UInt8) :
    Except Stop Reading :=
  match frame with
  | .array done =>
      match scanNextItem input with
      | .error stop => .error stop
      | .ok (true, rest) => .ok (.awaiting (.array (value :: done) :: stack) rest)
      | .ok (false, rest) => .ok (.holding stack (.array (value :: done).reverse) rest)
  | .object done key =>
      match scanNextKey input with
      | .error stop => .error stop
      | .ok (some next, rest) => .ok (.awaiting (.object ((key, value) :: done) next :: stack) rest)
      | .ok (none, rest) => .ok (.holding stack (.ofBindings ((key, value) :: done).reverse) rest)

end Reading

/-! ## Every step uses up input -/

theorem scanFirstItem_length {input rest : List UInt8} {more : Bool}
    (h : scanFirstItem input = .ok (more, rest)) : rest.length ≤ input.length := by
  have hskip := skipBlanks_length input
  unfold scanFirstItem at h
  split at h
  · simp at h
  · rename_i heq
    rw [heq] at hskip
    simp only [List.length_cons] at hskip
    split at h <;> simp at h <;> (rw [← h.2]; simp; omega)

theorem scanNextItem_length {input rest : List UInt8} {more : Bool}
    (h : scanNextItem input = .ok (more, rest)) : rest.length < input.length := by
  have hskip := skipBlanks_length input
  unfold scanNextItem at h
  split at h
  · simp at h
  · rename_i octet tail heq
    rw [heq] at hskip
    simp only [List.length_cons] at hskip
    split at h
    · simp at h
      rw [← h.2]; omega
    · split at h
      · have htail := skipBlanks_length tail
        split at h
        · simp at h
        · rename_i heq'
          rw [heq'] at htail
          split at h
          · simp at h
          · simp at h
            rw [← h.2]; simp at *; omega
      · simp at h

theorem scanKey_length {input rest : List UInt8} {key : String}
    (h : scanKey input = .ok (key, rest)) : rest.length < input.length := by
  unfold scanKey at h
  split at h
  · simp at h
  · rename_i after hstring
    have := scanString_length hstring
    have hskip := skipBlanks_length after
    split at h
    · simp at h
    · rename_i heq
      rw [heq] at hskip
      simp only [List.length_cons] at hskip
      split at h
      · simp at h
        rw [← h.2]; omega
      · simp at h

theorem scanFirstKey_length {input rest : List UInt8} {key : Option String}
    (h : scanFirstKey input = .ok (key, rest)) : rest.length < input.length := by
  have hskip := skipBlanks_length input
  unfold scanFirstKey at h
  split at h
  · simp at h
  · rename_i heq
    rw [heq] at hskip
    simp only [List.length_cons] at hskip
    split at h
    · simp at h
      rw [← h.2]; omega
    · split at h
      · split at h
        · simp at h
        · rename_i hkey
          have := scanKey_length hkey
          simp at h
          rw [← h.2]; omega
      · simp at h

theorem scanNextKey_length {input rest : List UInt8} {key : Option String}
    (h : scanNextKey input = .ok (key, rest)) : rest.length < input.length := by
  have hskip := skipBlanks_length input
  unfold scanNextKey at h
  split at h
  · simp at h
  · rename_i octet tail heq
    rw [heq] at hskip
    simp only [List.length_cons] at hskip
    split at h
    · simp at h
      rw [← h.2]; omega
    · split at h
      · have htail := skipBlanks_length tail
        split at h
        · simp at h
        · rename_i heq'
          rw [heq'] at htail
          simp only [List.length_cons] at htail
          split at h
          · split at h
            · simp at h
            · rename_i hkey
              have := scanKey_length hkey
              simp at h
              rw [← h.2]; omega
          · split at h <;> simp at h
      · simp at h

theorem scanScalar_length {input rest : List UInt8} {value : Json}
    (h : scanScalar input = .ok (value, rest)) : rest.length < input.length := by
  unfold scanScalar at h
  split at h
  · simp at h
  · rename_i octet tail
    split at h
    · split at h
      · simp at h
      · rename_i hword
        have := scanWord_length hword
        simp at h
        rw [← h.2]; simp; omega
    · split at h
      · split at h
        · simp at h
        · rename_i hword
          have := scanWord_length hword
          simp at h
          rw [← h.2]; simp; omega
      · split at h
        · split at h
          · simp at h
          · rename_i hword
            have := scanWord_length hword
            simp at h
            rw [← h.2]; simp; omega
        · split at h
          · split at h
            · simp at h
            · rename_i hstring
              have := scanString_length hstring
              simp at h
              rw [← h.2]; simp; omega
          · split at h
            · split at h
              · simp at h
              · rename_i hnumber
                have := scanNumber_length hnumber
                simp at h
                rw [← h.2]; exact this
            · simp at h

namespace Reading

/-- Beginning a value uses up at least one octet. -/
theorem start_length {limit : Option Nat} {stack : List Frame} {input : List UInt8}
    {next : Reading} (h : start limit stack input = .ok next) :
    next.input.length < input.length := by
  have hskip := skipBlanks_length input
  unfold start at h
  split at h
  · simp at h
  · rename_i heq
    rw [heq] at hskip
    simp only [List.length_cons] at hskip
    split at h
    · split at h
      · simp at h
      · split at h
        · simp at h
        · rename_i hitem
          have := scanFirstItem_length hitem
          simp at h
          rw [← h]; simp [Reading.input]; omega
        · rename_i hitem
          have := scanFirstItem_length hitem
          simp at h
          rw [← h]; simp [Reading.input]; omega
    · split at h
      · split at h
        · simp at h
        · split at h
          · simp at h
          · rename_i hkey
            have := scanFirstKey_length hkey
            simp at h
            rw [← h]; simp [Reading.input]; omega
          · rename_i hkey
            have := scanFirstKey_length hkey
            simp at h
            rw [← h]; simp [Reading.input]; omega
      · split at h
        · simp at h
        · rename_i hscalar
          have := scanScalar_length hscalar
          simp at h
          rw [← h]; simp [Reading.input] at *; omega

/-- Going on after a value uses up at least one octet. -/
theorem resume_length {frame : Frame} {stack : List Frame} {value : Json}
    {input : List UInt8} {next : Reading} (h : resume frame stack value input = .ok next) :
    next.input.length < input.length := by
  unfold resume at h
  split at h
  · split at h
    · simp at h
    · rename_i hitem
      have := scanNextItem_length hitem
      simp at h
      rw [← h]; simpa [Reading.input] using this
    · rename_i hitem
      have := scanNextItem_length hitem
      simp at h
      rw [← h]; simpa [Reading.input] using this
  · split at h
    · simp at h
    · rename_i hkey
      have := scanNextKey_length hkey
      simp at h
      rw [← h]; simpa [Reading.input] using this
    · rename_i hkey
      have := scanNextKey_length hkey
      simp at h
      rw [← h]; simpa [Reading.input] using this

/-- Run to the end of the outermost value. -/
def run (limit : Option Nat) (reading : Reading) : Scan Json :=
  match reading with
  | .awaiting stack input =>
      match _h : start limit stack input with
      | .error stop => .error stop
      | .ok next => run limit next
  | .holding [] value input => .ok (value, input)
  | .holding (frame :: stack) value input =>
      match _h : resume frame stack value input with
      | .error stop => .error stop
      | .ok next => run limit next
  termination_by reading.input.length
  decreasing_by
    · exact start_length _h
    · exact resume_length _h

end Reading

/-! ## Documents -/

namespace Json

/-- The value of octets that hold one value and blanks around it. -/
def read (limit : Option Nat) (octets : List UInt8) : Except Stop Json :=
  match Reading.run limit (.awaiting [] octets) with
  | .error stop => .error stop
  | .ok (value, rest) =>
      match skipBlanks rest with
      | [] => .ok value
      | octet :: more => .error (.next .trailingCharacters (octet :: more))

/-- The value of a text, nested to any depth. -/
def parse (text : String) : Except ReadError Json :=
  let octets := Utf8.encode text
  (read none octets).mapError (ReadError.ofStop .text octets)

/-- How many containers may be open in a file. -/
def fileDepth : Nat := 127

/-- The value of the octets of a file. -/
def parseFile (octets : List UInt8) : Except ReadError Json :=
  (read (some fileDepth) octets).mapError (ReadError.ofStop .file octets)

end Json
end SyntaxCensus
