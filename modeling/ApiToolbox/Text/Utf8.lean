/-!
UTF-8: the bytes of a text, and the text of bytes that need not be well formed. Decoding reads one
character or one ill-formed run at a time; a run is the longest start of a well-formed sequence, or
a single byte. `decode?` refuses such runs, `decodeLossy` writes U+FFFD for each.
-/

namespace ApiToolbox.Text.Utf8

def encode (cs : List Char) : List UInt8 :=
  cs.flatMap String.utf8EncodeChar

def size (cs : List Char) : Nat :=
  cs.foldl (fun n c => n + c.utf8Size) 0

def isContinuation (b : UInt8) : Bool := 0x80 ≤ b && b ≤ 0xBF

/-- The bounds of the second byte of a sequence of three bytes, by its first byte. -/
def secondOfThree (b : UInt8) : UInt8 × UInt8 :=
  if b = 0xE0 then (0xA0, 0xBF) else if b = 0xED then (0x80, 0x9F) else (0x80, 0xBF)

/-- The bounds of the second byte of a sequence of four bytes, by its first byte. -/
def secondOfFour (b : UInt8) : UInt8 × UInt8 :=
  if b = 0xF0 then (0x90, 0xBF) else if b = 0xF4 then (0x80, 0x8F) else (0x80, 0xBF)

def within (bounds : UInt8 × UInt8) (b : UInt8) : Bool := bounds.1 ≤ b && b ≤ bounds.2

/-- The low bits that a byte after the first one carries. -/
def payload (b : UInt8) : Nat := b.toNat % 64

/-- Read one character, or `none` for one ill-formed run, and say how many bytes it took beyond
the first. -/
def step (b : UInt8) (rest : List UInt8) : Option Char × Nat :=
  if b < 0x80 then (some (Char.ofNat b.toNat), 0)
  else if 0xC2 ≤ b && b ≤ 0xDF then
    match rest with
    | c :: _ =>
      if isContinuation c then (some (Char.ofNat (b.toNat % 32 * 64 + payload c)), 1) else (none, 0)
    | [] => (none, 0)
  else if 0xE0 ≤ b && b ≤ 0xEF then
    match rest with
    | c :: rest =>
      if within (secondOfThree b) c then
        match rest with
        | d :: _ =>
          if isContinuation d then
            (some (Char.ofNat ((b.toNat % 16 * 64 + payload c) * 64 + payload d)), 2)
          else (none, 1)
        | [] => (none, 1)
      else (none, 0)
    | [] => (none, 0)
  else if 0xF0 ≤ b && b ≤ 0xF4 then
    match rest with
    | c :: rest =>
      if within (secondOfFour b) c then
        match rest with
        | d :: rest =>
          if isContinuation d then
            match rest with
            | e :: _ =>
              if isContinuation e then
                (some (Char.ofNat
                  (((b.toNat % 8 * 64 + payload c) * 64 + payload d) * 64 + payload e)), 3)
              else (none, 2)
            | [] => (none, 2)
          else (none, 1)
        | [] => (none, 1)
      else (none, 0)
    | [] => (none, 0)
  else (none, 0)

/-- Each character of the bytes, `none` where a run is ill formed. -/
def units : List UInt8 → List (Option Char)
  | [] => []
  | b :: rest =>
    let (c?, taken) := step b rest
    c? :: units (rest.drop taken)
termination_by bytes => bytes.length
decreasing_by simp only [List.length_drop, List.length_cons]; omega

/-- The text of well-formed bytes. -/
def decode? (bytes : List UInt8) : Option (List Char) :=
  (units bytes).mapM id

/-- The text of any bytes, with U+FFFD for each ill-formed run. -/
def decodeLossy (bytes : List UInt8) : List Char :=
  (units bytes).map (·.getD '\uFFFD')

end ApiToolbox.Text.Utf8
