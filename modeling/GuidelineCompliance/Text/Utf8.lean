/-! UTF-8 as a machine that takes one octet at a time. The machine knows, inside a character, how
many octets are owed and which range the next one must lie in, so it refuses an octet as soon as
no character starts with the octets up to it. Lossy reading puts one replacement character for
each refused stretch. -/

namespace GuidelineCompliance.Text

abbrev Octets := List UInt8

namespace Utf8

/-- A character that has begun: the value of the octets up to here, the number of octets owed,
and the range that the next octet must lie in. -/
structure Pending where
  value : Nat
  owed : Nat
  low : UInt8
  high : UInt8

abbrev State := Option Pending

/-- What the octets read so far decode to, last first: characters, and `none` for a stretch of
octets that begins no character. -/
abbrev Decoded := List (Option Char)

def first (b : UInt8) (done : Decoded) : State × Decoded :=
  let n := b.toNat
  if b < 0x80 then (none, some (Char.ofNat n) :: done)
  else if 0xC2 ≤ b && b ≤ 0xDF then (some ⟨n - 0xC0, 1, 0x80, 0xBF⟩, done)
  else if b == 0xE0 then (some ⟨0, 2, 0xA0, 0xBF⟩, done)
  else if b == 0xED then (some ⟨0xD, 2, 0x80, 0x9F⟩, done)
  else if 0xE1 ≤ b && b ≤ 0xEF then (some ⟨n - 0xE0, 2, 0x80, 0xBF⟩, done)
  else if b == 0xF0 then (some ⟨0, 3, 0x90, 0xBF⟩, done)
  else if 0xF1 ≤ b && b ≤ 0xF3 then (some ⟨n - 0xF0, 3, 0x80, 0xBF⟩, done)
  else if b == 0xF4 then (some ⟨4, 3, 0x80, 0x8F⟩, done)
  else (none, none :: done)

/-- One octet. An octet that cannot go on with the character begun ends the refused stretch and
is then read as if it stood between two characters. -/
def step (now : State × Decoded) (b : UInt8) : State × Decoded :=
  match now.1 with
  | none => first b now.2
  | some p =>
    if p.low ≤ b && b ≤ p.high then
      let value := p.value * 64 + (b.toNat - 0x80)
      if p.owed ≤ 1 then (none, some (Char.ofNat value) :: now.2)
      else (some ⟨value, p.owed - 1, 0x80, 0xBF⟩, now.2)
    else first b (none :: now.2)

/-- What a whole text decodes to. A character that is not complete at the end is refused. -/
def scan (bs : Octets) : Decoded :=
  match bs.foldl step (none, []) with
  | (none, done) => done.reverse
  | (some _, done) => (none :: done).reverse

def decode? (bs : Octets) : Option (List Char) := (scan bs).mapM id

/-- The characters of a text, with a replacement character for each refused stretch. -/
def decodeLossy (bs : Octets) : List Char := (scan bs).map (·.getD '\uFFFD')

def encode (cs : List Char) : Octets := cs.flatMap String.utf8EncodeChar

end Utf8

def Octets.ofText (s : String) : Octets := Utf8.encode s.toList

def Octets.toText? (bs : Octets) : Option String := (Utf8.decode? bs).map String.ofList

def Octets.toTextLossy (bs : Octets) : String := String.ofList (Utf8.decodeLossy bs)

def Octets.toTextLatin1 (bs : Octets) : String :=
  String.ofList (bs.map fun b => Char.ofNat b.toNat)

end GuidelineCompliance.Text
