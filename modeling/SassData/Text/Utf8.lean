namespace SassData.Text.Utf8

def replacement : Char := '\uFFFD'

def encodeChar (c : Char) : List UInt8 :=
  let n := c.toNat
  if n < 0x80 then [UInt8.ofNat n]
  else if n < 0x800 then [UInt8.ofNat (0xC0 + n / 0x40), UInt8.ofNat (0x80 + n % 0x40)]
  else if n < 0x10000 then
    [UInt8.ofNat (0xE0 + n / 0x1000), UInt8.ofNat (0x80 + n / 0x40 % 0x40), UInt8.ofNat (0x80 + n % 0x40)]
  else
    [UInt8.ofNat (0xF0 + n / 0x40000), UInt8.ofNat (0x80 + n / 0x1000 % 0x40),
      UInt8.ofNat (0x80 + n / 0x40 % 0x40), UInt8.ofNat (0x80 + n % 0x40)]

def encode (s : List Char) : List UInt8 :=
  s.flatMap encodeChar

/-- Between two characters, or inside one: how many bytes are missing, the bounds of the next of them, and the
bits so far. -/
inductive State
  | ground
  | within (missing low high bits : Nat)

def lead (b : Nat) : List Char × State :=
  if b < 0x80 then ([Char.ofNat b], .ground)
  else if b < 0xC2 then ([replacement], .ground)
  else if b < 0xE0 then ([], .within 1 0x80 0xBF (b - 0xC0))
  else if b = 0xE0 then ([], .within 2 0xA0 0xBF 0)
  else if b = 0xED then ([], .within 2 0x80 0x9F 0xD)
  else if b < 0xF0 then ([], .within 2 0x80 0xBF (b - 0xE0))
  else if b = 0xF0 then ([], .within 3 0x90 0xBF 0)
  else if b < 0xF4 then ([], .within 3 0x80 0xBF (b - 0xF0))
  else if b = 0xF4 then ([], .within 3 0x80 0x8F 4)
  else ([replacement], .ground)

def step : State → Nat → List Char × State
  | .ground, b => lead b
  | .within missing low high bits, b =>
    if low ≤ b ∧ b ≤ high then
      let bits := bits * 0x40 + (b - 0x80)
      if missing = 1 then ([Char.ofNat bits], .ground)
      else ([], .within (missing - 1) 0x80 0xBF bits)
    else
      let next := lead b
      (replacement :: next.1, next.2)

def run : State → List UInt8 → List Char
  | .ground, [] => []
  | .within .., [] => [replacement]
  | s, b :: bs =>
    let next := step s b.toNat
    next.1 ++ run next.2 bs

def decode (bytes : List UInt8) : List Char :=
  run .ground bytes

end SassData.Text.Utf8
