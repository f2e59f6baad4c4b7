/-
UTF-8. Writing passes surrogates through as three bytes each, so every text can be written.
Reading is strict: it refuses surrogates and overlong forms, and says where the first fault lies,
how many bytes it spans and what is wrong with them. `readPassing` is the reading that undoes the
writing.
-/
import ScriptHost.Text.Basic

namespace ScriptHost

/-- Where a run of bytes cannot be read, and why: the bytes from `start` up to `stop`. -/
structure DecodingFault where
  /-- The name the encoding goes by in messages. -/
  codec : Text
  bytes : Bytes
  start : Nat
  stop : Nat
  reason : Text
deriving DecidableEq

/-- A text that cannot be encoded: the code points from `start` up to `stop` have no form. -/
structure EncodingFault where
  text : Text
  start : Nat
  stop : Nat
deriving DecidableEq

namespace Utf8

/-! ## Writing -/

/-- The bytes of one code point. -/
def encodePoint (c : CodePoint) : Bytes :=
  let n := c.val
  if n < 0x80 then [UInt8.ofNat n]
  else if n < 0x800 then [UInt8.ofNat (0xC0 + n / 0x40), UInt8.ofNat (0x80 + n % 0x40)]
  else if n < 0x10000 then
    [UInt8.ofNat (0xE0 + n / 0x1000), UInt8.ofNat (0x80 + n / 0x40 % 0x40), UInt8.ofNat (0x80 + n % 0x40)]
  else
    [UInt8.ofNat (0xF0 + n / 0x40000), UInt8.ofNat (0x80 + n / 0x1000 % 0x40),
     UInt8.ofNat (0x80 + n / 0x40 % 0x40), UInt8.ofNat (0x80 + n % 0x40)]

/-- The bytes of a text, surrogates passed through. -/
def encode (t : Text) : Bytes := t.flatMap encodePoint

/-- The longest start of a text of at most `limit` bytes. -/
def upTo (limit : Nat) : Text → Text
  | [] => []
  | c :: rest =>
    let size := (encodePoint c).length
    if size ≤ limit then c :: upTo (limit - size) rest else []

/-- The first run of surrogates in a text, as what keeps it from being written strictly. -/
def strictFault? (t : Text) : Option EncodingFault :=
  match t.dropWhile fun c => !c.isSurrogate with
  | [] => none
  | rest =>
    let start := t.length - rest.length
    some ⟨t, start, start + (rest.takeWhile CodePoint.isSurrogate).length⟩

/-! ## Reading -/

/-- What is wrong at a place. -/
inductive Refusal where
  | invalidStart
  | unexpectedEnd
  /-- A continuation byte is missing after this many good bytes. -/
  | invalidContinuation (good : Nat)
deriving DecidableEq

def Refusal.reason : Refusal → Text
  | .invalidStart => "invalid start byte"
  | .unexpectedEnd => "unexpected end of data"
  | .invalidContinuation _ => "invalid continuation byte"

def isTail (b : UInt8) : Bool := 0x80 ≤ b && b < 0xC0

/-- How many tail bytes a lead byte asks for, and the range its first tail byte must lie in. -/
structure Lead where
  tails : Nat
  low : Nat
  high : Nat
  bits : Nat

/-- The lead bytes; `passing` widens the range of 0xED to take in the surrogates. -/
def lead? (passing : Bool) (b : UInt8) : Option Lead :=
  let n := b.toNat
  if n < 0xC2 then none
  else if n < 0xE0 then some ⟨1, 0x80, 0xC0, n - 0xC0⟩
  else if n = 0xE0 then some ⟨2, 0xA0, 0xC0, 0⟩
  else if n = 0xED then some ⟨2, 0x80, if passing then 0xC0 else 0xA0, 0xD⟩
  else if n < 0xF0 then some ⟨2, 0x80, 0xC0, n - 0xE0⟩
  else if n = 0xF0 then some ⟨3, 0x90, 0xC0, 0⟩
  else if n = 0xF4 then some ⟨3, 0x80, 0x90, 4⟩
  else if n < 0xF4 then some ⟨3, 0x80, 0xC0, n - 0xF0⟩
  else none

/-- The tail bytes after `good` bytes of a character: the value they build on `acc`, and the rest. -/
def tails : Nat → Nat → Nat → Bytes → Except Refusal (Nat × Bytes)
  | 0, _, acc, rest => .ok (acc, rest)
  | _ + 1, _, _, [] => .error .unexpectedEnd
  | n + 1, good, acc, b :: rest =>
    if isTail b then tails n (good + 1) (acc * 0x40 + (b.toNat - 0x80)) rest
    else .error (.invalidContinuation good)

/-- The first character of `b :: rest`, how many bytes spell it, and what follows them. -/
def readPoint (passing : Bool) (b : UInt8) (rest : Bytes) : Except Refusal (CodePoint × Nat × Bytes) :=
  if b < 0x80 then .ok (CodePoint.ofByte b, 1, rest)
  else match lead? passing b with
    | none => .error .invalidStart
    | some l =>
      match rest with
      | [] => .error .unexpectedEnd
      | t :: more =>
        if l.low ≤ t.toNat ∧ t.toNat < l.high then
          match tails (l.tails - 1) 2 (l.bits * 0x40 + (t.toNat - 0x80)) more with
          | .error r => .error r
          | .ok (n, after) => .ok (CodePoint.ofNat n, l.tails + 1, after)
        else .error (.invalidContinuation 1)

/-- How many bytes a refusal spans where `left` bytes are left. -/
def Refusal.span (left : Nat) : Refusal → Nat
  | .invalidStart => 1
  | .unexpectedEnd => left
  | .invalidContinuation good => good

/-- Reads `bytes`, of which `pos` are behind; `fuel` is at least the number of those ahead. -/
def readFrom (passing : Bool) : Nat → Nat → Bytes → Except (Nat × Nat × Refusal) Text
  | 0, _, _ => .ok []
  | _ + 1, _, [] => .ok []
  | fuel + 1, pos, b :: rest =>
    match readPoint passing b rest with
    | .error r => .error (pos, pos + r.span (rest.length + 1), r)
    | .ok (c, used, more) =>
      match readFrom passing fuel (pos + used) more with
      | .error e => .error e
      | .ok t => .ok (c :: t)

/-- The text that the bytes spell, read strictly. -/
def decode (bytes : Bytes) : Except DecodingFault Text :=
  (readFrom false bytes.length 0 bytes).mapError fun (start, stop, r) =>
    { codec := "utf-8", bytes, start, stop, reason := r.reason }

/-- The text that the bytes spell, surrogates passed through. -/
def readPassing (bytes : Bytes) : Option Text :=
  (readFrom true bytes.length 0 bytes).toOption

end Utf8

end ScriptHost
