/-
The encodings that every system has: the Unicode encodings, and three of one byte a character. An encoding
is found by its name: letters in lower case, every run of other marks a single underscore, and then one of
a table of spellings. Some names are known but stand for byte transforms that give no text. A text encoding
reads bytes or says where it fails. A system may know further names, which are not in the table.
-/
import ScriptHost.Text.Utf8

namespace ScriptHost

/-- Which of two byte orders, if the encoding fixes one. -/
inductive ByteOrder where
  | little
  | big
  | marked
deriving DecidableEq

/-- An encoding of texts. -/
inductive Encoding where
  | utf8
  /-- UTF-8 whose leading mark is dropped. -/
  | utf8Signed
  | latin1
  | ascii
  | windows1252
  | utf16 (order : ByteOrder)
  | utf32 (order : ByteOrder)
deriving DecidableEq

namespace Encoding

/-! ## Names -/

/-- Marks that stay in a normalised name. -/
def isNameMark (c : CodePoint) : Bool := c.isAsciiLetter || c.isDigit || c.is '.'

/-- The name in lower case with single underscores for runs of other marks, none at the ends. -/
def normalizeFrom (begun pending : Bool) : Text → Text
  | [] => []
  | c :: rest =>
    if isNameMark c then
      let tail := c.toAsciiLower :: normalizeFrom true false rest
      if pending && begun then CodePoint.ofChar '_' :: tail else tail
    else normalizeFrom begun true rest

def normalize (name : Text) : Text := normalizeFrom false false name

/-- What a name of the table stands for. -/
inductive Named where
  | text (e : Encoding)
  /-- A transform of bytes that gives no text. -/
  | transform
deriving DecidableEq

/-- The proper name of each encoding of the table and its other spellings, all normalised. The table is a part of
all encodings that a system can know; the rest of them are among the codecs that are installed. -/
def names : List (Named × String × List String) := [
  (.text .utf8, "utf_8", ["u8", "utf", "utf8", "utf8_ucs2", "utf8_ucs4", "cp65001"]),
  (.text .utf8Signed, "utf_8_sig", []),
  (.text .latin1, "latin_1", ["8859", "cp819", "csisolatin1", "ibm819", "iso8859", "iso8859_1",
    "iso_8859_1", "iso_8859_1_1987", "iso_ir_100", "l1", "latin", "latin1"]),
  (.text .ascii, "ascii", ["646", "ansi_x3.4_1968", "ansi_x3_4_1968", "ansi_x3.4_1986", "cp367",
    "csascii", "ibm367", "iso646_us", "iso_646.irv_1991", "iso_ir_6", "us", "us_ascii"]),
  (.text .windows1252, "cp1252", ["1252", "windows_1252"]),
  (.text (.utf16 .marked), "utf_16", ["u16", "utf16"]),
  (.text (.utf16 .little), "utf_16_le", ["unicodelittleunmarked", "utf_16le"]),
  (.text (.utf16 .big), "utf_16_be", ["unicodebigunmarked", "utf_16be"]),
  (.text (.utf32 .marked), "utf_32", ["u32", "utf32"]),
  (.text (.utf32 .little), "utf_32_le", ["utf_32le"]),
  (.text (.utf32 .big), "utf_32_be", ["utf_32be"]),
  (.transform, "hex_codec", ["hex"]),
  (.transform, "base64_codec", ["base64", "base_64"]),
  (.transform, "rot_13", ["rot13"]),
  (.transform, "bz2_codec", ["bz2"]),
  (.transform, "quopri_codec", ["quopri", "quoted_printable", "quotedprintable"]),
  (.transform, "uu_codec", ["uu"]),
  (.transform, "zlib_codec", ["zlib", "zip"])]

/-- What a name stands for, if it is in the table. A full stop may stand for the underscore of a spelling
other than the proper name. -/
def find? (name : Text) : Option Named :=
  let key := normalize name
  let undotted := key.map fun c => if c.is '.' then CodePoint.ofChar '_' else c
  (names.find? fun (_, proper, others) =>
    Text.ofString proper = key ||
      others.any fun s => Text.ofString s = key || Text.ofString s = undotted).map (·.1)

/-! ## Reading -/

/-- Reads one byte a character through a table. -/
def decodeTable (codec reason : Text) (point : UInt8 → Option CodePoint) (bytes : Bytes) :
    Except DecodingFault Text :=
  let rec go (pos : Nat) : Bytes → Except DecodingFault Text
    | [] => .ok []
    | b :: rest =>
      match point b with
      | none => .error { codec, bytes, start := pos, stop := pos + 1, reason }
      | some c =>
        match go (pos + 1) rest with
        | .error e => .error e
        | .ok t => .ok (c :: t)
  go 0 bytes

/-- The upper half of the Windows table where it differs from Latin-1: 0x80 to 0x9F. -/
def windowsMarks : List (Option Nat) := [
  some 0x20AC, none, some 0x201A, some 0x0192, some 0x201E, some 0x2026, some 0x2020, some 0x2021,
  some 0x02C6, some 0x2030, some 0x0160, some 0x2039, some 0x0152, none, some 0x017D, none,
  none, some 0x2018, some 0x2019, some 0x201C, some 0x201D, some 0x2022, some 0x2013, some 0x2014,
  some 0x02DC, some 0x2122, some 0x0161, some 0x203A, some 0x0153, none, some 0x017E, some 0x0178]

def windowsPoint (b : UInt8) : Option CodePoint :=
  if 0x80 ≤ b ∧ b < 0xA0 then ((windowsMarks[b.toNat - 0x80]?).getD none).map CodePoint.ofNat
  else some (CodePoint.ofByte b)

def asciiPoint (b : UInt8) : Option CodePoint := if b < 0x80 then some (CodePoint.ofByte b) else none

/-- The 16-bit number of two bytes. -/
def pair (order : ByteOrder) (a b : UInt8) : Nat :=
  if order = .big then a.toNat * 0x100 + b.toNat else b.toNat * 0x100 + a.toNat

def wideName (bits : String) (order : ByteOrder) : Text :=
  "utf-" ++ bits ++ if order = .big then "-be" else "-le"

/-- Reads pairs of bytes from `pos` on; surrogates must come in pairs. -/
def decode16From (order : ByteOrder) (fault : Nat → Nat → Text → DecodingFault) (pos : Nat) :
    Bytes → Except DecodingFault Text
  | [] => .ok []
  | [_] => .error (fault pos (pos + 1) "truncated data")
  | a :: b :: rest =>
    let u := pair order a b
    if u < 0xD800 ∨ 0xE000 ≤ u then
      (decode16From order fault (pos + 2) rest).map (CodePoint.ofNat u :: ·)
    else if 0xDC00 ≤ u then .error (fault pos (pos + 2) "illegal encoding")
    else match rest with
      | a' :: b' :: more =>
        let v := pair order a' b'
        if 0xDC00 ≤ v ∧ v < 0xE000 then
          (decode16From order fault (pos + 4) more).map
            (CodePoint.ofNat (0x10000 + (u - 0xD800) * 0x400 + (v - 0xDC00)) :: ·)
        else .error (fault pos (pos + 2) "illegal UTF-16 surrogate")
      | short => .error (fault pos (pos + 2 + short.length) "unexpected end of data")

/-- UTF-16: a leading mark tells the byte order and is dropped where none is fixed. -/
def decode16 (order : ByteOrder) (bytes : Bytes) : Except DecodingFault Text :=
  let (order, skip) := match order, bytes with
    | .marked, 0xFF :: 0xFE :: _ => (.little, 2)
    | .marked, 0xFE :: 0xFF :: _ => (.big, 2)
    | .marked, _ => (.little, 0)
    | fixed, _ => (fixed, 0)
  decode16From order (fun start stop reason => ⟨wideName "16" order, bytes, start, stop, reason⟩)
    skip (bytes.drop skip)

/-- Reads four bytes a character from `pos` on. -/
def decode32From (order : ByteOrder) (fault : Nat → Nat → Text → DecodingFault) (pos : Nat) :
    Bytes → Except DecodingFault Text
  | [] => .ok []
  | a :: b :: c :: d :: rest =>
    let n := if order = .big then pair .big a b * 0x10000 + pair .big c d
      else pair .little c d * 0x10000 + pair .little a b
    if 0xD800 ≤ n ∧ n < 0xE000 then
      .error (fault pos (pos + 4) "code point in surrogate code point range(0xd800, 0xe000)")
    else if h : n < 0x110000 then (decode32From order fault (pos + 4) rest).map (⟨n, h⟩ :: ·)
    else .error (fault pos (pos + 4) "code point not in range(0x110000)")
  | short => .error (fault pos (pos + short.length) "truncated data")

/-- UTF-32: a leading mark tells the byte order and is dropped where none is fixed. -/
def decode32 (order : ByteOrder) (bytes : Bytes) : Except DecodingFault Text :=
  let (order, skip) := match order, bytes with
    | .marked, 0xFF :: 0xFE :: 0x00 :: 0x00 :: _ => (.little, 4)
    | .marked, 0x00 :: 0x00 :: 0xFE :: 0xFF :: _ => (.big, 4)
    | .marked, _ => (.little, 0)
    | fixed, _ => (fixed, 0)
  decode32From order (fun start stop reason => ⟨wideName "32" order, bytes, start, stop, reason⟩)
    skip (bytes.drop skip)

/-- The text that `bytes` spell in an encoding. -/
def decode (bytes : Bytes) : Encoding → Except DecodingFault Text
  | .utf8 => Utf8.decode bytes
  | .utf8Signed =>
    match bytes with
    | 0xEF :: 0xBB :: 0xBF :: rest => Utf8.decode rest
    | _ => Utf8.decode bytes
  | .latin1 => .ok (bytes.map CodePoint.ofByte)
  | .ascii => decodeTable "ascii" "ordinal not in range(128)" asciiPoint bytes
  | .windows1252 => decodeTable "charmap" "character maps to <undefined>" windowsPoint bytes
  | .utf16 order => decode16 order bytes
  | .utf32 order => decode32 order bytes

end Encoding

end ScriptHost
