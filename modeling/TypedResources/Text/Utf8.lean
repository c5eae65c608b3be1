import TypedResources.Text.Quoted

-- UTF-8 over lists of bytes. `chunks` cuts any byte sequence into characters and faulty stretches;
-- the strict reading stops at the first fault and says where it lies, the lenient one puts the
-- replacement character in the place of each.

namespace TypedResources

abbrev Bytes := List UInt8

namespace Text.Utf8

inductive Fault
  | startByte
  | continuation
  | endOfData
deriving DecidableEq

def Fault.message : Fault → String
  | startByte    => "invalid start byte"
  | continuation => "invalid continuation byte"
  | endOfData    => "unexpected end of data"

-- A character, or the longest stretch that could have begun one, never empty.
inductive Chunk
  | char (c : Char) (width : Nat)
  | bad (fault : Fault) (width : Nat)
deriving DecidableEq

def Chunk.width : Chunk → Nat
  | char _ w => w
  | bad _ w  => w

def isTail (b : UInt8) : Bool :=
  0x80 ≤ b && b ≤ 0xBF

-- The second byte of a character: some first bytes admit only a part of the tails, which rules
-- out overlong forms, surrogates and values beyond the last code point.
def isSecond (first second : UInt8) : Bool :=
  isTail second &&
    if first = 0xE0 then 0xA0 ≤ second
    else if first = 0xED then second < 0xA0
    else if first = 0xF0 then 0x90 ≤ second
    else if first = 0xF4 then second < 0x90
    else true

def tailBits (b : UInt8) : Nat :=
  b.toNat % 64

-- The chunk that begins with `b` and goes on into `t`.
def chunk (b : UInt8) (t : Bytes) : Chunk :=
  if b < 0x80 then .char (Char.ofNat b.toNat) 1
  else if b < 0xC2 || 0xF5 ≤ b then .bad .startByte 1
  else match t with
    | [] => .bad .endOfData 1
    | b₂ :: t =>
      if !isSecond b b₂ then .bad .continuation 1
      else if b < 0xE0 then .char (Char.ofNat (b.toNat % 32 * 64 + tailBits b₂)) 2
      else match t with
        | [] => .bad .endOfData 2
        | b₃ :: t =>
          if !isTail b₃ then .bad .continuation 2
          else if b < 0xF0 then
            .char (Char.ofNat ((b.toNat % 16 * 64 + tailBits b₂) * 64 + tailBits b₃)) 3
          else match t with
            | [] => .bad .endOfData 3
            | b₄ :: _ =>
              if !isTail b₄ then .bad .continuation 3
              else .char (Char.ofNat (((b.toNat % 8 * 64 + tailBits b₂) * 64 + tailBits b₃) * 64 + tailBits b₄)) 4

def chunks (bytes : Bytes) : List Chunk :=
  go 0 bytes
where
  -- `skip` bytes belong to the chunk that came before.
  go : Nat → Bytes → List Chunk
    | _,        []     => []
    | skip + 1, _ :: t => go skip t
    | 0,        b :: t => let c := chunk b t; c :: go (c.width - 1) t

-- Where a text stops being UTF-8: the stretch from `start`, its bytes, and what is wrong.
structure Failure where
  fault : Fault
  start : Nat
  bytes : Bytes
deriving DecidableEq

def Failure.message (f : Failure) : String :=
  let place := match f.bytes with
    | [b] => "byte 0x" ++ String.ofList (hexDigits b.toNat 2) ++ " in position " ++ toString f.start
    | bs  => "bytes in position " ++ toString f.start ++ "-" ++ toString (f.start + bs.length - 1)
  "'utf-8' codec can't decode " ++ place ++ ": " ++ f.fault.message

def decode (bytes : Bytes) : Except Failure (List Char) :=
  go 0 (chunks bytes)
where
  go (pos : Nat) : List Chunk → Except Failure (List Char)
    | []                   => .ok []
    | .char c w :: rest    => do return c :: (← go (pos + w) rest)
    | .bad fault w :: _    => .error ⟨fault, pos, (bytes.drop pos).take w⟩

def decodeLenient (bytes : Bytes) : List Char :=
  (chunks bytes).map fun
    | .char c _ => c
    | .bad ..   => '\uFFFD'

def encode (s : List Char) : Bytes :=
  s.flatMap String.utf8EncodeChar

end Text.Utf8

end TypedResources
