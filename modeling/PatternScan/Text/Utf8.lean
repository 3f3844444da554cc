import PatternScan.Text.Unit

namespace PatternScan.Text.Utf8

inductive Head where
  | scalar (char : Char) (length : Nat)
  | broken (length : Nat)
  /-- The bytes end inside a character that is well formed so far. -/
  | cut (length : Nat)
  deriving DecidableEq, Repr

def Head.length : Head → Nat
  | .scalar _ n => n
  | .broken n => n
  | .cut n => n

def isContinuation (b : UInt8) : Bool := b &&& 0xC0 == 0x80

def payload (b : UInt8) : Nat := b.toNat % 64

/-- How many bytes follow a lead byte, and the range that the first of them must lie in. -/
structure Shape where
  followers : Nat
  least : UInt8
  greatest : UInt8

/-- Overlong forms, surrogates and values above U+10FFFF are excluded by the second byte. -/
def Shape.ofLead? (lead : UInt8) : Option Shape :=
  if lead < 0xC2 then none
  else if lead < 0xE0 then some ⟨1, 0x80, 0xBF⟩
  else if lead == 0xE0 then some ⟨2, 0xA0, 0xBF⟩
  else if lead == 0xED then some ⟨2, 0x80, 0x9F⟩
  else if lead < 0xF0 then some ⟨2, 0x80, 0xBF⟩
  else if lead == 0xF0 then some ⟨3, 0x90, 0xBF⟩
  else if lead < 0xF4 then some ⟨3, 0x80, 0xBF⟩
  else if lead == 0xF4 then some ⟨3, 0x80, 0x8F⟩
  else none

def continuations (next : Nat → Option UInt8) (value seen : Nat) : Nat → Head
  | 0 => .scalar (Char.ofNat value) seen
  | left + 1 =>
    match next seen with
    | none => .cut seen
    | some b =>
      if isContinuation b then continuations next (value * 64 + payload b) (seen + 1) left
      else .broken seen

/-- Reads one character that begins with `lead`; `next i` is the byte `i` places after it. -/
def headAfter (lead : UInt8) (next : Nat → Option UInt8) : Head :=
  if lead < 0x80 then .scalar (Char.ofNat lead.toNat) 1
  else
    match Shape.ofLead? lead with
    | none => .broken 1
    | some shape =>
      match next 1 with
      | none => .cut 1
      | some b =>
        if shape.least ≤ b && b ≤ shape.greatest then
          let high := lead.toNat % Nat.pow 2 (6 - shape.followers)
          continuations next (high * 64 + payload b) 2 (shape.followers - 1)
        else .broken 1

def charAt? (bytes : Array UInt8) (position : Nat) : Option (Char × Nat) :=
  match bytes[position]? with
  | none => none
  | some lead =>
    match headAfter lead fun i => bytes[position + i]? with
    | .scalar c n => some (c, n)
    | _ => none

/-- The well-formed characters and broken runs of a byte sequence, after `skip` bytes. -/
def headsAfter : Nat → List UInt8 → List Head
  | _, [] => []
  | skip + 1, _ :: rest => headsAfter skip rest
  | 0, b :: rest =>
    let head := headAfter b fun i => rest[i - 1]?
    head :: headsAfter (head.length - 1) rest

def heads (bytes : List UInt8) : List Head := headsAfter 0 bytes

/-- The first place where a byte sequence is not UTF-8. `length` is absent at a cut-off end. -/
structure Fault where
  position : Nat
  length : Option Nat
  deriving DecidableEq, Repr

def Fault.message (f : Fault) : String :=
  match f.length with
  | some n => s!"invalid utf-8 sequence of {n} bytes from index {f.position}"
  | none => s!"incomplete utf-8 byte sequence from index {f.position}"

/-- The characters of the heads, or the first fault; `position` bytes are behind. -/
def charsOfHeads (position : Nat) : List Head → Except Fault (List Char)
  | [] => .ok []
  | .scalar c n :: rest => (charsOfHeads (position + n) rest).map (c :: ·)
  | .broken n :: _ => .error ⟨position, some n⟩
  | .cut _ :: _ => .error ⟨position, none⟩

/-- The string that the bytes encode, or where they stop being UTF-8. -/
def validate (bytes : List UInt8) : Except Fault String :=
  (charsOfHeads 0 (heads bytes)).map String.ofList

def Head.char : Head → Char
  | .scalar c _ => c
  | _ => replacement

def lossy (bytes : List UInt8) : String := String.ofList ((heads bytes).map Head.char)

end PatternScan.Text.Utf8
