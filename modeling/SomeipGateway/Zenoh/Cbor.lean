import SomeipGateway.Common.Translator

/-! The CBOR envelope of the Zenoh translator: three hand-written item encoders
and a cursor-based decoder. The decoder's subscripts `wire[k]` are recorded, so
that the positions it touches can be talked about. -/
namespace SomeipGateway.Zenoh

open Lib

def appendCborUint (out : Bytes) (v : Nat) : Bytes :=
  if v < 24 then out ++ [UInt8.ofNat v]
  else if v < 256 then out ++ [0x18, UInt8.ofNat v]
  else if v < 65536 then
    out ++ [0x19, UInt8.ofNat ((v >>> 8) &&& 0xFF), UInt8.ofNat (v &&& 0xFF)]
  else
    out ++ [0x1A, UInt8.ofNat ((v >>> 24) &&& 0xFF), UInt8.ofNat ((v >>> 16) &&& 0xFF),
      UInt8.ofNat ((v >>> 8) &&& 0xFF), UInt8.ofNat (v &&& 0xFF)]

/-- The common body of the two string encoders: the initial bytes of the
immediate, the one-byte and the two-byte length form, then the data. -/
def appendCborString (short long8 long16 : UInt8) (out data : Bytes) : Bytes :=
  let n := data.length
  (if n < 24 then out ++ [UInt8.ofNat (short.toNat + n)]
    else if n < 256 then out ++ [long8, UInt8.ofNat n]
    else out ++ [long16, UInt8.ofNat ((n >>> 8) &&& 0xFF), UInt8.ofNat (n &&& 0xFF)]) ++ data

def appendCborTextString (out : Bytes) (s : Text) : Bytes :=
  appendCborString 0x60 0x78 0x79 out s

def appendCborByteString (out data : Bytes) : Bytes :=
  appendCborString 0x40 0x58 0x59 out data

def buildCborEnvelope (msg : Message) : Bytes :=
  let out := [0xA4]
  let out := appendCborTextString out (Text.ascii "svc")
  let out := appendCborUint out msg.serviceId.toNat
  let out := appendCborTextString out (Text.ascii "method")
  let out := appendCborUint out msg.methodId.toNat
  let out := appendCborTextString out (Text.ascii "type")
  let out := appendCborUint out msg.messageType.byte.toNat
  let out := appendCborTextString out (Text.ascii "payload")
  appendCborByteString out msg.payload

/-- The decoder's cursor `i` and the subscripts evaluated so far. -/
structure Cursor where
  pos : Nat
  subscripts : List Nat

namespace Cursor

def subscript (c : Cursor) (wire : Bytes) (k : Nat) : UInt8 × Cursor :=
  (wire.getD k 0, { c with subscripts := c.subscripts ++ [k] })

def next (c : Cursor) (wire : Bytes) : UInt8 × Cursor :=
  (wire.getD c.pos 0, ⟨c.pos + 1, c.subscripts ++ [c.pos]⟩)

def advance (c : Cursor) (count : Nat) : Cursor :=
  { c with pos := c.pos + count }

end Cursor

/-- The length of a string whose initial byte `ib` has been read. The mask is
tested before the two extended forms, as in both string readers. -/
def readLength (major long8 long16 : UInt8) (wire : Bytes) (ib : UInt8) (c : Cursor) :
    Option Nat × Cursor :=
  if ib &&& 0xE0 = major then (some (ib &&& 0x1F).toNat, c)
  else if ib = long8 ∧ c.pos < wire.length then
    let (len, c) := c.next wire
    (some len.toNat, c)
  else if ib = long16 ∧ c.pos + 2 ≤ wire.length then
    let (hi, c) := c.subscript wire c.pos
    let (lo, c) := c.subscript wire (c.pos + 1)
    (some ((hi.toNat <<< 8) ||| lo.toNat), c.advance 2)
  else (none, c)

def readTextKey (wire : Bytes) (c : Cursor) : Option Text × Cursor :=
  if c.pos ≥ wire.length then (none, c)
  else
    let (ib, c) := c.next wire
    if ib &&& 0xE0 ≠ 0x60 ∧ ib ≠ 0x78 ∧ ib ≠ 0x79 then (none, c)
    else
      match readLength 0x60 0x78 0x79 wire ib c with
      | (none, c) => (none, c)
      | (some len, c) =>
          if c.pos + len > wire.length then (none, c)
          else
            -- key.assign(&wire[i], len)
            let (_, c) := c.subscript wire c.pos
            (some ((wire.drop c.pos).take len), c.advance len)

def readUint (wire : Bytes) (c : Cursor) : Option Nat × Cursor :=
  if c.pos ≥ wire.length then (none, c)
  else
    let (ib, c) := c.next wire
    if ib < 24 then (some ib.toNat, c)
    else if ib = 0x18 ∧ c.pos < wire.length then
      let (v, c) := c.next wire
      (some v.toNat, c)
    else if ib = 0x19 ∧ c.pos + 2 ≤ wire.length then
      let (b0, c) := c.subscript wire c.pos
      let (b1, c) := c.subscript wire (c.pos + 1)
      (some ((b0.toNat <<< 8) ||| b1.toNat), c.advance 2)
    else if ib = 0x1A ∧ c.pos + 4 ≤ wire.length then
      let (b0, c) := c.subscript wire c.pos
      let (b1, c) := c.subscript wire (c.pos + 1)
      let (b2, c) := c.subscript wire (c.pos + 2)
      let (b3, c) := c.subscript wire (c.pos + 3)
      (some ((b0.toNat <<< 24) ||| (b1.toNat <<< 16) ||| (b2.toNat <<< 8) ||| b3.toNat),
        c.advance 4)
    else (none, c)

def readByteString (wire : Bytes) (c : Cursor) : Option Bytes × Cursor :=
  if c.pos ≥ wire.length then (none, c)
  else
    let (ib, c) := c.next wire
    match readLength 0x40 0x58 0x59 wire ib c with
    | (none, c) => (none, c)
    | (some len, c) =>
        if c.pos + len > wire.length then (none, c)
        else (some ((wire.drop c.pos).take len), c.advance len)

inductive CborPair where
  | svc (v : UInt16)
  | method (v : UInt16)
  | type (v : UInt8)
  | payload (bytes : Bytes)
deriving DecidableEq

def readUintUpTo (limit : Nat) (wire : Bytes) (c : Cursor) : Option Nat × Cursor :=
  match readUint wire c with
  | (none, c) => (none, c)
  | (some v, c) => if v > limit then (none, c) else (some v, c)

def readPair (wire : Bytes) (c : Cursor) : Option CborPair × Cursor :=
  match readTextKey wire c with
  | (none, c) => (none, c)
  | (some k, c) =>
      if k = Text.ascii "svc" then
        let (v, c) := readUintUpTo 0xFFFF wire c
        (v.map fun v => .svc (UInt16.ofNat v), c)
      else if k = Text.ascii "method" then
        let (v, c) := readUintUpTo 0xFFFF wire c
        (v.map fun v => .method (UInt16.ofNat v), c)
      else if k = Text.ascii "type" then
        let (v, c) := readUintUpTo 0xFF wire c
        (v.map fun v => .type (UInt8.ofNat v), c)
      else if k = Text.ascii "payload" then
        let (bytes, c) := readByteString wire c
        (bytes.map .payload, c)
      else (none, c)

/-- The pair loop; the pairs are returned in reading order. -/
def readPairs (wire : Bytes) : Nat → Cursor → Option (List CborPair) × Cursor
  | 0, c => (some [], c)
  | count + 1, c =>
      match readPair wire c with
      | (none, c) => (none, c)
      | (some pair, c) =>
          let (pairs, c) := readPairs wire count c
          (pairs.map (pair :: ·), c)

def scanCborEnvelope (wire : Bytes) : Option (List CborPair) × Cursor :=
  if wire.isEmpty then (none, ⟨0, []⟩)
  else if wire.getD 0 0 ≠ 0xA4 then (none, ⟨0, [0]⟩)
  else readPairs wire 4 ⟨1, [0]⟩

structure CborFields where
  svc : UInt16 := 0
  method : UInt16 := 0
  mtype : UInt8 := 0
  payload : Bytes := []

def CborFields.assign (fields : CborFields) : CborPair → CborFields
  | .svc v => { fields with svc := v }
  | .method v => { fields with method := v }
  | .type v => { fields with mtype := v }
  | .payload bytes => { fields with payload := bytes }

/-- `decode_cbor_envelope`: its answer and `out_msg` afterwards. -/
def decodeCborEnvelope (wire : Bytes) (outMsg : Message) : Bool × Message :=
  match (scanCborEnvelope wire).1 with
  | none => (false, outMsg)
  | some pairs =>
      let fields := pairs.foldl CborFields.assign {}
      (true, { outMsg with
        serviceId := fields.svc
        methodId := fields.method
        messageType := ⟨fields.mtype⟩
        payload := fields.payload })

/-! ### What the encoders append -/

theorem appendCborUint_eq (out : Bytes) (v : Nat) :
    appendCborUint out v = out ++ appendCborUint [] v := by
  unfold appendCborUint
  split_ifs <;> simp

theorem appendCborString_eq (short long8 long16 : UInt8) (out data : Bytes) :
    appendCborString short long8 long16 out data =
      out ++ appendCborString short long8 long16 [] data := by
  simp only [appendCborString]
  split_ifs <;> simp

theorem buildCborEnvelope_eq (msg : Message) :
    buildCborEnvelope msg =
      0xA4 :: (appendCborTextString [] (Text.ascii "svc") ++
        (appendCborUint [] msg.serviceId.toNat ++
        (appendCborTextString [] (Text.ascii "method") ++
        (appendCborUint [] msg.methodId.toNat ++
        (appendCborTextString [] (Text.ascii "type") ++
        (appendCborUint [] msg.messageType.byte.toNat ++
        (appendCborTextString [] (Text.ascii "payload") ++
        appendCborByteString [] msg.payload))))))) := by
  unfold buildCborEnvelope appendCborTextString appendCborByteString
  conv_lhs =>
    rw [appendCborString_eq, appendCborString_eq 0x60 0x78 0x79 _ (Text.ascii "payload"),
      appendCborUint_eq _ msg.messageType.byte.toNat,
      appendCborString_eq 0x60 0x78 0x79 _ (Text.ascii "type"),
      appendCborUint_eq _ msg.methodId.toNat,
      appendCborString_eq 0x60 0x78 0x79 _ (Text.ascii "method"),
      appendCborUint_eq _ msg.serviceId.toNat, appendCborString_eq 0x60 0x78 0x79 [0xA4]]
  simp only [List.append_assoc, List.cons_append, List.nil_append]

theorem byte_and (v : Nat) : (UInt8.ofNat (v &&& 0xFF)).toNat = v % 256 := by
  rw [show (0xFF : Nat) = 2 ^ 8 - 1 by decide, Nat.and_two_pow_sub_one_eq_mod, UInt8.toNat_ofNat']
  omega

end SomeipGateway.Zenoh
