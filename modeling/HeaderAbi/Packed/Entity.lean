import HeaderAbi.Entity.Basic
import HeaderAbi.Packed.Codec

/-!
# Packed entities

The codecs of uses of types and of the four kinds of entity.  The fields of a record stand in the
order of its form in text dumps; a variant is its position among the variants, then its content.
-/

namespace HeaderAbi

namespace Uid

def codec : Codec Uid := Codec.text.via Uid.mk Uid.text

end Uid

namespace Qualifiers

def codec : Codec Qualifiers :=
  (Codec.bool.pair (Codec.bool.pair Codec.bool)).via
    (fun (c, v, r) => ⟨c, v, r⟩) fun q => (q.isConst, q.isVolatile, q.isRestrict)

end Qualifiers

/-- The position of a variant. -/
def Codec.variant : Codec Nat := ⟨Codec.encodeNat, Codec.decodeNat 4⟩

namespace Indirection

def codec : Codec Indirection where
  encode
    | .pointer q => Codec.encodeNat 0 ++ Qualifiers.codec.encode q
    | .lvalueReference => Codec.encodeNat 1
    | .rvalueReference => Codec.encodeNat 2
  decode bytes := do
    let (n, bytes) ← Codec.variant.decode bytes
    match n with
    | 0 => (Qualifiers.codec.decode bytes).map fun (q, rest) => (.pointer q, rest)
    | 1 => some (.lvalueReference, bytes)
    | 2 => some (.rvalueReference, bytes)
    | _ => none

end Indirection

namespace CallingConvention

def codec : Codec CallingConvention where
  encode
    | .other s => Codec.encodeNat 10 ++ Codec.text.encode s
    | convention => Codec.encodeNat ((names.map (·.2)).idxOf convention)
  decode bytes := do
    let (n, bytes) ← Codec.variant.decode bytes
    if n == 10 then (Codec.text.decode bytes).map fun (s, rest) => (.other s, rest)
    else (names[n]?).map fun (_, convention) => (convention, bytes)

end CallingConvention

namespace TypeUse

def codec : Codec TypeUse :=
  (Uid.codec.pair (Qualifiers.codec.pair
    (Indirection.codec.list.pair Codec.uint64.option.list))).via
    (fun (u, q, i, e) => ⟨u, q, i, e⟩) fun t => (t.uid, t.qualifiers, t.indirection, t.extents)

end TypeUse

namespace TypeRef

mutual

/-- The decorations, then the signature if there is one. -/
def pack : TypeRef → List UInt8
  | .named u => TypeUse.codec.encode u ++ [0]
  | .function u r ps v c =>
    TypeUse.codec.encode u ++ [1] ++ pack r ++ Codec.encodeNat ps.length ++ packList ps ++
      Codec.bool.encode v ++ CallingConvention.codec.encode c

def packList : List TypeRef → List UInt8
  | [] => []
  | t :: ts => pack t ++ packList ts

end

/-- Read a use nested at most `fuel` signatures deep. -/
def unpackWithin : Nat → List UInt8 → Option (TypeRef × List UInt8)
  | 0, _ => none
  | fuel + 1, bytes => do
    let (u, bytes) ← TypeUse.codec.decode bytes
    let (isFunction, bytes) ← Codec.bool.decode bytes
    if !isFunction then return (.named u, bytes)
    let (r, bytes) ← unpackWithin fuel bytes
    let (n, bytes) ← Codec.length.decode bytes
    let (ps, bytes) ← Codec.decodeMany (unpackWithin fuel) n bytes
    let (v, bytes) ← Codec.bool.decode bytes
    let (c, bytes) ← CallingConvention.codec.decode bytes
    return (.function u r ps v c, bytes)

/-- Every level of nesting takes bytes of its own, so their number bounds it. -/
def codec : Codec TypeRef := ⟨pack, fun bytes => unpackWithin (bytes.length + 1) bytes⟩

end TypeRef

namespace Access

def codec : Codec Access := Codec.oneOf all

end Access

namespace Linkage

def codec : Codec Linkage := Codec.oneOf all

end Linkage

namespace Base

def codec : Codec Base :=
  (Uid.codec.pair (Codec.uint64.pair (Access.codec.pair Codec.bool))).via
    (fun (u, o, a, v) => ⟨u, o, a, v⟩) fun b => (b.uid, b.offsetBits, b.access, b.isVirtual)

end Base

namespace Field

def codec : Codec Field :=
  (Codec.text.pair (TypeRef.codec.pair
    (Codec.uint64.pair (Codec.uint32.option.pair Access.codec)))).via
    (fun (n, t, o, w, a) => ⟨n, t, o, w, a⟩)
    fun f => (f.name, f.type, f.offsetBits, f.bitWidth, f.access)

end Field

namespace Slot

def codec : Codec Slot :=
  ((Codec.oneOf SlotKind.all).pair (Codec.text.pair Codec.bool)).via
    (fun (k, v, p) => ⟨k, v, p⟩) fun s => (s.kind, s.value, s.isPure)

end Slot

namespace TemplateOrigin

def codec : Codec TemplateOrigin where
  encode
    | .plain => Codec.encodeNat 0
    | .instantiation template arguments =>
      Codec.encodeNat 1 ++ (Codec.text.pair Codec.text.list).encode (template, arguments)
  decode bytes := do
    let (n, bytes) ← Codec.variant.decode bytes
    match n with
    | 0 => some (.plain, bytes)
    | 1 =>
      ((Codec.text.pair Codec.text.list).decode bytes).map fun ((template, arguments), rest) =>
        (.instantiation template arguments, rest)
    | _ => none

end TemplateOrigin

namespace Record

def codec : Codec Record :=
  (Uid.codec.pair (Codec.text.pair ((Codec.oneOf RecordKind.all).pair
    (Codec.uint64.pair (Codec.uint64.pair (Base.codec.list.pair (Field.codec.list.pair
      (Slot.codec.list.pair (TemplateOrigin.codec.pair Codec.bool))))))))).via
    (fun (u, n, k, s, a, b, f, v, t, o) => ⟨u, n, k, s, a, b, f, v, t, o⟩)
    fun r => (r.uid, r.name, r.kind, r.sizeBits, r.alignBits, r.bases, r.fields, r.vtable,
      r.template, r.isOpaque)

end Record

namespace EnumeratorValue

def codec : Codec EnumeratorValue where
  encode
    | .signed v => Codec.encodeNat 0 ++ Codec.int64.encode v
    | .unsigned v => Codec.encodeNat 1 ++ Codec.uint64.encode v
  decode bytes := do
    let (n, bytes) ← Codec.variant.decode bytes
    match n with
    | 0 => (Codec.int64.decode bytes).map fun (v, rest) => (.signed v, rest)
    | 1 => (Codec.uint64.decode bytes).map fun (v, rest) => (.unsigned v, rest)
    | _ => none

end EnumeratorValue

namespace EnumType

def codec : Codec EnumType :=
  (Uid.codec.pair (Codec.text.pair (TypeRef.codec.pair
    ((Codec.text.pair EnumeratorValue.codec).via
      (fun (n, v) => Enumerator.mk n v) fun e => (e.name, e.value)).list))).via
    (fun (u, n, t, es) => ⟨u, n, t, es⟩) fun e => (e.uid, e.name, e.underlying, e.enumerators)

end EnumType

namespace Dispatch

def codec : Codec Dispatch :=
  (Codec.uint32.pair Codec.bool).via (fun (i, p) => ⟨i, p⟩) fun v => (v.vtableIndex, v.isPure)

end Dispatch

namespace Function

def codec : Codec Function :=
  (Uid.codec.pair (Codec.text.pair (TypeRef.codec.pair (TypeRef.codec.list.pair
    (Codec.bool.pair (CallingConvention.codec.pair (Linkage.codec.pair (Access.codec.pair
      (Dispatch.codec.option.pair Uid.codec.option))))))))).via
    (fun (u, n, r, ps, v, c, l, a, d, p) => ⟨u, n, r, ps, v, c, l, a, d, p⟩)
    fun f => (f.uid, f.name, f.result, f.parameters, f.variadic, f.convention, f.linkage, f.access,
      f.dispatch, f.parent)

end Function

namespace GlobalVar

def codec : Codec GlobalVar :=
  (Uid.codec.pair (Codec.text.pair (TypeRef.codec.pair Linkage.codec))).via
    (fun (u, n, t, l) => ⟨u, n, t, l⟩) fun g => (g.uid, g.name, g.type, g.linkage)

end GlobalVar

end HeaderAbi
