import HeaderAbi.Packed.Codec
import Mathlib.Algebra.Group.Nat.Defs

/-!
# Codecs read back what they write

`c.Reads a` says that the codec `c`, given the bytes of `a` and any bytes after them, reads `a` and
leaves exactly the bytes after it.  Since nothing is assumed of the bytes that follow, the law
passes from the parts of a codec to the whole: there is one lemma for each way to build a codec.

* Numbers: `decodeNat_encodeNat`, at each of the four widths.
* Texts and lists: `reads_text`, `reads_list`, when their length fits into 64 bits.
-/

namespace HeaderAbi

/-! ### Bytes -/

theorem toList_loop (bs : ByteArray) (i : Nat) (r : List UInt8) :
    ByteArray.toList.loop bs i r = r.reverse ++ bs.data.toList.drop i := by
  fun_induction ByteArray.toList.loop bs i r with
  | case1 i r h ih =>
    have hi : i < bs.data.toList.length := h
    have hget : bs.get! i = bs.data.toList[i] := by
      rw [ByteArray.get!, getElem!_pos bs.data i h, Array.getElem_toList]
    rw [ih, List.reverse_cons, List.append_assoc, List.singleton_append, hget,
      ← List.drop_eq_getElem_cons hi]
  | case2 i r h =>
    have hi : bs.data.toList.length ≤ i := Nat.le_of_not_lt h
    rw [List.drop_eq_nil_of_le hi, List.append_nil]

theorem toList_eq (bs : ByteArray) : bs.toList = bs.data.toList := by
  rw [ByteArray.toList, toList_loop, List.reverse_nil, List.nil_append, List.drop_zero]

theorem fromUTF8?_toUTF8 (s : String) : String.fromUTF8? s.toUTF8 = some s :=
  dif_pos s.isValidUTF8

theorem length_littleEndian (w n : Nat) : (littleEndian w n).length = w := by
  induction w generalizing n with
  | zero => rfl
  | succ w ih => rw [littleEndian, List.length_cons, ih]

/-- **Little-endian bytes spell their number.** -/
theorem ofLittleEndian_littleEndian {w n : Nat} (h : n < 256 ^ w) :
    ofLittleEndian (littleEndian w n) = n := by
  induction w generalizing n with
  | zero =>
    obtain rfl : n = 0 := by simpa using h
    rfl
  | succ w ih =>
    have hdiv : n / 256 < 256 ^ w := by
      rw [Nat.div_lt_iff_lt_mul (by decide), ← Nat.pow_succ]
      exact h
    rw [littleEndian, ofLittleEndian, ih hdiv, UInt8.toNat_ofNat']
    exact Nat.mod_add_div n 256

theorem takeBytes_append {n : Nat} {bytes : List UInt8} (h : bytes.length = n)
    (rest : List UInt8) : takeBytes n (bytes ++ rest) = some (bytes, rest) := by
  subst h
  rw [takeBytes, if_neg (by simp), List.take_left, List.drop_left]

namespace Codec

variable {α β : Type}

/-- The codec reads the value back, whatever bytes follow. -/
def Reads (c : Codec α) (a : α) : Prop :=
  ∀ rest, c.decode (c.encode a ++ rest) = some (a, rest)

/-! ### Numbers -/

theorem decodeNat_wide {width w n : Nat} {b : UInt8} (hb : ¬ b.toNat < 251)
    (hw : widthOf? b = some w) (hle : w ≤ width) (hn : n < 256 ^ w) (rest : List UInt8) :
    decodeNat width (b :: littleEndian w n ++ rest) = some (n, rest) := by
  rw [List.cons_append, decodeNat, if_neg hb, hw, Option.bind_eq_bind, Option.bind_some,
    if_neg (Nat.not_lt.2 hle), takeBytes_append (length_littleEndian w n)]
  exact congrArg (fun m => some (m, rest)) (ofLittleEndian_littleEndian hn)

/-- **Numbers are read back** at the width of their type and at every greater one. -/
theorem decodeNat_encodeNat {n : Nat} (width : Nat) (hwidth : width = 4 ∨ width = 8)
    (hn : n < 256 ^ width) (rest : List UInt8) :
    decodeNat width (encodeNat n ++ rest) = some (n, rest) := by
  rw [encodeNat]
  split
  · next h =>
    have hb : (UInt8.ofNat n).toNat = n := by
      rw [UInt8.toNat_ofNat']
      omega
    rw [List.singleton_append, decodeNat, hb, if_pos h]
  split
  · next h => exact decodeNat_wide (by decide) rfl (by omega) h rest
  split
  · next h => exact decodeNat_wide (by decide) rfl (by omega) h rest
  · next h =>
    obtain rfl | rfl := hwidth
    · exact absurd hn h
    · exact decodeNat_wide (by decide) rfl (by omega) hn rest

theorem reads_length {n : Nat} (h : n < 0x10000000000000000) : length.Reads n :=
  decodeNat_encodeNat 8 (.inr rfl) h

theorem reads_variant {n : Nat} (h : n < 0x100000000) : Codec.Reads ⟨encodeNat, decodeNat 4⟩ n :=
  decodeNat_encodeNat 4 (.inl rfl) h

theorem reads_uint64 (n : UInt64) : uint64.Reads n := fun rest => by
  have h := reads_length n.toNat_lt rest
  simp only [uint64, via] at h ⊢
  rw [h, Option.map_some, UInt64.ofNat_toNat]

theorem reads_uint32 (n : UInt32) : uint32.Reads n := fun rest => by
  have h := reads_variant n.toNat_lt rest
  simp only [uint32, via] at h ⊢
  rw [h, Option.map_some, UInt32.ofNat_toNat]

theorem unzigzag_zigzag (n : Int) : unzigzag (zigzag n) = n := by
  simp only [zigzag, unzigzag, Int.ofNat_eq_natCast]
  split <;> split <;> omega

theorem reads_int64 (n : Int64) : int64.Reads n := fun rest => by
  have hlo : -0x8000000000000000 ≤ n.toInt := n.le_toInt
  have hhi : n.toInt < 0x8000000000000000 := n.toInt_lt
  have hz : zigzag n.toInt < 0x10000000000000000 := by
    rw [zigzag]
    split <;> omega
  have h := reads_length hz rest
  simp only [int64, via] at h ⊢
  rw [h, Option.map_some, unzigzag_zigzag, Int64.ofInt_toInt]

theorem reads_bool (b : Bool) : bool.Reads b := fun rest => by
  cases b <;> rfl

/-! ### Parts and wholes -/

theorem Reads.pair {a : Codec α} {b : Codec β} {p : α × β} (ha : a.Reads p.1) (hb : b.Reads p.2) :
    (a.pair b).Reads p := fun rest => by
  simp only [Codec.pair, List.append_assoc, Option.bind_eq_bind]
  rw [ha, Option.bind_some, hb, Option.bind_some]
  rfl

theorem Reads.via {c : Codec α} {into : α → β} {back : β → α} {b : β} (h : c.Reads (back b))
    (hb : into (back b) = b) : (c.via into back).Reads b := fun rest => by
  simp only [Codec.via]
  rw [h, Option.map_some, hb]

theorem reads_option {c : Codec α} {o : Option α} (h : ∀ a, o = some a → c.Reads a) :
    c.option.Reads o := fun rest => by
  cases o with
  | none => rfl
  | some a =>
    simp only [option, List.cons_append, h a rfl rest]
    rfl

theorem decodeMany_flatMap {encode : α → List UInt8}
    {decode : List UInt8 → Option (α × List UInt8)} {as : List α}
    (h : ∀ a ∈ as, ∀ rest, decode (encode a ++ rest) = some (a, rest)) (rest : List UInt8) :
    decodeMany decode as.length (as.flatMap encode ++ rest) = some (as, rest) := by
  induction as with
  | nil => rfl
  | cons a as ih =>
    have htail := ih fun a ha => h a (List.mem_cons_of_mem _ ha)
    simp only [List.flatMap_cons, List.append_assoc, List.length_cons, decodeMany,
      h a List.mem_cons_self, Option.bind_eq_bind, Option.bind_some, htail]
    rfl

theorem reads_list {c : Codec α} {as : List α} (hlen : as.length < 0x10000000000000000)
    (h : ∀ a ∈ as, c.Reads a) : c.list.Reads as := fun rest => by
  simp only [list, List.append_assoc, Option.bind_eq_bind]
  rw [show encodeNat as.length = length.encode as.length from rfl, reads_length hlen,
    Option.bind_some]
  exact decodeMany_flatMap h rest

/-- **Texts are read back** when their number of bytes fits into 64 bits. -/
theorem reads_text {s : String} (h : s.utf8ByteSize < 0x10000000000000000) : text.Reads s := fun rest => by
  have hlen : s.toUTF8.toList.length = s.utf8ByteSize := by
    rw [toList_eq]
    rfl
  have hback : (⟨s.toUTF8.toList.toArray⟩ : ByteArray) = s.toUTF8 := by rw [toList_eq]
  simp only [text, List.append_assoc, Option.bind_eq_bind]
  rw [show encodeNat s.utf8ByteSize = length.encode s.utf8ByteSize from rfl, reads_length h,
    Option.bind_some, takeBytes_append hlen, Option.bind_some, hback, fromUTF8?_toUTF8]
  rfl

/-- A value out of a list is read back by its position. -/
theorem reads_oneOf [BEq α] [LawfulBEq α] {all : List α} {a : α} (ha : a ∈ all)
    (hall : all.length ≤ 0x100000000) : (oneOf all).Reads a := fun rest => by
  have hlt : all.idxOf a < all.length := List.idxOf_lt_length_of_mem ha
  have h := reads_variant (Nat.lt_of_lt_of_le hlt hall) rest
  simp only [oneOf, viaSome, Option.bind_eq_bind] at h ⊢
  rw [h, Option.bind_some, List.getElem?_eq_getElem hlt, List.getElem_idxOf hlt]
  rfl

end Codec

end HeaderAbi
