import Mathlib.Data.List.Basic
import TableAtlas.Text.Percent

/-!
# Percent encoding

A text may be encoded in many ways: a character that a path may hold stands for itself or is escaped,
and the digits of an escape are of either case. `Encodes` says which texts encode a text, without
regard to how they are decoded; decoding undoes each of them (`percentDecode?_of_isEncodingOf`).
-/

namespace TableAtlas.Text

/-! ## Bytes of texts -/

theorem byteArray_toList_loop (bs : ByteArray) (i : Nat) (read : List UInt8) :
    ByteArray.toList.loop bs i read = read.reverse ++ bs.data.toList.drop i := by
  fun_induction ByteArray.toList.loop bs i read with
  | case1 i read h ih =>
    have hi : i < bs.data.toList.length := h
    rw [ih, List.drop_eq_getElem_cons hi, List.reverse_cons, List.append_assoc]
    simp [ByteArray.get!, getElem!_pos bs.data i h]
  | case2 i read h =>
    rw [List.drop_eq_nil_of_le (Nat.le_of_not_lt h), List.append_nil]

theorem toBytes_eq (s : String) : toBytes s = s.toUTF8.data.toList :=
  byteArray_toList_loop s.toUTF8 0 []

theorem toBytes_ofList (cs : List Char) :
    toBytes (String.ofList cs) = cs.flatMap String.utf8EncodeChar := by
  rw [toBytes_eq, String.toUTF8_eq_toByteArray, String.toByteArray_ofList, List.utf8Encode,
    List.toList_data_toByteArray]

theorem ofBytes?_toBytes (s : String) : ofBytes? (toBytes s) = some s := by
  rw [ofBytes?, toBytes_eq, Array.toArray_toList, String.fromUTF8?, String.toUTF8_eq_toByteArray,
    dif_pos s.isValidUTF8]
  rfl

theorem toBytes_injective {s t : String} (h : toBytes s = toBytes t) : s = t := by
  have htext := congrArg ofBytes? h
  rw [ofBytes?_toBytes, ofBytes?_toBytes] at htext
  exact Option.some.inj htext

theorem toBytes_cons_ascii {c : Char} (h : c.toNat < 128) (cs : List Char) :
    toBytes (String.ofList (c :: cs)) = c.toUInt8 :: toBytes (String.ofList cs) := by
  have hsize : c.utf8Size = 1 :=
    Char.utf8Size_eq_one_iff.2 (UInt32.le_iff_toNat_le.2 (Nat.le_of_lt_succ h))
  rw [toBytes_ofList, toBytes_ofList, List.flatMap_cons, String.utf8EncodeChar_eq_singleton hsize]
  rfl

/-! ## Encodings -/

/-- A hexadecimal digit of a value in either case. -/
def IsHexDigit (n : Nat) (c : Char) : Prop :=
  c = Nat.digitChar n ∨ c = (Nat.digitChar n).toUpper

/-- The characters that have to be escaped in a segment of a path. -/
def delimiters : List Char := ['%', '/', '?', '#']

/-- The characters encode the bytes. -/
inductive Encodes : List Char → List UInt8 → Prop
  | nil : Encodes [] []
  | plain {c : Char} {cs : List Char} {bs : List UInt8} (hascii : c.toNat < 128)
    (hplain : c ∉ delimiters) (h : Encodes cs bs) : Encodes (c :: cs) (c.toUInt8 :: bs)
  | escaped {b : UInt8} {high low : Char} {cs : List Char} {bs : List UInt8}
    (hhigh : IsHexDigit (b.toNat / 16) high) (hlow : IsHexDigit (b.toNat % 16) low)
    (h : Encodes cs bs) : Encodes ('%' :: high :: low :: cs) (b :: bs)

/-- A character that is read as a digit and is no delimiter. -/
def ReadsAs (n : Nat) (c : Char) : Prop :=
  c.toNat < 128 ∧ c ∉ delimiters ∧ hexDigit? c.toUInt8 = some (UInt8.ofNat n)

instance (n : Nat) (c : Char) : Decidable (ReadsAs n c) :=
  inferInstanceAs (Decidable (_ ∧ _ ∧ _))

theorem IsHexDigit.readsAs {n : Nat} {c : Char} (hn : n < 16) (h : IsHexDigit n c) :
    ReadsAs n c := by
  have hdigits : ∀ n ∈ List.range 16,
      ReadsAs n (Nat.digitChar n) ∧ ReadsAs n (Nat.digitChar n).toUpper := by
    decide
  obtain ⟨hlower, hupper⟩ := hdigits n (List.mem_range.2 hn)
  rcases h with rfl | rfl
  · exact hlower
  · exact hupper

theorem div_lt_of_byte (b : UInt8) : b.toNat / 16 < 16 :=
  Nat.div_lt_of_lt_mul b.toNat_lt

theorem percentDecodeBytes_cons_of_ne {b : UInt8} (h : b ≠ '%'.toUInt8) (rest : List UInt8) :
    percentDecodeBytes (b :: rest) = b :: percentDecodeBytes rest := by
  match rest with
  | [] => rfl
  | [_] => rfl
  | _ :: _ :: _ => rw [percentDecodeBytes, if_neg h]

theorem percentDecodeBytes_escaped {b high low : UInt8} (rest : List UInt8)
    (hhigh : hexDigit? high = some (UInt8.ofNat (b.toNat / 16)))
    (hlow : hexDigit? low = some (UInt8.ofNat (b.toNat % 16))) :
    percentDecodeBytes ('%'.toUInt8 :: high :: low :: rest) = b :: percentDecodeBytes rest := by
  have hbyte : UInt8.ofNat (b.toNat / 16) * 16 + UInt8.ofNat (b.toNat % 16) = b := by
    apply UInt8.toNat_inj.1
    have hb := b.toNat_lt
    simp
    omega
  rw [percentDecodeBytes, if_pos rfl, hhigh, hlow]
  simp only [hbyte]

theorem toUInt8_ne_of_ascii {c d : Char} (hc : c.toNat < 128) (hd : d.toNat < 128) (h : c ≠ d) :
    c.toUInt8 ≠ d.toUInt8 := by
  intro heq
  have hcode : c.toNat % 256 = d.toNat % 256 := congrArg UInt8.toNat heq
  rw [Nat.mod_eq_of_lt (by omega), Nat.mod_eq_of_lt (by omega)] at hcode
  exact h (Char.toNat_inj.1 hcode)

theorem Encodes.decode {cs : List Char} {bs : List UInt8} (h : Encodes cs bs) :
    percentDecodeBytes (toBytes (String.ofList cs)) = bs := by
  induction h with
  | nil => rw [toBytes_ofList, List.flatMap_nil, percentDecodeBytes]
  | @plain c cs bs hascii hplain h ih =>
    have hne : c.toUInt8 ≠ '%'.toUInt8 := by
      refine toUInt8_ne_of_ascii hascii (by decide) ?_
      rintro rfl
      exact hplain (by decide)
    rw [toBytes_cons_ascii hascii, percentDecodeBytes_cons_of_ne hne, ih]
  | @escaped b high low cs bs hhigh hlow h ih =>
    obtain ⟨hhigh, -, hhigh'⟩ := hhigh.readsAs (div_lt_of_byte b)
    obtain ⟨hlow, -, hlow'⟩ := hlow.readsAs (Nat.mod_lt _ (by decide))
    rw [toBytes_cons_ascii (by decide), toBytes_cons_ascii hhigh, toBytes_cons_ascii hlow,
      percentDecodeBytes_escaped _ hhigh' hlow', ih]

end TableAtlas.Text
