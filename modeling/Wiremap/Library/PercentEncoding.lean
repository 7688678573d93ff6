import Wiremap.Library.Text

/-! Percent encoding: every character that could be read as part of a URI is
written as the octets of its UTF-8 form. -/
namespace Wiremap.Library.PercentEncoding

def unreserved (c : Char) : Bool := c.isAlphanum || "-_.!~*'()".toList.contains c

def hexDigit (n : Nat) : Char := "0123456789ABCDEF".toList.getD n '0'

def hexValue (c : Char) : Option Nat :=
  if '0' ≤ c ∧ c ≤ '9' then some (c.toNat - '0'.toNat)
  else if 'A' ≤ c ∧ c ≤ 'F' then some (c.toNat - 'A'.toNat + 10)
  else if 'a' ≤ c ∧ c ≤ 'f' then some (c.toNat - 'a'.toNat + 10)
  else none

def encodeOctet (octet : UInt8) : List Char :=
  ['%', hexDigit (octet.toNat / 16), hexDigit (octet.toNat % 16)]

def encodeChar (c : Char) : List Char :=
  if unreserved c then [c] else (String.utf8EncodeChar c).flatMap encodeOctet

def encode (s : String) : String := .ofList (s.toList.flatMap encodeChar)

def octets : List Char → Option (List UInt8)
  | [] => some []
  | '%' :: high :: low :: rest =>
      match hexValue high, hexValue low with
      | some h, some l => (octets rest).map (UInt8.ofNat (16 * h + l) :: ·)
      | _, _ => none
  | c :: rest => if c = '%' then none else (octets rest).map (String.utf8EncodeChar c ++ ·)

/-- `none` where an escape is incomplete, or the octets are not UTF-8. -/
def decode (s : String) : Option String :=
  (octets s.toList).bind fun bytes => String.fromUTF8? bytes.toByteArray

theorem hexValue_hexDigit {n : Nat} (h : n < 16) : hexValue (hexDigit n) = some n := by
  have hall : ∀ m : Fin 16, hexValue (hexDigit m) = some m.val := by decide
  exact hall ⟨n, h⟩

theorem digits_lt (octet : UInt8) : octet.toNat / 16 < 16 ∧ octet.toNat % 16 < 16 :=
  ⟨Nat.div_lt_of_lt_mul octet.toNat_lt, Nat.mod_lt _ (by decide)⟩

theorem octets_encodeOctet (octet : UInt8) (rest : List Char) :
    octets (encodeOctet octet ++ rest) = (octets rest).map (octet :: ·) := by
  obtain ⟨hhigh, hlow⟩ := digits_lt octet
  have hoctet : UInt8.ofNat (16 * (octet.toNat / 16) + octet.toNat % 16) = octet := by
    rw [Nat.div_add_mod, UInt8.ofNat_toNat]
  simp [encodeOctet, octets, hexValue_hexDigit hhigh, hexValue_hexDigit hlow, hoctet]

theorem octets_encodeOctets (bytes : List UInt8) (rest : List Char) :
    octets (bytes.flatMap encodeOctet ++ rest) = (octets rest).map (bytes ++ ·) := by
  induction bytes with
  | nil => simp
  | cons octet bytes ih =>
      rw [List.flatMap_cons, List.append_assoc, octets_encodeOctet, ih, Option.map_map]
      rfl

theorem not_unreserved_percent : unreserved '%' = false := by decide

theorem octets_encodeChar (c : Char) (rest : List Char) :
    octets (encodeChar c ++ rest) = (octets rest).map (String.utf8EncodeChar c ++ ·) := by
  unfold encodeChar
  split
  · rename_i hplain
    have hne : c ≠ '%' := by
      rintro rfl
      simp [not_unreserved_percent] at hplain
    rw [List.singleton_append, octets.eq_def]
    split <;> simp_all
  · exact octets_encodeOctets _ _

theorem octets_encode (s : String) :
    octets (encode s).toList = some (s.toList.flatMap String.utf8EncodeChar) := by
  rw [encode, String.toList_ofList]
  induction s.toList with
  | nil => rfl
  | cons c rest ih => rw [List.flatMap_cons, octets_encodeChar, ih, List.flatMap_cons]; rfl

@[simp] theorem decode_encode (s : String) : decode (encode s) = some s := by
  have hbytes : (s.toList.flatMap String.utf8EncodeChar).toByteArray = s.toByteArray := by
    rw [← String.ofList_toList (s := s), String.toByteArray_ofList, String.toList_ofList]
    rfl
  rw [decode, octets_encode, Option.bind_some, hbytes, String.fromUTF8?, dif_pos s.isValidUTF8]
  rfl

theorem encode_free {c : Char} (hescape : c ≠ '%') (hdigit : hexValue c = none)
    (hplain : unreserved c = false) (s : String) : Text.Free c (encode s) := by
  have hhex : ∀ n < 16, c ≠ hexDigit n := by
    rintro n hn rfl
    simp [hexValue_hexDigit hn] at hdigit
  have hoctet : ∀ octet : UInt8, c ∉ encodeOctet octet := by
    intro octet
    obtain ⟨hhigh, hlow⟩ := digits_lt octet
    simp [encodeOctet, hescape, hhex _ hhigh, hhex _ hlow]
  rw [Text.Free, encode, String.toList_ofList]
  rintro hmem
  obtain ⟨source, -, hsource⟩ := List.mem_flatMap.mp hmem
  unfold encodeChar at hsource
  split at hsource
  · obtain rfl := List.mem_singleton.mp hsource
    simp_all
  · obtain ⟨octet, -, hin⟩ := List.mem_flatMap.mp hsource
    exact hoctet octet hin

end Wiremap.Library.PercentEncoding
