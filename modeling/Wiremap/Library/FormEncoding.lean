import Wiremap.Library.PercentEncoding

/-! Form encoding, in which a query carries its parameters: a space is written `+`, and the
pairs are joined by `&` and `=`, which no encoded text holds. -/
namespace Wiremap.Library.FormEncoding

open Text
open PercentEncoding (encodeOctet octets)

abbrev Params := List (String × String)

def plain (c : Char) : Bool := c.isAlphanum || "*-._".toList.contains c

def encodeChar (c : Char) : List Char :=
  if c = ' ' then ['+']
  else if plain c then [c]
  else (String.utf8EncodeChar c).flatMap encodeOctet

def encode (s : String) : String := .ofList (s.toList.flatMap encodeChar)

def spaced (c : Char) : Char := if c = '+' then ' ' else c

def decode (s : String) : Option String := PercentEncoding.decode (.ofList (s.toList.map spaced))

def serializePair (pair : String × String) : String := encode pair.1 ++ "=" ++ encode pair.2

def serialize (params : Params) : String := join '&' (params.map serializePair)

def cut (sep : Char) (s : String) : String × String :=
  match split sep s with
  | [] => (s, "")
  | first :: rest => (first, join sep rest)

/-- What holds a `;` or cannot be decoded is left out. -/
def parsePair (text : String) : Option (String × String) :=
  if contains text ";" then none
  else
    let (key, value) := cut '=' text
    (decode key).bind fun key => (decode value).map fun value => (key, value)

def parse (query : String) : Params :=
  ((split '&' query).filter fun text => text ≠ "").filterMap parsePair

/-! ### A text -/

theorem octets_cons_of_ne {c : Char} (h : c ≠ '%') (rest : List Char) :
    octets (c :: rest) = (octets rest).map (String.utf8EncodeChar c ++ ·) := by
  rw [octets, if_neg h]
  intro high low rest' hescape
  exact absurd hescape h

theorem plus_not_mem_encodeOctet (octet : UInt8) : '+' ∉ encodeOctet octet := by
  obtain ⟨hhigh, hlow⟩ := PercentEncoding.digits_lt octet
  have hdigit : ∀ n : Fin 16, '+' ≠ PercentEncoding.hexDigit n.val := by decide
  simp [encodeOctet, hdigit ⟨_, hhigh⟩, hdigit ⟨_, hlow⟩]

theorem spaced_encodeOctets (bytes : List UInt8) :
    (bytes.flatMap encodeOctet).map spaced = bytes.flatMap encodeOctet := by
  refine List.map_congr_left (g := id) (fun c hc => ?_) |>.trans (List.map_id _)
  obtain ⟨octet, -, hin⟩ := List.mem_flatMap.mp hc
  have hplus : c ≠ '+' := by
    rintro rfl
    exact plus_not_mem_encodeOctet octet hin
  rw [spaced, if_neg hplus, id]

theorem octets_encodeChar (c : Char) (rest : List Char) :
    octets ((encodeChar c).map spaced ++ rest) =
      (octets rest).map (String.utf8EncodeChar c ++ ·) := by
  unfold encodeChar
  split
  · rename_i hspace
    rw [hspace]
    exact octets_cons_of_ne (by decide) rest
  · split
    · rename_i hplain
      have hplus : c ≠ '+' := by
        rintro rfl
        revert hplain
        decide
      have hpercent : c ≠ '%' := by
        rintro rfl
        revert hplain
        decide
      rw [List.map_singleton, spaced, if_neg hplus, List.singleton_append,
        octets_cons_of_ne hpercent]
    · rw [spaced_encodeOctets, PercentEncoding.octets_encodeOctets]

theorem octets_encode (s : String) :
    octets ((encode s).toList.map spaced) = some (s.toList.flatMap String.utf8EncodeChar) := by
  rw [encode, String.toList_ofList]
  induction s.toList with
  | nil => rfl
  | cons c rest ih =>
      rw [List.flatMap_cons, List.map_append, octets_encodeChar, ih, List.flatMap_cons]
      rfl

@[simp] theorem decode_encode (s : String) : decode (encode s) = some s := by
  have hsame : octets (String.ofList ((encode s).toList.map spaced)).toList =
      octets (PercentEncoding.encode s).toList := by
    rw [String.toList_ofList, octets_encode, PercentEncoding.octets_encode]
  rw [decode, PercentEncoding.decode, hsame, ← PercentEncoding.decode, PercentEncoding.decode_encode]

/-! ### A query -/

theorem encode_free {sep : Char} (hescape : sep ≠ '%') (hspace : sep ≠ '+')
    (hdigit : PercentEncoding.hexValue sep = none) (hplain : plain sep = false) (s : String) :
    Free sep (encode s) := by
  have hhex : ∀ n < 16, sep ≠ PercentEncoding.hexDigit n := by
    rintro n hn rfl
    simp [PercentEncoding.hexValue_hexDigit hn] at hdigit
  have hoctet : ∀ octet, sep ∉ encodeOctet octet := by
    intro octet
    obtain ⟨hhigh, hlow⟩ := PercentEncoding.digits_lt octet
    simp [encodeOctet, hescape, hhex _ hhigh, hhex _ hlow]
  rw [Free, encode, String.toList_ofList]
  intro hmem
  obtain ⟨source, -, hsource⟩ := List.mem_flatMap.mp hmem
  unfold encodeChar at hsource
  split at hsource
  · exact hspace (List.mem_singleton.mp hsource)
  · split at hsource
    · obtain rfl := List.mem_singleton.mp hsource
      simp_all
    · obtain ⟨octet, -, hin⟩ := List.mem_flatMap.mp hsource
      exact hoctet octet hin

theorem free_append {sep : Char} {s t : String} (hs : Free sep s) (ht : Free sep t) :
    Free sep (s ++ t) := by
  rw [Free, String.toList_append, List.mem_append]
  exact not_or.mpr ⟨hs, ht⟩

theorem serializePair_free {sep : Char} (h : ∀ s, Free sep (encode s)) (hsep : sep ≠ '=')
    (pair : String × String) : Free sep (serializePair pair) :=
  free_append (free_append (h pair.1) (by simpa [Free] using hsep)) (h pair.2)

theorem encode_free_ampersand (s : String) : Free '&' (encode s) :=
  encode_free (by decide) (by decide) (by decide) (by decide) s

theorem encode_free_equals (s : String) : Free '=' (encode s) :=
  encode_free (by decide) (by decide) (by decide) (by decide) s

theorem encode_free_semicolon (s : String) : Free ';' (encode s) :=
  encode_free (by decide) (by decide) (by decide) (by decide) s

theorem contains_semicolon (s : String) : contains s ";" = true ↔ ¬Free ';' s := by
  rw [contains_iff, Free, not_not]
  exact List.singleton_infix_iff _ _

theorem cut_of_free {sep : Char} {s : String} (h : Free sep s) : cut sep s = (s, "") := by
  rw [cut, split_of_free h]
  simp [join]

theorem cut_append {sep : Char} {first : String} (h : Free sep first) (rest : String) :
    cut sep (first ++ String.singleton sep ++ rest) = (first, rest) := by
  rw [cut, split_append h]
  exact congrArg (first, ·) (join_split sep rest)

theorem parsePair_append {first second key value : String} (hfirst : decode first = some key)
    (hsecond : decode second = some value) (hequals : Free '=' first)
    (hsemicolon : Free ';' first ∧ Free ';' second) :
    parsePair (first ++ "=" ++ second) = some (key, value) := by
  have hnone : ¬contains (first ++ "=" ++ second) ";" := by
    rw [contains_semicolon, not_not]
    exact free_append (free_append hsemicolon.1 (by decide)) hsemicolon.2
  have hcut : cut '=' (first ++ "=" ++ second) = (first, second) := cut_append hequals second
  rw [parsePair, if_neg hnone, hcut]
  simp [hfirst, hsecond]

theorem parsePair_serializePair (pair : String × String) :
    parsePair (serializePair pair) = some pair :=
  parsePair_append (decode_encode pair.1) (decode_encode pair.2) (encode_free_equals pair.1)
    ⟨encode_free_semicolon pair.1, encode_free_semicolon pair.2⟩

theorem ne_empty_of_equals (key value : String) : key ++ "=" ++ value ≠ "" := by
  intro h
  have hmem : '=' ∈ (key ++ "=" ++ value).toList := by simp
  simp [h] at hmem

theorem parse_join {write : String × String → String} {params : Params}
    (hfree : ∀ pair ∈ params, Free '&' (write pair)) (hne : ∀ pair ∈ params, write pair ≠ "")
    (hread : ∀ pair ∈ params, parsePair (write pair) = some pair) :
    parse (join '&' (params.map write)) = params := by
  by_cases hempty : params = []
  · subst hempty
    rfl
  have hsplit : split '&' (join '&' (params.map write)) = params.map write := by
    refine split_join (fun part hpart => ?_) (by simpa using hempty)
    obtain ⟨pair, hpair, rfl⟩ := List.mem_map.mp hpart
    exact hfree pair hpair
  have hkept : (params.map write).filter (fun text => text ≠ "") = params.map write := by
    refine List.filter_eq_self.mpr fun text htext => ?_
    obtain ⟨pair, hpair, rfl⟩ := List.mem_map.mp htext
    simpa using hne pair hpair
  have hpairs : params.filterMap (parsePair ∘ write) = params.filterMap some :=
    List.filterMap_congr fun pair hpair => by rw [Function.comp_apply, hread pair hpair]
  rw [parse, hsplit, hkept, List.filterMap_map, hpairs, List.filterMap_some]

/-- A query is read as it was written. -/
@[simp] theorem parse_serialize (params : Params) : parse (serialize params) = params :=
  parse_join (fun pair _ => serializePair_free encode_free_ampersand (by decide) pair)
    (fun _ _ => ne_empty_of_equals _ _) fun pair _ => parsePair_serializePair pair

/-! ### Percent encoding in a query -/

theorem decode_component (s : String) : decode (PercentEncoding.encode s) = some s := by
  have hplus : '+' ∉ (PercentEncoding.encode s).toList :=
    PercentEncoding.encode_free (by decide) (by decide) (by decide) s
  have hsame : (PercentEncoding.encode s).toList.map spaced = (PercentEncoding.encode s).toList := by
    refine (List.map_congr_left fun c hc => ?_).trans (List.map_id _)
    have hne : c ≠ '+' := by
      rintro rfl
      exact hplus hc
    rw [spaced, if_neg hne, id]
  rw [decode, hsame, String.ofList_toList, PercentEncoding.decode_encode]

/-- A parameter whose name needs no encoding, and whose value is percent encoded. -/
def writeComponent (pair : String × String) : String :=
  pair.1 ++ "=" ++ PercentEncoding.encode pair.2

theorem parse_components {params : Params} (hkeys : ∀ pair ∈ params, encode pair.1 = pair.1) :
    parse (join '&' (params.map writeComponent)) = params := by
  have hkey : ∀ pair ∈ params, decode pair.1 = some pair.1 := by
    intro pair hpair
    have hdecode := decode_encode pair.1
    rwa [hkeys pair hpair] at hdecode
  have hampersand : ∀ s, Free '&' (PercentEncoding.encode s) :=
    PercentEncoding.encode_free (by decide) (by decide) (by decide)
  have hsemicolon : ∀ s, Free ';' (PercentEncoding.encode s) :=
    PercentEncoding.encode_free (by decide) (by decide) (by decide)
  refine parse_join (fun pair hpair => ?_) (fun _ _ => ne_empty_of_equals _ _) fun pair hpair => ?_
  · refine free_append (free_append ?_ (by decide)) (hampersand pair.2)
    rw [← hkeys pair hpair]
    exact encode_free_ampersand pair.1
  · refine parsePair_append (hkey pair hpair) (decode_component pair.2) ?_
      ⟨?_, hsemicolon pair.2⟩
    · rw [← hkeys pair hpair]
      exact encode_free_equals pair.1
    · rw [← hkeys pair hpair]
      exact encode_free_semicolon pair.1

end Wiremap.Library.FormEncoding
