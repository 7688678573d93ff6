import Wiremap.Library.FormEncoding

/-! The path of a URL.  A browser takes its dot segments out before it sends it; what is
encoded arrives as it was, the separators in it included. -/
namespace Wiremap.Library.UrlPath

open Text PercentEncoding
open FormEncoding (cut)

def dots : List String := [".", "%2e", "%2E"]

def isDot (seg : String) : Bool := seg ∈ dots

def isDotDot (seg : String) : Bool := seg ∈ dots.flatMap fun first => dots.map (first ++ ·)

/-- A dot segment at the end leaves an empty one. -/
def removeDots : List String → List String → List String
  | path, [] => path
  | path, [seg] =>
      if isDotDot seg then path.dropLast ++ [""]
      else if isDot seg then path ++ [""]
      else path ++ [seg]
  | path, seg :: rest =>
      removeDots
        (if isDotDot seg then path.dropLast else if isDot seg then path else path ++ [seg]) rest

/-- The path and the query that are sent for a URL on the host of the page. -/
def target (url : String) : String × String :=
  let (path, query) := cut '?' (cut '#' url).1
  (join '/' ("" :: removeDots [] ((split '/' path).drop 1)), query)

/-- The segments of a path as it is decoded; `none` where it cannot be. -/
def segments (path : String) : Option (List String) := (decode path).map (split '/')

/-! ### Dot segments -/

theorem removeDots_append {pre : List String} (hpre : ∀ seg ∈ pre, ¬isDot seg ∧ ¬isDotDot seg)
    (path : List String) {rest : List String} (hrest : rest ≠ []) :
    removeDots path (pre ++ rest) = removeDots (path ++ pre) rest := by
  induction pre generalizing path with
  | nil => rw [List.nil_append, List.append_nil]
  | cons seg pre ih =>
      obtain ⟨hdot, hdots⟩ := hpre seg List.mem_cons_self
      have hmore : pre ++ rest ≠ [] := by simp [hrest]
      obtain ⟨next, after, hnext⟩ := List.exists_cons_of_ne_nil hmore
      rw [List.cons_append, hnext, removeDots, if_neg hdots, if_neg hdot, ← hnext,
        ih (fun other hother => hpre other (List.mem_cons_of_mem _ hother)), List.append_assoc]
      · rfl
      · simp

theorem removeDots_of_plain {segs : List String} (h : ∀ seg ∈ segs, ¬isDot seg ∧ ¬isDotDot seg)
    (path : List String) : removeDots path segs = path ++ segs := by
  rcases segs.eq_nil_or_concat with rfl | ⟨pre, last, rfl⟩
  · rw [removeDots, List.append_nil]
  · obtain ⟨hdot, hdots⟩ := h last (by simp)
    rw [List.concat_eq_append, removeDots_append (fun seg hseg => h seg (by simp [hseg])) _ (by simp),
      removeDots, if_neg hdots, if_neg hdot, List.append_assoc]

theorem eq_of_octets {s text : String} (h : octets (encode s).toList = octets text.toList)
    (htext : encode text = text) : s = text := by
  have hdecode : decode (encode s) = decode (encode text) := by rw [decode, h, htext, decode]
  simpa using hdecode

theorem isDot_encode {s : String} : isDot (encode s) ↔ s = "." := by
  constructor
  · intro h
    have hall : ∀ dot ∈ dots, octets dot.toList = octets ".".toList := by decide
    exact eq_of_octets (hall _ (of_decide_eq_true h)) (by decide)
  · rintro rfl
    decide

theorem isDotDot_encode {s : String} : isDotDot (encode s) ↔ s = ".." := by
  constructor
  · intro h
    have hall : ∀ two ∈ dots.flatMap (fun first => dots.map (first ++ ·)),
        octets two.toList = octets "..".toList := by decide
    exact eq_of_octets (hall _ (of_decide_eq_true h)) (by decide)
  · rintro rfl
    decide

/-! ### What arrives -/

theorem octets_encode_append (s : String) (rest : List Char) :
    octets ((encode s).toList ++ rest) =
      (octets rest).map (s.toList.flatMap String.utf8EncodeChar ++ ·) := by
  rw [encode, String.toList_ofList]
  induction s.toList with
  | nil => simp
  | cons c chars ih =>
      rw [List.flatMap_cons, List.append_assoc, octets_encodeChar, ih, List.flatMap_cons]
      cases octets rest <;> simp

theorem octets_join_encode (parts : List String) :
    octets (join '/' (parts.map encode)).toList =
      some ((join '/' parts).toList.flatMap String.utf8EncodeChar) := by
  induction parts with
  | nil => rfl
  | cons part parts ih =>
      cases parts with
      | nil => simpa [toList_join] using octets_encode part
      | cons next parts =>
          rw [toList_join, toList_join] at ih ⊢
          simp only [List.map_cons, List.intercalate_cons_cons, List.append_assoc,
            List.singleton_append] at ih ⊢
          rw [octets_encode_append, FormEncoding.octets_cons_of_ne (by decide), ih]
          simp

theorem decode_join_encode (parts : List String) :
    decode (join '/' (parts.map encode)) = some (join '/' parts) := by
  rw [← decode_encode, decode, octets_join_encode, decode, octets_encode]

theorem free_join {sep c : Char} (hc : c ≠ sep) {parts : List String}
    (hparts : ∀ part ∈ parts, Free c part) : Free c (join sep parts) := by
  induction parts with
  | nil => simp [Free]
  | cons part parts ih =>
      have hpart := hparts part List.mem_cons_self
      have hrest := ih fun other hother => hparts other (List.mem_cons_of_mem _ hother)
      cases parts with
      | nil => simpa [Free] using hpart
      | cons next parts =>
          simp only [Free, toList_join, List.map_cons, List.intercalate_cons_cons] at hpart hrest ⊢
          simp [hpart, hc, hrest]

theorem split_append_split (sep : Char) (s t : String) :
    split sep (s ++ String.singleton sep ++ t) = split sep s ++ split sep t := by
  simp [split, List.splitOn_append_cons_self]

theorem free_of_length_split {sep : Char} {s : String} (h : (split sep s).length = 1) :
    Free sep s := by
  intro hmem
  obtain ⟨before, after, hchars⟩ := List.append_of_mem hmem
  rw [split, hchars, List.splitOn_append_cons_self, List.length_map, List.length_append] at h
  have hbefore := List.length_pos_of_ne_nil (List.splitOn_ne_nil sep before)
  have hafter := List.length_pos_of_ne_nil (List.splitOn_ne_nil sep after)
  omega

theorem split_join_flatMap (sep : Char) {parts : List String} (hparts : parts ≠ []) :
    split sep (join sep parts) = parts.flatMap (split sep) := by
  induction parts with
  | nil => exact absurd rfl hparts
  | cons part parts ih =>
      cases parts with
      | nil => simp [join]
      | cons next parts =>
          have hjoin : join sep (part :: next :: parts) =
              part ++ String.singleton sep ++ join sep (next :: parts) := by
            apply String.toList_inj.mp
            simp
          rw [hjoin, split_append_split, ih (by simp)]
          rfl

theorem encode_free_slash (s : String) : Free '/' (encode s) :=
  encode_free (by decide) (by decide) (by decide) s

def sent (parts : List String) : String := join '/' ("" :: removeDots [] (parts.map encode))

theorem target_join_encode {parts : List String} {url query : String} (hurl : Free '#' url)
    (hcut : cut '?' url = (join '/' ("" :: parts.map encode), query)) :
    target url = (sent parts, query) := by
  have hsplit : split '/' (join '/' ("" :: parts.map encode)) = "" :: parts.map encode := by
    refine split_join (fun part hpart => ?_) (by simp)
    rcases List.mem_cons.mp hpart with rfl | hpart
    · simp [Free]
    · obtain ⟨text, -, rfl⟩ := List.mem_map.mp hpart
      exact encode_free_slash text
  rw [target, FormEncoding.cut_of_free hurl]
  simp only [hcut, hsplit, List.drop_succ_cons, List.drop_zero, sent]

def Dotless (parts : List String) : Prop := ∀ part ∈ parts, part ≠ "." ∧ part ≠ ".."

theorem plain_map_encode {parts : List String} (h : Dotless parts) :
    ∀ seg ∈ parts.map encode, ¬isDot seg ∧ ¬isDotDot seg := by
  intro seg hseg
  obtain ⟨part, hpart, rfl⟩ := List.mem_map.mp hseg
  rw [isDot_encode, isDotDot_encode]
  exact h part hpart

theorem sent_of_dotless {parts : List String} (h : Dotless parts) :
    sent parts = join '/' ("" :: parts.map encode) := by
  rw [sent, removeDots_of_plain (plain_map_encode h), List.nil_append]

/-- A dot segment is gone, and two dots take the segment before along. -/
theorem sent_dots {pre rest : List String} (hpre : Dotless pre) (hrest : Dotless rest)
    (hne : rest ≠ []) :
    sent (pre ++ "." :: rest) = sent (pre ++ rest) ∧
      sent (pre ++ ".." :: rest) = sent (pre.dropLast ++ rest) := by
  have hjoined : ∀ front, Dotless front →
      sent (front ++ rest) = join '/' ("" :: (front.map encode ++ rest.map encode)) := by
    intro front hfront
    rw [sent_of_dotless (List.forall_mem_append.mpr ⟨hfront, hrest⟩), List.map_append]
  have hlast : Dotless pre.dropLast := fun part hpart => hpre part (List.mem_of_mem_dropLast hpart)
  obtain ⟨next, after, hnext⟩ := List.exists_cons_of_ne_nil (l := rest.map encode) (by simpa using hne)
  have hstep : ∀ seg, removeDots (pre.map encode) (seg :: rest.map encode) =
      (if isDotDot seg then (pre.map encode).dropLast
        else if isDot seg then pre.map encode else pre.map encode ++ [seg]) ++ rest.map encode := by
    intro seg
    rw [hnext, removeDots, ← hnext, removeDots_of_plain (plain_map_encode hrest)]
    simp
  have hsent : ∀ dots, sent (pre ++ dots :: rest) =
      join '/' ("" :: removeDots (pre.map encode) (encode dots :: rest.map encode)) := by
    intro dots
    rw [sent, List.map_append, removeDots_append (plain_map_encode hpre) _ (by simp),
      List.nil_append, List.map_cons]
  constructor
  · rw [hsent, hstep, if_neg (by simp [isDotDot_encode]), if_pos (isDot_encode.mpr rfl),
      hjoined pre hpre]
  · rw [hsent, hstep, if_pos (isDotDot_encode.mpr rfl), hjoined _ hlast, List.map_dropLast]

/-- Separators in an encoded segment divide it once it is decoded. -/
theorem segments_join_encode {parts : List String} (hparts : parts ≠ []) :
    segments (join '/' (parts.map encode)) = some (parts.flatMap (split '/')) := by
  rw [segments, decode_join_encode, Option.map_some, split_join_flatMap '/' hparts]

end Wiremap.Library.UrlPath
