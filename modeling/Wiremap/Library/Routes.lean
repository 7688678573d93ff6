import Mathlib.Data.List.Pairwise

/-! The routes of a web server: a method and a path whose segments are fixed or named.  Which
route a request is given to is the server's choice; it has none where no two routes fit one
path. -/
namespace Wiremap.Library.Routes

inductive Part where
  | literal (text : String)
  | param (name : String)
  deriving DecidableEq

abbrev Params := List (String × String)

structure Route (H : Type u) where
  method : String
  path : List Part
  handler : H
  deriving DecidableEq

inductive Outcome (H : Type u) where
  | handled (handler : H) (params : Params)
  | redirected (segments : List String)
  | notFound
  deriving DecidableEq

/-- What the named segments are, where a path has the form of a route. -/
def fit : List Part → List String → Option Params
  | [], [] => some []
  | .literal text :: parts, seg :: segs => if seg = text then fit parts segs else none
  | .param name :: parts, seg :: segs => (fit parts segs).map ((name, seg) :: ·)
  | [], _ :: _ => none
  | _ :: _, [] => none

variable {H : Type u}

/-- What a server does with a table: a request goes to a route of its method and form, and it
goes to one where no named segment is empty.  Without one, a path that ends in a slash may be
sent on to the path without; a slash is added only for routes that end in one. -/
structure Serves (table : List (Route H)) (serve : String → List String → Outcome H) : Prop where
  sound : ∀ {method segs handler params}, serve method segs = .handled handler params →
    ∃ route ∈ table, route.method = method ∧ route.handler = handler ∧
      fit route.path segs = some params
  complete : ∀ {route segs params}, route ∈ table → fit route.path segs = some params →
    (∀ param ∈ params, param.2 ≠ "") →
      ∃ handler params, serve route.method segs = .handled handler params
  redirected : ∀ {method segs segs'}, serve method segs = .redirected segs' →
    segs = segs' ++ [""] ∨ ∃ route ∈ table, route.path.getLast? = some (.literal "")

def fits (method : String) (segs : List String) (route : Route H) : Bool :=
  route.method = method && (fit route.path segs).isSome

/-- The first route that fits; else the path without its last slash, where that has one. -/
def lookup (table : List (Route H)) (method : String) (segs : List String) : Outcome H :=
  match table.find? (fits method segs) with
  | some route => .handled route.handler ((fit route.path segs).getD [])
  | none =>
      if segs.getLast? = some "" ∧ (table.find? (fits method segs.dropLast)).isSome then
        .redirected segs.dropLast
      else .notFound

/-- Some segment is fixed in both, and differs, or one path is longer. -/
def apart : List Part → List Part → Bool
  | [], [] => false
  | .literal text :: parts, .literal text' :: parts' => text ≠ text' || apart parts parts'
  | .param _ :: parts, _ :: parts' => apart parts parts'
  | _ :: parts, .param _ :: parts' => apart parts parts'
  | [], _ :: _ => true
  | _ :: _, [] => true

/-- No two routes of one method fit one path. -/
def Unambiguous (table : List (Route H)) : Prop :=
  table.Pairwise fun route route' => route.method = route'.method → apart route.path route'.path

instance (table : List (Route H)) : Decidable (Unambiguous table) :=
  inferInstanceAs (Decidable (List.Pairwise _ _))

theorem length_of_fit {parts : List Part} {segs : List String} {params : Params}
    (h : fit parts segs = some params) : parts.length = segs.length := by
  induction parts, segs using fit.induct generalizing params with
  | case1 => rfl
  | case2 parts seg segs ih =>
      rw [fit, if_pos rfl] at h
      exact congrArg (· + 1) (ih h)
  | case3 text parts seg segs hne =>
      rw [fit, if_neg hne] at h
      cases h
  | case4 name parts seg segs ih =>
      rw [fit] at h
      obtain ⟨rest, hrest, -⟩ := Option.map_eq_some_iff.mp h
      exact congrArg (· + 1) (ih hrest)
  | case5 | case6 => simp [fit] at h

theorem mem_of_fit {path : List Part} {segs : List String} {params : Params}
    (h : fit path segs = some params) : ∀ param ∈ params, param.2 ∈ segs := by
  induction path, segs using fit.induct generalizing params with
  | case1 =>
      cases h
      simp
  | case2 path seg segs ih =>
      rw [fit, if_pos rfl] at h
      exact fun param hparam => List.mem_cons_of_mem _ (ih h param hparam)
  | case3 text path seg segs hne =>
      rw [fit, if_neg hne] at h
      cases h
  | case4 name path seg segs ih =>
      rw [fit] at h
      obtain ⟨rest, hrest, rfl⟩ := Option.map_eq_some_iff.mp h
      refine List.forall_mem_cons.mpr ⟨List.mem_cons_self, fun param hparam => ?_⟩
      exact List.mem_cons_of_mem _ (ih hrest param hparam)
  | case5 | case6 => simp [fit] at h

theorem not_both_of_apart {parts parts' : List Part} (h : apart parts parts') {segs : List String}
    (hfits : (fit parts segs).isSome) : fit parts' segs = none := by
  induction parts, parts' using apart.induct generalizing segs with
  | case1 => cases h
  | case2 text parts text' parts' ih =>
      cases segs with
      | nil => simp [fit] at hfits
      | cons seg segs =>
          rw [fit] at hfits ⊢
          split at hfits
          · rename_i heq
            subst heq
            split
            · rename_i hsame
              refine ih ?_ hfits
              simpa [apart, hsame] using h
            · rfl
          · cases hfits
  | case3 name parts part parts' ih =>
      cases segs with
      | nil => simp [fit] at hfits
      | cons seg segs =>
          rw [fit, Option.isSome_map] at hfits
          have hrest := ih (by simpa [apart] using h) hfits
          cases part with
          | literal text => rw [fit, hrest, ite_self]
          | param name => rw [fit, hrest, Option.map_none]
  | case4 part parts name parts' hpart ih =>
      cases segs with
      | nil => simp [fit] at hfits
      | cons seg segs =>
          cases part with
          | param other => exact absurd rfl (hpart other)
          | literal text =>
              rw [fit] at hfits
              split at hfits
              · rw [fit, ih (by simpa [apart] using h) hfits, Option.map_none]
              · cases hfits
  | case5 part parts' =>
      cases segs with
      | nil => simp [fit]
      | cons seg segs => cases hfits
  | case6 part parts =>
      cases segs with
      | nil => simp [fit] at hfits
      | cons seg segs => rfl

theorem serves_lookup (table : List (Route H)) : Serves table (lookup table) where
  sound := by
    intro method segs handler params h
    unfold lookup at h
    split at h
    · rename_i route hfind
      have hmatches := List.find?_some hfind
      obtain ⟨hmethod, hfits⟩ := Bool.and_eq_true_iff.mp hmatches
      obtain ⟨found, hfound⟩ := Option.isSome_iff_exists.mp hfits
      rw [hfound, Option.getD_some] at h
      cases h
      exact ⟨route, List.mem_of_find?_eq_some hfind, of_decide_eq_true hmethod, rfl, hfound⟩
    · split at h <;> cases h
  complete := by
    intro route segs params hroute hfit _
    have hfits : fits route.method segs route := by simp [fits, hfit]
    obtain ⟨found, hfound⟩ := Option.isSome_iff_exists.mp
      (List.find?_isSome.mpr ⟨route, hroute, hfits⟩)
    exact ⟨_, _, by rw [lookup, hfound]⟩
  redirected := by
    intro method segs segs' h
    unfold lookup at h
    split at h
    · cases h
    · split at h
      · rename_i hlast
        cases h
        obtain ⟨front, rfl⟩ := List.getLast?_eq_some_iff.mp hlast.1
        exact .inl (by rw [List.dropLast_concat])
      · cases h

variable {table : List (Route H)} {serve : String → List String → Outcome H}

theorem Unambiguous.unique (h : Unambiguous table) {route route' : Route H} {segs : List String}
    (hroute : route ∈ table) (hroute' : route' ∈ table) (hmethod : route.method = route'.method)
    (hfits : (fit route.path segs).isSome) (hfits' : (fit route'.path segs).isSome) :
    route = route' := by
  let Exclude (a b : Route H) : Prop := a.method = b.method →
    ¬((fit a.path segs).isSome ∧ (fit b.path segs).isSome)
  have hsymm : Std.Symm Exclude := ⟨fun _ _ hab hmethod hboth => hab hmethod.symm hboth.symm⟩
  have hexclude : table.Pairwise Exclude := by
    refine h.imp fun {a b} hapart hmethod hboth => ?_
    have hnone := not_both_of_apart (hapart hmethod) hboth.1
    rw [hnone] at hboth
    cases hboth.2
  by_contra hne
  exact hexclude.forall hroute hroute' hne hmethod ⟨hfits, hfits'⟩

theorem Serves.handled (h : Serves table serve) (hunambiguous : Unambiguous table)
    {route : Route H} {segs : List String} {params : Params} (hroute : route ∈ table)
    (hfits : fit route.path segs = some params) (hnonempty : ∀ param ∈ params, param.2 ≠ "") :
    serve route.method segs = .handled route.handler params := by
  obtain ⟨handler, params', hhandled⟩ := h.complete hroute hfits hnonempty
  obtain ⟨route', hroute', hmethod, rfl, hfits'⟩ := h.sound hhandled
  obtain rfl := hunambiguous.unique hroute hroute' hmethod.symm 
    (Option.isSome_of_eq_some hfits) (Option.isSome_of_eq_some hfits')
  rw [hhandled, Option.some.inj (hfits.symm.trans hfits')]

end Wiremap.Library.Routes
