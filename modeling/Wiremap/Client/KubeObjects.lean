import Wiremap.Library.Machine
import Wiremap.Library.Requests

/-! The hook that lists the objects of a kind, a page at a time.  Refreshes read
the first page, `loadMore` the page after the last; their answers write the same
state in whatever order they come. -/
namespace Wiremap.Client.KubeObjects

open Wiremap.Library

structure KubeKind where
  group : String
  version : String
  resource : String
  namespaced : Bool
  deriving DecidableEq

structure Props where
  cluster : String
  kind : Option KubeKind
  ns : String
  deriving DecidableEq

structure Target where
  cluster : String
  kind : Option (String × String × String)
  scope : String
  deriving DecidableEq

def Props.target (p : Props) : Target where
  cluster := p.cluster
  kind := p.kind.map fun kind => (kind.group, kind.version, kind.resource)
  scope :=
    match p.kind with
    | some kind => if kind.namespaced then p.ns else ""
    | none => ""

/-- `next` is "" on the last page. -/
structure Page (α : Type u) where
  items : List α
  next : String

/-- A request for the page a token leads to, the first one where it is "". -/
structure Request where
  target : Target
  token : String
  deriving DecidableEq

structure Server (α : Type u) where
  more : Target → String → Page α

variable {α : Type u}

/-- The pages held are kept with the requests they answer; `mounted` is what the
effects last ran for, and what the timer refreshes. -/
structure Hook (α : Type u) where
  target : Target
  mounted : Option Target := none
  pages : Option (List (Nat × Page α)) := none
  continueToken : String := ""
  error : Option String := none
  loadingMore : Bool := false
  extraPages : Nat := 0
  requests : Requests Request := .empty

inductive Event (α : Type u) where
  | render (props : Props)
  | effects
  /-- The refresh interval has passed. -/
  | tick
  | loadMore
  /-- An answer; the page is what a first page holds at the time. -/
  | respond (request : Nat) (result : Except String (Page α))

namespace Hook

def items (h : Hook α) : List α := (h.pages.getD []).flatMap fun held => held.2.items

def hasMore (h : Hook α) : Bool := h.continueToken ≠ ""

def pending (h : Hook α) : Prop := h.mounted ≠ some h.target

instance (h : Hook α) : Decidable h.pending := inferInstanceAs (Decidable (_ ≠ _))

def refresh (h : Hook α) (target : Target) : Hook α :=
  if target.kind.isSome ∧ h.extraPages = 0 then
    { h with requests := h.requests.send ⟨target, ""⟩ }
  else h

def loadMore (h : Hook α) : Hook α :=
  if h.target.kind.isSome ∧ h.continueToken ≠ "" then
    { h with loadingMore := true, requests := h.requests.send ⟨h.target, h.continueToken⟩ }
  else h

def runEffects (h : Hook α) : Hook α :=
  if h.pending then
    { h with mounted := some h.target, extraPages := 0, pages := none, continueToken := ""
             error := none }.refresh h.target
  else h

def settle (server : Server α) (h : Hook α) (i : Nat) (r : Request) :
    Except String (Page α) → Hook α
  | .ok page =>
      if r.token = "" then
        { h with pages := some [(i, page)], continueToken := page.next, error := none }
      else
        let page := server.more r.target r.token
        { h with
          extraPages := h.extraPages + 1
          pages := some (h.pages.getD [] ++ [(i, page)])
          continueToken := page.next
          loadingMore := false }
  | .error err =>
      if r.token = "" then { h with error := some err }
      else { h with error := some err, loadingMore := false }

end Hook

/-- Effects left over run before the next render, and so before what an answer
changed is rendered. -/
def step (server : Server α) (h : Hook α) : Event α → Option (Hook α)
  | .render props => some { h.runEffects with target := props.target }
  | .effects => some h.runEffects
  | .tick => h.mounted.map h.refresh
  | .loadMore => some h.loadMore
  | .respond i result =>
      (h.requests.answer i).map fun (r, requests) =>
        ({ h with requests := requests }.settle server i r result).runEffects

def machine (server : Server α) (props : Props) : Machine (Hook α) (Event α) where
  init := { target := props.target }
  step := step server

/-- These answers are consecutive pages of one listing of the target, from its
first page to the one that was returned with the token. -/
inductive Consecutive (server : Server α) (sent : List Request) (target : Target) :
    List (Nat × Page α) → String → Prop
  | first {i : Nat} {page : Page α} (h : sent[i]? = some ⟨target, ""⟩) :
      Consecutive server sent target [(i, page)] page.next
  | more {held : List (Nat × Page α)} {token : String} {i : Nat}
      (h : Consecutive server sent target held token) (htoken : token ≠ "")
      (hi : sent[i]? = some ⟨target, token⟩) :
      Consecutive server sent target (held ++ [(i, server.more target token)])
        (server.more target token).next

/-- What is shown is nothing, or consecutive pages of what is to be listed. -/
def Paged (server : Server α) (h : Hook α) : Prop :=
  match h.pages with
  | none => h.continueToken = ""
  | some held => Consecutive server h.requests.sent h.target held h.continueToken

/-- What is listed changes only while nothing is held; an answer is for what is
listed, and one with a further page comes while its token is the one held. -/
def InOrder (h : Hook α) : Event α → Prop
  | .render props => h.pending ∨ h.pages.isNone ∨ props.target = h.target
  | .respond i (.ok _) => h.pending ∨ ∀ r ∈ h.requests.sent[i]?,
      r.target = h.target ∧ (r.token = "" ∨ r.token = h.continueToken)
  | _ => True

instance (h : Hook α) (e : Event α) : Decidable (InOrder h e) :=
  match e with
  | .render _ => inferInstanceAs (Decidable (_ ∨ _ ∨ _))
  | .respond _ (.ok _) => inferInstanceAs (Decidable (_ ∨ _))
  | .respond _ (.error _) | .effects | .tick | .loadMore => isTrue trivial

/-! ### One listing -/

def Server.page (server : Server α) (target : Target) (first : Page α) : Nat → Page α
  | 0 => first
  | k + 1 => server.more target (server.page target first k).next

/-- Consecutive answers hold the items of the first pages, without repetition or gap. -/
theorem Consecutive.items_eq {server : Server α} {sent : List Request} {target : Target}
    {held : List (Nat × Page α)} {token : String} (h : Consecutive server sent target held token) :
    ∃ first k, held.flatMap (fun entry => entry.2.items) =
        (List.range (k + 1)).flatMap (fun i => (server.page target first i).items) ∧
      token = (server.page target first k).next := by
  induction h with
  | @first i page h => exact ⟨page, 0, by simp [Server.page], rfl⟩
  | more h htoken hi ih =>
      obtain ⟨first, k, hitems, rfl⟩ := ih
      refine ⟨first, k + 1, ?_, rfl⟩
      rw [List.flatMap_append, hitems, List.range_succ (n := k + 1), List.flatMap_append]
      simp [Server.page]

namespace Consecutive

variable {server : Server α} {sent : List Request} {target target' : Target}
variable {held : List (Nat × Page α)} {token token' : String}

theorem send (h : Consecutive server sent target held token) (r : Request) :
    Consecutive server (sent ++ [r]) target held token := by
  have hkeep : ∀ {i : Nat} {r' : Request}, sent[i]? = some r' → (sent ++ [r])[i]? = some r' :=
    fun hi => Requests.sent_send_of_some (q := ⟨sent, []⟩) hi r
  induction h with
  | first h => exact .first (hkeep h)
  | more h htoken hi ih => exact .more ih htoken (hkeep hi)

theorem head (h : Consecutive server sent target held token) :
    ∃ i page rest, held = (i, page) :: rest ∧ sent[i]? = some ⟨target, ""⟩ := by
  induction h with
  | @first i page h => exact ⟨i, page, [], rfl, h⟩
  | more h htoken hi ih =>
      obtain ⟨i, page, rest, rfl, hfirst⟩ := ih
      exact ⟨i, page, _, rfl, hfirst⟩

theorem last (h : Consecutive server sent target held token) :
    ∃ before i page, held = before ++ [(i, page)] ∧ token = page.next ∧
      (before = [] ∧ sent[i]? = some ⟨target, ""⟩ ∨
        ∃ token', Consecutive server sent target before token' ∧ sent[i]? = some ⟨target, token'⟩) := by
  cases h with
  | @first i page h => exact ⟨[], i, page, rfl, rfl, .inl ⟨rfl, h⟩⟩
  | more h htoken hi => exact ⟨_, _, _, rfl, rfl, .inr ⟨_, h, hi⟩⟩

theorem target_eq (h : Consecutive server sent target held token)
    (h' : Consecutive server sent target' held token') : target = target' := by
  obtain ⟨i, page, rest, rfl, hi⟩ := h.head
  obtain ⟨j, page', rest', hheld, hj⟩ := h'.head
  cases hheld
  exact congrArg Request.target (Option.some.inj (hi.symm.trans hj))

theorem token_eq (h : Consecutive server sent target held token)
    (h' : Consecutive server sent target' held token') : token = token' := by
  obtain ⟨before, i, page, rfl, rfl, -⟩ := h.last
  obtain ⟨before', j, page', hheld, rfl, -⟩ := h'.last
  cases (List.append_inj' hheld rfl).2
  rfl

theorem snoc {i : Nat} {page : Page α}
    (h : Consecutive server sent target (held ++ [(i, page)]) token) :
    held = [] ∧ sent[i]? = some ⟨target, ""⟩ ∨
      ∃ token', Consecutive server sent target held token' ∧ sent[i]? = some ⟨target, token'⟩ := by
  obtain ⟨before, j, page', hheld, -, hcases⟩ := h.last
  obtain ⟨rfl, hlast⟩ := List.append_inj' hheld rfl
  cases hlast
  exact hcases

end Consecutive

/-! ### When a step is good -/

variable {server : Server α} {h h' : Hook α}

theorem paged_of_none (hpages : h.pages = none) (htoken : h.continueToken = "") :
    Paged server h := by
  unfold Paged
  rw [hpages]
  exact htoken

theorem paged_of_some {held : List (Nat × Page α)} (hpages : h.pages = some held) :
    Paged server h ↔ Consecutive server h.requests.sent h.target held h.continueToken := by
  unfold Paged
  rw [hpages]

theorem paged_send (hpaged : Paged server h) (r : Request) {h' : Hook α}
    (hpages : h'.pages = h.pages) (htoken : h'.continueToken = h.continueToken)
    (htarget : h'.target = h.target) (hsent : h'.requests.sent = h.requests.sent ++ [r]) :
    Paged server h' := by
  unfold Paged at hpaged ⊢
  rw [hpages, htoken, htarget, hsent]
  split at hpaged
  · exact hpaged
  · exact hpaged.send r

theorem paged_congr (hpaged : Paged server h) {h' : Hook α} (hpages : h'.pages = h.pages)
    (htoken : h'.continueToken = h.continueToken) (htarget : h'.target = h.target)
    (hsent : h'.requests.sent = h.requests.sent) : Paged server h' := by
  unfold Paged at hpaged ⊢
  rw [hpages, htoken, htarget, hsent]
  exact hpaged

theorem paged_refresh (hpaged : Paged server h) (target : Target) :
    Paged server (h.refresh target) := by
  unfold Hook.refresh
  split
  · exact paged_send hpaged ⟨target, ""⟩ rfl rfl rfl rfl
  · exact hpaged

theorem paged_loadMore (hpaged : Paged server h) : Paged server h.loadMore := by
  unfold Hook.loadMore
  split
  · exact paged_send hpaged ⟨h.target, h.continueToken⟩ rfl rfl rfl rfl
  · exact hpaged

theorem runEffects_pending (hpending : h.pending) :
    h.runEffects.pages = none ∧ h.runEffects.continueToken = "" := by
  rw [Hook.runEffects, if_pos hpending]
  unfold Hook.refresh
  split <;> exact ⟨rfl, rfl⟩

theorem runEffects_of_not_pending (hpending : ¬ h.pending) : h.runEffects = h := if_neg hpending

theorem paged_runEffects_pending (hpending : h.pending) : Paged server h.runEffects :=
  paged_of_none (runEffects_pending hpending).1 (runEffects_pending hpending).2

theorem paged_render_iff (hpaged : Paged server h) (props : Props) :
    InOrder h (.render props) ↔ Paged server { h.runEffects with target := props.target } := by
  unfold InOrder
  by_cases hpending : h.pending
  · obtain ⟨hpages, htoken⟩ := runEffects_pending hpending
    exact iff_of_true (.inl hpending) (paged_of_none hpages htoken)
  · rw [runEffects_of_not_pending hpending]
    simp only [hpending, false_or]
    by_cases hnone : h.pages = none
    · have htoken : h.continueToken = "" := by
        unfold Paged at hpaged
        rwa [hnone] at hpaged
      exact iff_of_true (.inl (by simp [hnone])) (paged_of_none hnone htoken)
    · obtain ⟨held, hpages⟩ := Option.ne_none_iff_exists'.mp hnone
      have hheld := (paged_of_some hpages).mp hpaged
      constructor
      · rintro (hempty | hsame)
        · simp [hpages] at hempty
        · rw [hsame]
          exact hpaged
      · intro hnew
        have hheld' := (paged_of_some (h := { h with target := props.target }) hpages).mp hnew
        exact .inr (hheld'.target_eq hheld)

theorem not_consecutive_nil {target : Target} {sent : List Request} {token : String} :
    ¬ Consecutive server sent target [] token := by
  intro h
  obtain ⟨_, _, _, hnil, -⟩ := h.head
  cases hnil

theorem paged_settle_iff (hpaged : Paged server h) {requests : Requests Request}
    (hsent : requests.sent = h.requests.sent) {i : Nat} {r : Request}
    (hr : h.requests.sent[i]? = some r) (page : Page α) :
    (r.target = h.target ∧ (r.token = "" ∨ r.token = h.continueToken)) ↔
      Paged server ({ h with requests := requests }.settle server i r (.ok page)) := by
  obtain ⟨target, token⟩ := r
  unfold Hook.settle
  dsimp only
  split
  · rename_i hfirst
    subst hfirst
    rw [paged_of_some rfl]
    dsimp only
    rw [hsent]
    constructor
    · rintro ⟨rfl, -⟩
      exact .first hr
    · intro hnew
      have hnew' : Consecutive server _ _ ([] ++ [(i, page)]) _ := hnew
      rcases hnew'.snoc with ⟨-, hi⟩ | ⟨token, hnil, -⟩
      · cases hr.symm.trans hi
        exact ⟨rfl, .inl rfl⟩
      · exact absurd hnil not_consecutive_nil
  · rename_i hfurther
    rw [paged_of_some rfl]
    dsimp only
    rw [hsent]
    by_cases hnone : h.pages = none
    · -- nothing is held, so no token is, and a further page has nothing to follow on
      have htoken : h.continueToken = "" := by
        unfold Paged at hpaged
        rwa [hnone] at hpaged
      rw [hnone, Option.getD_none, htoken]
      refine iff_of_false (fun h => hfurther (h.2.elim id id)) fun hnew => ?_
      rcases hnew.snoc with ⟨-, hi⟩ | ⟨token', hnil, -⟩
      · cases hr.symm.trans hi
        exact hfurther rfl
      · exact not_consecutive_nil hnil
    · obtain ⟨held, hpages⟩ := Option.ne_none_iff_exists'.mp hnone
      have hheld := (paged_of_some hpages).mp hpaged
      rw [hpages, Option.getD_some]
      constructor
      · rintro ⟨rfl, hempty | rfl⟩
        · exact absurd hempty hfurther
        · exact .more hheld hfurther hr
      · intro hnew
        rcases hnew.snoc with ⟨rfl, -⟩ | ⟨token', hbefore, hi⟩
        · exact absurd hheld not_consecutive_nil
        · cases hr.symm.trans hi
          exact ⟨rfl, .inr (hbefore.token_eq hheld)⟩

theorem paged_step_iff {e : Event α} (hpaged : Paged server h) (hstep : step server h e = some h') :
    InOrder h e ↔ Paged server h' := by
  have heffects : Paged server h.runEffects := by
    by_cases hpending : h.pending
    · exact paged_runEffects_pending hpending
    · rwa [runEffects_of_not_pending hpending]
  cases e with
  | render props =>
      cases hstep
      exact paged_render_iff hpaged props
  | effects =>
      cases hstep
      exact iff_of_true trivial heffects
  | tick =>
      obtain ⟨target, -, rfl⟩ := Option.map_eq_some_iff.mp hstep
      exact iff_of_true trivial (paged_refresh hpaged target)
  | loadMore =>
      cases hstep
      exact iff_of_true trivial (paged_loadMore hpaged)
  | respond i result =>
      obtain ⟨⟨r, requests⟩, hanswer, rfl⟩ := Option.map_eq_some_iff.mp hstep
      obtain ⟨hr, hsent⟩ := Requests.answer_eq_some hanswer
      dsimp only
      have hleft : ({ h with requests := requests }.settle server i r result).pending ↔ h.pending := by
        unfold Hook.settle Hook.pending
        split <;> split <;> rfl
      by_cases hpending : h.pending
      · refine iff_of_true ?_ (paged_runEffects_pending (hleft.mpr hpending))
        cases result with
        | ok page => exact .inl hpending
        | error err => trivial
      · rw [runEffects_of_not_pending (mt hleft.mp hpending)]
        cases result with
        | ok page =>
            simp only [InOrder, hpending, false_or, hr, Option.mem_def, Option.some.injEq, forall_eq']
            exact paged_settle_iff hpaged hsent hr page
        | error err =>
            refine iff_of_true trivial ?_
            dsimp only [Hook.settle]
            split <;> exact paged_congr hpaged rfl rfl rfl hsent

theorem paged_run {props : Props} {events : List (Event α)}
    (hrun : (machine server props).Run InOrder events h) : Paged server h :=
  hrun.invariant (I := Paged server) (paged_of_none rfl rfl)
    fun _ _ _ hpaged horder hstep => (paged_step_iff hpaged hstep).mp horder

/-- What is shown is always consecutive pages of what is to be listed, with the
token of the last, exactly in the runs in order. -/
theorem shows_pages_iff (server : Server α) (props : Props) (events : List (Event α)) (h : Hook α)
    (hrun : (machine server props).Run Machine.unguarded events h) :
    (∀ before after t, events = before ++ after →
        (machine server props).Run Machine.unguarded before t → Paged server t) ↔
      (machine server props).Run InOrder events h :=
  hrun.always_iff (P := Paged server) (paged_of_none rfl rfl)
    fun _ _ _ _ hpast hstep => paged_step_iff (paged_run hpast) hstep

/-! ### Sessions -/

def podServer : Server String where
  more _ _ := ⟨["web-2", "web-3"], ""⟩

def podsPage : Page String := ⟨["web-0", "web-1"], "page-2"⟩

def pods : Props := ⟨"prod", some ⟨"", "v1", "pods", true⟩, "shop"⟩

def pagedSession : List (Event String) :=
  [.effects, .respond 0 (.ok podsPage), .tick, .respond 1 (.ok podsPage), .loadMore,
    .respond 2 (.ok podsPage), .tick]

/-- The first page after a pod has gone. -/
def laterPage : Page String := ⟨["web-1", "web-2"], "page-2b"⟩

/-- The list is refreshed while a further page is on its way. -/
def refreshedMeanwhile : List (Event String) :=
  [.effects, .respond 0 (.ok podsPage), .loadMore, .tick, .respond 2 (.ok laterPage),
    .respond 1 (.ok laterPage)]

theorem shows_pages_paged :
    ∃ h, (machine podServer pods).Run InOrder pagedSession h ∧
      ∀ before after t, pagedSession = before ++ after →
        (machine podServer pods).Run Machine.unguarded before t → Paged podServer t := by
  have hrun := Machine.run_of_runGuarded (machine podServer pods) InOrder pagedSession rfl
  exact ⟨_, hrun, (shows_pages_iff _ _ _ _ hrun.unguard).mpr hrun⟩

/-- The second page of the old listing follows the first of the new, and a pod is there twice. -/
theorem refreshedMeanwhile_not_paged :
    ¬ ∀ h, (machine podServer pods).Run Machine.unguarded refreshedMeanwhile h →
      Paged podServer h := by
  intro hall
  have hrun :=
    Machine.run_of_runGuarded (machine podServer pods) Machine.unguarded refreshedMeanwhile rfl
  have hpaged : Consecutive podServer _ pods.target
      ([(2, laterPage)] ++ [(1, podServer.more pods.target "page-2")]) "" :=
    (paged_of_some rfl).mp (hall _ hrun)
  rcases hpaged.snoc with ⟨hnil, -⟩ | ⟨token, hbefore, hasked⟩
  · cases hnil
  · -- the page was asked for with the token of the old listing
    obtain rfl : "page-2" = token := congrArg Request.token (Option.some.inj hasked)
    obtain ⟨before, i, page, hheld, hnext, -⟩ := hbefore.last
    have hlast : [] ++ [(2, laterPage)] = before ++ [(i, page)] := hheld
    cases (List.append_inj' hlast rfl).2
    exact absurd hnext (by decide)

end Wiremap.Client.KubeObjects
