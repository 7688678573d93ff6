import Wiremap.Library.Machine
import Wiremap.Library.Requests
import Wiremap.Library.Text

/-! The panel of the selected container and the editor of its environment.  The
panel stays mounted when another container is selected, and its inspect hook takes
in the answers to whatever it has asked for. -/
namespace Wiremap.Client.ContainerPanel

open Wiremap.Library

structure ContainerInspect where
  name : String
  env : Option (List String)
  deriving DecidableEq

structure EnvVar where
  key : String
  value : String
  deriving DecidableEq

/-- `slice(0, -1)` drops a UTF-16 unit: of a character that takes two a lone surrogate is
left, which reaches the server as U+FFFD. -/
def dropUnit (text : List Char) : List Char :=
  match text.getLast? with
  | some last => text.dropLast ++ if last.toNat < 65536 then [] else [Char.ofNat 65533]
  | none => []

/-- Without a "=" the index is -1: the key loses its last unit and the value is the whole
entry. -/
def parseEnv (env : String) : EnvVar :=
  match env.toList.idxOf? '=' with
  | some eqIndex => ⟨.ofList (env.toList.take eqIndex), .ofList (env.toList.drop (eqIndex + 1))⟩
  | none => ⟨.ofList (dropUnit env.toList), env⟩

def envVars (inspect : ContainerInspect) : List EnvVar := (inspect.env.getD []).map parseEnv

def isSpace (c : Char) : Bool :=
  c.toNat ∈ [9, 10, 11, 12, 13, 32, 160, 5760, 8232, 8233, 8239, 8287, 12288, 65279] ∨
    8192 ≤ c.toNat ∧ c.toNat ≤ 8202

def EnvVar.blank (e : EnvVar) : Bool := e.key.toList.all isSpace

inductive Edit where
  | updateEnvValue (index : Nat) (value : String)
  | updateEnvKey (index : Nat) (key : String)
  | addEnvVar
  | removeEnvVar (index : Nat)
  deriving DecidableEq

def Edit.apply (env : List EnvVar) : Edit → List EnvVar
  | .updateEnvValue index value => env.modify index ({ · with value := value })
  | .updateEnvKey index key => env.modify index ({ · with key := key })
  | .addEnvVar => env ++ [⟨"", ""⟩]
  | .removeEnvVar index => env.eraseIdx index

/-- The entries of `PUT /api/containers/{id}/env`. -/
def saved (env : List EnvVar) : List String :=
  (env.filter fun e => !e.blank).map fun e => s!"{e.key}={e.value}"

/-- What an inspect request for a container was answered with. -/
structure Answer where
  containerId : String
  inspect : ContainerInspect
  deriving DecidableEq

/-- The edited entries, with what was shown when editing started and the edits since. -/
structure Draft where
  read : Answer
  edits : List Edit
  editedEnv : List EnvVar
  editedEnv_eq : editedEnv = edits.foldl Edit.apply (envVars read.inspect)

def Draft.start (read : Answer) : Draft := ⟨read, [], envVars read.inspect, rfl⟩

def Draft.edit (d : Draft) (e : Edit) : Draft where
  read := d.read
  edits := d.edits ++ [e]
  editedEnv := e.apply d.editedEnv
  editedEnv_eq := by rw [List.foldl_append, ← d.editedEnv_eq]; rfl

/-- The inspect view, known by the render that mounted it; it is editing while it
has a draft. -/
structure InspectView where
  render : Nat
  draft : Option Draft := none
  saving : Bool := false
  error : Option String := none

inductive Tab where
  | logs
  | stats
  | console
  | inspect
  | volumes
  | ports
  | network
  deriving DecidableEq

/-- `mounted` is the container its effects last ran for. -/
structure Panel where
  containerId : String
  selected : containerId ≠ ""
  activeTab : Tab := .logs
  inspect : Option Answer := none
  loading : Bool := false
  mounted : Option String := none
  requests : Requests String := .empty
  view : Option InspectView := none

namespace Panel

def containerName (p : Panel) : String :=
  let name := p.inspect.elim "" fun shown => Text.trimPrefix shown.inspect.name "/"
  if name = "" then .ofList (p.containerId.toList.take 12) else name

def runEffects (p : Panel) : Panel :=
  if p.mounted = some p.containerId then p
  else if p.containerId = "" then { p with mounted := some p.containerId, inspect := none }
  else
    { p with
      mounted := some p.containerId
      loading := true
      requests := p.requests.send p.containerId }

def settle (p : Panel) (containerId : String) : Except String ContainerInspect → Panel
  | .ok inspect => { p with inspect := some ⟨containerId, inspect⟩, loading := false }
  | .error _ => { p with inspect := none, loading := false }

/-- The inspect view is mounted in its tab while there are data and none are loading. -/
def render (p : Panel) (render : Nat) : Panel :=
  if p.activeTab = .inspect ∧ p.inspect.isSome ∧ ¬ p.loading then
    { p with view := some (p.view.getD { render := render }) }
  else { p with view := none }

def mapView (p : Panel) (f : InspectView → InspectView) : Panel := { p with view := p.view.map f }

end Panel

structure Put where
  containerId : String
  render : Nat
  draft : Draft

def Put.env (put : Put) : List String := saved put.draft.editedEnv

/-- The panel is mounted while a container is selected. -/
structure Dashboard where
  panel : Option Panel := none
  renders : Nat := 0
  puts : Requests Put := .empty

namespace Dashboard

def selectedContainerId (d : Dashboard) : Option String := d.panel.map Panel.containerId

def render (d : Dashboard) : Dashboard where
  panel := d.panel.map fun p => p.render d.renders
  renders := d.renders + 1
  puts := d.puts

def runEffects (d : Dashboard) : Dashboard := { d with panel := d.panel.map Panel.runEffects }

def setSelectedContainerId (d : Dashboard) (id : String) : Dashboard :=
  if h : id = "" then { d with panel := none }
  else
    match d.panel with
    | some p => { d with panel := some { p with containerId := id, selected := h } }
    | none => { d with panel := some { containerId := id, selected := h } }

/-- A view that is no longer mounted takes nothing in. -/
def settleView (d : Dashboard) (put : Put) (f : InspectView → InspectView) : Dashboard :=
  { d with panel := d.panel.map fun p =>
      p.mapView fun view => if view.render = put.render then f view else view }

/-- The rest of `saveEnv`, after the answer with the id of the new container. -/
def settle (d : Dashboard) (put : Put) : Except String String → Dashboard
  | .ok id =>
      let d := d.settleView put fun view => { view with draft := none, saving := false }
      if id = "" then d else d.setSelectedContainerId id
  | .error err => d.settleView put fun view => { view with error := some err, saving := false }

end Dashboard

inductive Event where
  /-- A container in the canvas or the list, or "" to close the panel. -/
  | select (id : String)
  | effects
  /-- An answer to a request of the panel that is mounted; others change nothing. -/
  | respond (request : Nat) (result : Except String ContainerInspect)
  | setActiveTab (tab : Tab)
  | startEditing
  | edit (e : Edit)
  | cancelEditing
  | saveEnv
  | answered (put : Nat) (result : Except String String)

/-- What is changed without an effect or an answer; its controls are enabled. -/
def act (d : Dashboard) (p : Panel) : Event → Option Dashboard
  | .setActiveTab tab => some { d with panel := some { p with activeTab := tab } }
  | .startEditing => do
      let view ← p.view
      let shown ← p.inspect
      if view.draft.isSome then none
      else
        let view := { view with draft := some (.start shown), error := none }
        some { d with panel := some { p with view := some view } }
  | .edit e => do
      let view ← p.view
      let draft ← view.draft
      some { d with panel := some { p with view := some { view with draft := some (draft.edit e) } } }
  | .cancelEditing => do
      let view ← p.view
      if view.draft.isNone then none
      else some { d with panel := some { p with view := some { view with draft := none, error := none } } }
  | .saveEnv => do
      let view ← p.view
      let draft ← view.draft
      if view.saving then none
      else
        some { d with
          panel := some { p with view := some { view with saving := true, error := none } }
          puts := d.puts.send ⟨p.containerId, view.render, draft⟩ }
  | _ => none

def step (d : Dashboard) : Event → Option Dashboard
  | .select id => some (d.runEffects.setSelectedContainerId id).render
  | .effects => some d.runEffects.render
  | .respond i result => do
      let p ← d.panel
      let (containerId, requests) ← p.requests.answer i
      let p := { p with requests := requests }.settle containerId result
      some { d with panel := some p.runEffects }.render
  | .answered i result => do
      let (put, puts) ← d.puts.answer i
      some ({ d with puts := puts }.runEffects.settle put result).render
  | event => do
      let p ← d.panel
      (act d p event).map fun d => d.runEffects.render

def machine : Machine Dashboard Event where
  init := {}
  step := step

/-- The inspect data in the panel are those of the selected container; the title
shows them whatever the tab, and while others are loading. -/
def Shown (p : Panel) : Prop := ∀ shown ∈ p.inspect, shown.containerId = p.containerId

/-- The entries are those read from the container's inspect data, with the edits
made to them. -/
def Put.Own (put : Put) : Prop :=
  put.draft.read.containerId = put.containerId ∧
    put.env = saved (put.draft.edits.foldl Edit.apply (envVars put.draft.read.inspect))

structure Right (d : Dashboard) : Prop where
  shown : ∀ p ∈ d.panel, Shown p
  puts : ∀ put ∈ d.puts.sent, put.Own

/-- Another container is selected only while the panel holds no inspect data. -/
def MaySelect (d : Dashboard) (id : String) : Prop :=
  id = "" ∨ ∀ p ∈ d.panel, p.inspect.isNone ∨ p.containerId = id

instance (d : Dashboard) (id : String) : Decidable (MaySelect d id) :=
  inferInstanceAs (Decidable (_ ∨ ∀ p ∈ d.panel, _))

/-- Inspect data come while the container they were asked for is the selected one. -/
def InOrder (d : Dashboard) : Event → Prop
  | .select id => MaySelect d id
  | .answered _ (.ok id) => MaySelect d id
  | .respond i (.ok _) => ∀ p ∈ d.panel, ∀ asked ∈ p.requests.sent[i]?, asked = p.containerId
  | _ => True

instance (d : Dashboard) : ∀ e, Decidable (InOrder d e)
  | .select id => inferInstanceAs (Decidable (MaySelect d id))
  | .answered _ (.ok id) => inferInstanceAs (Decidable (MaySelect d id))
  | .respond _ (.ok _) => inferInstanceAs (Decidable (∀ p ∈ d.panel, _))
  | .answered _ (.error _) | .respond _ (.error _) => isTrue trivial
  | .effects | .setActiveTab _ | .startEditing | .edit _ | .cancelEditing | .saveEnv => isTrue trivial

/-! ### Panels -/

theorem Put.own_iff (put : Put) : put.Own ↔ put.draft.read.containerId = put.containerId := by
  unfold Put.Own Put.env
  rw [← put.draft.editedEnv_eq]
  exact and_iff_left rfl

/-- What is held and edited belongs to the container of the panel. -/
structure Panel.Sound (p : Panel) : Prop where
  shown : Shown p
  drafts : ∀ view ∈ p.view, ∀ draft ∈ view.draft, draft.read.containerId = p.containerId

structure Panel.Own (p : Panel) : Prop extends p.Sound where
  view_none : p.inspect = none → p.view = none

namespace Panel

variable {p : Panel}

@[simp] theorem runEffects_containerId : p.runEffects.containerId = p.containerId := by
  unfold runEffects
  split
  · rfl
  · split <;> rfl

@[simp] theorem runEffects_view : p.runEffects.view = p.view := by
  unfold runEffects
  split
  · rfl
  · split <;> rfl

/-- The effects never drop what is held: a panel always has a container. -/
@[simp] theorem runEffects_inspect : p.runEffects.inspect = p.inspect := by
  unfold runEffects
  split
  · rfl
  · rw [if_neg p.selected]

@[simp] theorem render_containerId (n : Nat) : (p.render n).containerId = p.containerId := by
  unfold render
  split <;> rfl

@[simp] theorem render_inspect (n : Nat) : (p.render n).inspect = p.inspect := by
  unfold render
  split <;> rfl

theorem shown_congr {p' : Panel} (hinspect : p'.inspect = p.inspect)
    (hid : p'.containerId = p.containerId) : Shown p' ↔ Shown p := by
  unfold Shown
  rw [hinspect, hid]

theorem Sound.runEffects (h : p.Sound) : p.runEffects.Sound where
  shown := (shown_congr runEffects_inspect runEffects_containerId).mpr h.shown
  drafts := by
    simp only [runEffects_view, runEffects_containerId]
    exact h.drafts

theorem Own.runEffects (h : p.Own) : p.runEffects.Own where
  toSound := h.toSound.runEffects
  view_none := by
    simp only [runEffects_view, runEffects_inspect]
    exact h.view_none

theorem Sound.render (h : p.Sound) (n : Nat) : (p.render n).Own where
  shown := (shown_congr (render_inspect n) (render_containerId n)).mpr h.shown
  drafts := by
    rw [render_containerId]
    unfold Panel.render
    split
    · cases hview : p.view with
      | none => simp
      | some view => simpa [hview] using h.drafts view hview
    · simp
  view_none := by
    rw [render_inspect]
    intro hnone
    rw [Panel.render, if_neg (by simp [hnone])]

theorem Sound.mapView (h : p.Sound) {f : InspectView → InspectView}
    (hf : ∀ view, (f view).draft = view.draft ∨ (f view).draft = none) : (p.mapView f).Sound where
  shown := h.shown
  drafts := by
    intro view hview draft hdraft
    obtain ⟨old, hold, rfl⟩ := Option.map_eq_some_iff.mp hview
    rcases hf old with hkept | hnone
    · exact h.drafts old hold draft (hkept ▸ hdraft)
    · simp [hnone] at hdraft

end Panel

theorem Panel.Own.mapView {p : Panel} (h : p.Own) {f : InspectView → InspectView}
    (hf : ∀ view, (f view).draft = view.draft ∨ (f view).draft = none) : (p.mapView f).Own where
  toSound := h.toSound.mapView hf
  view_none hnone := by rw [Panel.mapView, h.view_none hnone]; rfl

/-! ### Steps -/

structure Inv (d : Dashboard) : Prop where
  panel : ∀ p ∈ d.panel, p.Own
  puts : ∀ put ∈ d.puts.sent, put.Own

variable {d d' : Dashboard}

theorem Inv.right (h : Inv d) : Right d := ⟨fun p hp => (h.panel p hp).shown, h.puts⟩

theorem inv_render (hpanel : ∀ p ∈ d.panel, p.Sound) (hputs : ∀ put ∈ d.puts.sent, put.Own) :
    Inv d.render where
  panel := by
    intro _ hp
    obtain ⟨old, hold, rfl⟩ := Option.map_eq_some_iff.mp hp
    exact (hpanel old hold).render _
  puts := hputs

theorem Inv.runEffects (h : Inv d) : Inv d.runEffects where
  panel := by
    intro _ hp
    obtain ⟨old, hold, rfl⟩ := Option.map_eq_some_iff.mp hp
    exact (h.panel old hold).runEffects
  puts := h.puts

theorem Inv.render (h : Inv d) : Inv d.render :=
  inv_render (fun p hp => (h.panel p hp).toSound) h.puts

theorem shown_of_render (h : ∀ p ∈ d.render.panel, Shown p) : ∀ p ∈ d.panel, Shown p :=
  fun _ hp => (Panel.shown_congr (Panel.render_inspect _) (Panel.render_containerId _)).mp
    (h _ (Option.mem_map_of_mem _ hp))

theorem maySelect_runEffects (id : String) : MaySelect d.runEffects id ↔ MaySelect d id := by
  cases hpanel : d.panel <;> simp [MaySelect, Dashboard.runEffects, hpanel]

@[simp] theorem setSelectedContainerId_puts (id : String) :
    (d.setSelectedContainerId id).puts = d.puts := by
  unfold Dashboard.setSelectedContainerId
  split
  · rfl
  · split <;> rfl

theorem sound_select (h : Inv d) {id : String} (hmay : MaySelect d id) :
    ∀ p ∈ (d.setSelectedContainerId id).panel, p.Sound := by
  intro p hp
  unfold Dashboard.setSelectedContainerId at hp
  split at hp
  · cases hp
  · rename_i hne
    split at hp
    · rename_i q hpanel
      cases hp
      rcases hmay.resolve_left hne q hpanel with hnone | hsame
      · have hinspect : q.inspect = none := Option.isNone_iff_eq_none.mp hnone
        have hview := (h.panel q hpanel).view_none hinspect
        exact ⟨by simp [Shown, hinspect], by simp [hview]⟩
      · subst hsame
        exact (h.panel q hpanel).toSound
    · cases hp
      exact ⟨by simp [Shown], by simp⟩

theorem maySelect_of_shown {id : String} (hbefore : ∀ p ∈ d.panel, Shown p)
    (hafter : ∀ p ∈ (d.setSelectedContainerId id).panel, Shown p) : MaySelect d id := by
  by_cases hne : id = ""
  · exact .inl hne
  · refine .inr fun p hp => ?_
    cases hinspect : p.inspect with
    | none => exact .inl rfl
    | some shown =>
        have hpanel : d.panel = some p := hp
        have hselected : shown.containerId = id := by
          refine hafter { p with containerId := id, selected := hne } ?_ shown hinspect
          rw [Dashboard.setSelectedContainerId, dif_neg hne, hpanel]
          rfl
        exact .inr ((hbefore p hp shown hinspect).symm.trans hselected)

theorem Inv.settleView (h : Inv d) (put : Put) {f : InspectView → InspectView}
    (hf : ∀ view, (f view).draft = view.draft ∨ (f view).draft = none) :
    Inv (d.settleView put f) where
  panel := by
    intro _ hp
    obtain ⟨old, hold, rfl⟩ := Option.map_eq_some_iff.mp hp
    refine (h.panel old hold).mapView fun view => ?_
    by_cases hsame : view.render = put.render
    · rw [if_pos hsame]
      exact hf view
    · rw [if_neg hsame]
      exact .inl rfl
  puts := h.puts

theorem maySelect_settleView (put : Put) (f : InspectView → InspectView) (id : String) :
    MaySelect (d.settleView put f) id ↔ MaySelect d id := by
  cases hpanel : d.panel <;> simp [MaySelect, Dashboard.settleView, Panel.mapView, hpanel]

theorem Inv.settling (h : Inv d) {i : Nat} {put : Put} {puts : Requests Put}
    (hanswer : d.puts.answer i = some (put, puts)) : Inv { d with puts := puts }.runEffects :=
  Inv.runEffects ⟨h.panel, fun put hput => h.puts put ((Requests.answer_eq_some hanswer).2 ▸ hput)⟩

/-- What the controls of the panel do: drafts start from what is shown, and a PUT
takes the draft of the container it names. -/
theorem inv_act (h : Inv d) {p : Panel} (hpanel : d.panel = some p) {e : Event}
    (hact : act d p e = some d') : Inv d'.runEffects.render := by
  have hown := h.panel p hpanel
  have hpanel_step : ∀ p' : Panel, p'.Sound → ∀ puts : Requests Put,
      (∀ put ∈ puts.sent, put.Own) →
      Inv { d with panel := some p', puts := puts }.runEffects.render := by
    intro p' hsound puts hputs
    refine inv_render ?_ hputs
    rintro _ ⟨⟩
    exact hsound.runEffects
  unfold act at hact
  split at hact
  · cases hact
    refine hpanel_step _ ?_ _ h.puts
    exact ⟨hown.shown, hown.drafts⟩
  · simp only [Option.bind_eq_bind, Option.bind_eq_some_iff] at hact
    obtain ⟨view, hview, shown, hshown, hact⟩ := hact
    split at hact
    · cases hact
    · cases hact
      refine hpanel_step _ ?_ _ h.puts
      refine ⟨hown.shown, ?_⟩
      rintro _ ⟨⟩ _ ⟨⟩
      exact hown.shown shown hshown
  · simp only [Option.bind_eq_bind, Option.bind_eq_some_iff] at hact
    obtain ⟨view, hview, draft, hdraft, hact⟩ := hact
    cases hact
    refine hpanel_step _ ?_ _ h.puts
    refine ⟨hown.shown, ?_⟩
    rintro _ ⟨⟩ _ ⟨⟩
    exact hown.drafts view hview draft hdraft
  · simp only [Option.bind_eq_bind, Option.bind_eq_some_iff] at hact
    obtain ⟨view, hview, hact⟩ := hact
    split at hact
    · cases hact
    · cases hact
      refine hpanel_step _ ?_ _ h.puts
      refine ⟨hown.shown, ?_⟩
      rintro _ ⟨⟩ _ ⟨⟩
  · simp only [Option.bind_eq_bind, Option.bind_eq_some_iff] at hact
    obtain ⟨view, hview, draft, hdraft, hact⟩ := hact
    split at hact
    · cases hact
    · cases hact
      have hread := hown.drafts view hview draft hdraft
      refine hpanel_step _ ?_ _ ?_
      · refine ⟨hown.shown, ?_⟩
        rintro _ ⟨⟩ _ hdraft'
        exact hown.drafts view hview _ hdraft'
      · intro put hput
        rcases List.mem_append.mp hput with hold | hnew
        · exact h.puts put hold
        · cases List.mem_singleton.mp hnew
          exact (Put.own_iff _).mpr hread
  · cases hact

theorem inv_step {e : Event} (h : Inv d) (horder : InOrder d e) (hstep : step d e = some d') :
    Inv d' := by
  cases e with
  | select id =>
      cases hstep
      refine inv_render (sound_select h.runEffects ((maySelect_runEffects id).mpr horder)) ?_
      rw [setSelectedContainerId_puts]
      exact h.puts
  | effects =>
      cases hstep
      exact h.runEffects.render
  | respond i result =>
      simp only [step, Option.bind_eq_bind, Option.bind_eq_some_iff] at hstep
      obtain ⟨p, hpanel, ⟨asked, requests⟩, hanswer, hstep⟩ := hstep
      cases hstep
      refine inv_render ?_ h.puts
      rintro _ ⟨⟩
      refine Panel.Sound.runEffects ?_
      have hown := h.panel p hpanel
      cases result with
      | ok inspect =>
          refine ⟨?_, hown.drafts⟩
          rintro _ ⟨⟩
          exact horder p hpanel asked (Requests.answer_eq_some hanswer).1
      | error err => exact ⟨by simp [Shown, Panel.settle], hown.drafts⟩
  | answered i result =>
      simp only [step, Option.bind_eq_bind, Option.bind_eq_some_iff] at hstep
      obtain ⟨⟨put, puts⟩, hanswer, hstep⟩ := hstep
      cases hstep
      have hsettling := h.settling hanswer
      cases result with
      | ok id =>
          have hview := hsettling.settleView put
            (f := fun view => { view with draft := none, saving := false }) fun _ => .inr rfl
          unfold Dashboard.settle
          dsimp only
          split
          · exact hview.render
          · refine inv_render (sound_select hview ?_) ?_
            · rw [maySelect_settleView, maySelect_runEffects]
              exact horder
            · rw [setSelectedContainerId_puts]
              exact hview.puts
      | error err =>
          exact (hsettling.settleView put
            (f := fun view => { view with error := some err, saving := false }) fun _ => .inl rfl).render
  | setActiveTab | startEditing | edit | cancelEditing | saveEnv =>
      simp only [step, Option.bind_eq_bind, Option.bind_eq_some_iff] at hstep
      obtain ⟨p, hpanel, hstep⟩ := hstep
      obtain ⟨acted, hact, rfl⟩ := Option.map_eq_some_iff.mp hstep
      exact inv_act h hpanel hact

theorem order_of_right {e : Event} (h : Inv d) (hright : Right d') (hstep : step d e = some d') :
    InOrder d e := by
  cases e with
  | select id =>
      cases hstep
      exact (maySelect_runEffects id).mp
        (maySelect_of_shown h.runEffects.right.shown (shown_of_render hright.shown))
  | respond i result =>
      cases result with
      | error err => trivial
      | ok inspect =>
          simp only [step, Option.bind_eq_bind, Option.bind_eq_some_iff] at hstep
          obtain ⟨p, hpanel, ⟨asked, requests⟩, hanswer, hstep⟩ := hstep
          cases hstep
          intro q hq asked' hasked'
          cases hpanel.symm.trans hq
          cases (Requests.answer_eq_some hanswer).1.symm.trans hasked'
          have hshown := shown_of_render hright.shown _ rfl
          exact (Panel.shown_congr Panel.runEffects_inspect Panel.runEffects_containerId).mp hshown
            _ rfl
  | answered i result =>
      cases result with
      | error err => trivial
      | ok id =>
          simp only [step, Option.bind_eq_bind, Option.bind_eq_some_iff] at hstep
          obtain ⟨⟨put, puts⟩, hanswer, hstep⟩ := hstep
          cases hstep
          by_cases hid : id = ""
          · exact .inl hid
          · have hview := (h.settling hanswer).settleView put
              (f := fun view => { view with draft := none, saving := false }) fun _ => .inr rfl
            have hshown := shown_of_render hright.shown
            simp only [Dashboard.settle, if_neg hid] at hshown
            have hmay := maySelect_of_shown hview.right.shown hshown
            rwa [maySelect_settleView, maySelect_runEffects] at hmay
  | effects | setActiveTab | startEditing | edit | cancelEditing | saveEnv => trivial

theorem inv_init : Inv machine.init where
  panel _ hp := by cases hp
  puts _ hput := by cases hput

theorem inv_run {events : List Event} (hrun : machine.Run InOrder events d) : Inv d :=
  hrun.invariant (I := Inv) inv_init fun _ _ _ => inv_step

/-- The panel holds the inspect data of the selected container and every PUT carries
the entries of the container it names, in every state, exactly in the runs in order. -/
theorem right_iff (events : List Event) (d : Dashboard)
    (hrun : machine.Run Machine.unguarded events d) :
    (∀ before after t, events = before ++ after →
        machine.Run Machine.unguarded before t → Right t) ↔ machine.Run InOrder events d :=
  hrun.always_iff (P := Right) inv_init.right fun _ _ _ _ hpast hstep =>
    ⟨fun horder => (inv_step (inv_run hpast) horder hstep).right,
      fun hright => order_of_right (inv_run hpast) hright hstep⟩

/-! ### Sessions -/

def shopInspect : ContainerInspect := ⟨"/shop", some ["DB=shop", "LOG"]⟩

def blogInspect : ContainerInspect := ⟨"/blog", some ["DB=blog"]⟩

def editSession : List Event :=
  [.select "shop", .effects, .setActiveTab .inspect, .respond 0 (.ok shopInspect), .startEditing,
    .edit (.updateEnvValue 0 "test"), .saveEnv, .select "", .answered 0 (.ok "shop-2")]

def lateAnswer : List Event :=
  [.select "shop", .effects, .setActiveTab .inspect, .select "blog", .effects,
    .respond 1 (.ok blogInspect), .respond 0 (.ok shopInspect), .startEditing, .saveEnv]

theorem right_edited :
    ∃ d, machine.Run InOrder editSession d ∧
      ∀ before after t, editSession = before ++ after →
        machine.Run Machine.unguarded before t → Right t := by
  have hrun := Machine.run_of_runGuarded machine InOrder editSession rfl
  exact ⟨_, hrun, (right_iff _ _ hrun.unguard).mpr hrun⟩

/-- The container selected is created again with the environment of the one left. -/
theorem lateAnswer_not_right :
    ∃ d, machine.Run Machine.unguarded lateAnswer d ∧
      d.selectedContainerId = some "blog" ∧ d.panel.map Panel.containerName = some "shop" ∧
      (d.puts.sent.map fun put => (put.containerId, put.env)) =
        [("blog", saved (envVars shopInspect))] ∧ ¬ Right d := by
  have hrun := Machine.run_of_runGuarded machine Machine.unguarded lateAnswer rfl
  refine ⟨_, hrun, rfl, rfl, rfl, fun hright => ?_⟩
  have hown := (Put.own_iff _).mp (hright.puts _ List.mem_cons_self)
  exact absurd hown (by decide)

end Wiremap.Client.ContainerPanel
