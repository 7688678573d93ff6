import Mathlib.Logic.Function.Basic
import Wiremap.Service.ContainerService

/-! When a failed environment update leaves the container in place.  From the remove to the start
the user's container exists in memory only. -/
namespace Wiremap.Service.ContainerService

open Wiremap.Library Wiremap.Library.Stateful

section

variable {σ : Type} {docker : Docker σ} {faults : Faults} {s s' : σ} {id : ContainerID}
  {info : Container} {env : List String}

def Docker.shows (docker : Docker σ) (s : σ) (id : ContainerID) : Option Identity :=
  (docker.container s id).map Container.toIdentity

/-- The daemon has a container of this name, image and set-up. -/
def Docker.Keeps (docker : Docker σ) (s : σ) (original : Identity) : Prop :=
  ∃ id, docker.shows s id = some original

/-- A failed update of `info` leaves it in place: it fails before the container is gone, or
recreates it and, failing to start it, has changed nothing else. -/
def Recovers (docker : Docker σ) (faults : Faults) (s : σ) (info : Container)
    (env : List String) : Prop :=
  faults.host ≠ none ∨ faults.inspect ≠ none ∨ faults.stop ≠ none ∨
    (faults.remove ≠ none ∧ ¬info.Ephemeral) ∨
    (faults.remove = none ∧ faults.create = none ∧ (faults.start = none ∨
      info.hostConfig.autoRemove = false ∧ env = info.config.env ∧
        docker.imageID s info.config.image = info.image))

/-! ### Single calls -/

theorem call_error (err action : String) (run : σ → α × σ) (s : σ) :
    call (some err) action run s = .error (.internal s!"failed to {action}: {err}") (run s).2 := rfl

theorem call_ok (action : String) (run : σ → α × σ) (s : σ) :
    call none action run s = .ok (run s).1 (run s).2 := rfl

theorem reconnect_ok (h : docker.Documented) (faults : Faults) (id : ContainerID)
    (networks : List (String × EndpointSettings)) (s : σ) :
    ∃ s', reconnect docker faults id networks s = .ok () s' ∧
      ∀ other, docker.shows s' other = docker.shows s other := by
  induction networks generalizing s with
  | nil => exact ⟨s, rfl, fun _ => rfl⟩
  | cons network rest ih =>
      obtain ⟨s', hrest, hshows⟩ := ih (docker.networkConnect
        (faults.networkConnect network.2.networkID) network.2.networkID id network.2 s)
      exact ⟨s', hrest, fun other => (hshows other).trans (h.connected _ _ _ _ _ other)⟩

/-! ### The container is gone -/

structure Gone (docker : Docker σ) (id : ContainerID) (s s' : σ) : Prop where
  gone : docker.container s' id = none
  others : ∀ other, other ≠ id → docker.container s' other = docker.container s other

theorem Gone.name_ne (hgone : Gone docker id s s') (h : docker.Documented)
    (hfind : docker.container s id = some info) {other : ContainerID} {c : Container}
    (hc : docker.container s' other = some c) : c.name ≠ info.name := by
  intro hname
  have hother : other ≠ id := by
    rintro rfl
    cases hgone.gone.symm.trans hc
  rw [hgone.others other hother] at hc
  exact hother (h.uniqueNames s other id c info hc hfind hname)

theorem Gone.not_keeps (hgone : Gone docker id s s') (h : docker.Documented)
    (hfind : docker.container s id = some info) : ¬docker.Keeps s' info.toIdentity := by
  rintro ⟨other, hshows⟩
  obtain ⟨c, hc, hsame⟩ := Option.map_eq_some_iff.mp hshows
  exact hgone.name_ne h hfind hc (congrArg Identity.name hsame)

theorem remove_gone (h : docker.Documented) (hs : ∀ other, other ≠ id →
    docker.container s' other = docker.container s other) :
    Gone docker id s (docker.remove none id s') where
  gone := h.removed id s'
  others other hother := (h.remove_other none id s' other hother).trans (hs other hother)

/-! ### From the remove on -/

theorem keeps_start_iff (h : docker.Documented) (err : String) {created : ContainerID}
    {original new : Identity} (hfree : ∀ other, other ≠ created → ∀ i, docker.shows s other = some i →
      i.name ≠ original.name)
    (hcreated : docker.shows s created = some new) :
    docker.Keeps (docker.start (some err) created s) original ↔
      new.hostConfig.autoRemove = false ∧ new = original := by
  obtain ⟨c, hc, rfl⟩ := Option.map_eq_some_iff.mp hcreated
  have hothers : ∀ other, other ≠ created →
      docker.shows (docker.start (some err) created s) other ≠ some original := by
    intro other hother hshows
    rw [Docker.shows, h.start_other _ _ _ _ hother] at hshows
    exact hfree other hother original hshows rfl
  constructor
  · rintro ⟨other, hshows⟩
    by_cases hother : other = created
    · subst hother
      cases hauto : c.hostConfig.autoRemove with
      | true =>
          rw [Docker.shows, h.start_autoRemove err other s c hc hauto] at hshows
          cases hshows
      | false =>
          rw [Docker.shows, h.start_failed err other s c hc hauto] at hshows
          exact ⟨rfl, Option.some.inj hshows⟩
    · exact absurd hshows (hothers other hother)
  · rintro ⟨hauto, rfl⟩
    exact ⟨created, h.start_failed err created s c hc hauto⟩

theorem keeps_recreate_iff (h : docker.Documented) (hfind : docker.container s id = some info)
    (hgone : Gone docker id s s') (himage : docker.imageID s' = docker.imageID s) :
    (∀ err t, recreate docker faults { info with name := "/" ++ info.name } env s' = .error err t →
        docker.Keeps t info.toIdentity) ↔
      faults.create = none ∧ (faults.start = none ∨ info.hostConfig.autoRemove = false ∧
        env = info.config.env ∧ docker.imageID s info.config.image = info.image) := by
  unfold recreate
  simp only [Text.trimPrefix_append]
  cases hcreate : faults.create with
  | some err =>
      have hkept : ∀ other, docker.container (docker.create (some err)
          { info.config with env := env } info.hostConfig info.name s').2 other =
            docker.container s' other := h.create_failed err _ _ _ s'
      have hfailed : Gone docker id s (docker.create (some err) { info.config with env := env }
          info.hostConfig info.name s').2 :=
        ⟨(hkept id).trans hgone.gone, fun other hother =>
          (hkept other).trans (hgone.others other hother)⟩
      refine iff_of_false (fun hall => hfailed.not_keeps h hfind ?_) (fun hnone => nomatch hnone.1)
      exact hall _ _ (bind_error (call_error _ _ _ _))
  | none =>
      have hcreated := h.created { info.config with env := env } info.hostConfig info.name s'
        fun other c hc => hgone.name_ne h hfind hc
      have hothers := h.create_other { info.config with env := env } info.hostConfig info.name s'
      obtain ⟨t, hreconnect, hshows⟩ := reconnect_ok h faults
        (docker.create none { info.config with env := env } info.hostConfig info.name s').1
        info.networks (docker.create none { info.config with env := env } info.hostConfig
          info.name s').2
      rw [bind_ok (call_ok _ _ _), bind_ok hreconnect]
      cases hstart : faults.start with
      | none =>
          refine iff_of_true (fun err u hrun => ?_) ⟨rfl, .inl rfl⟩
          rw [bind_ok (call_ok _ _ _)] at hrun
          cases hrun
      | some err =>
          have hfree : ∀ other, other ≠ (docker.create none { info.config with env := env }
              info.hostConfig info.name s').1 → ∀ i, docker.shows t other = some i →
                i.name ≠ info.name := by
            intro other hother i hi
            rw [hshows, Docker.shows, hothers other hother] at hi
            obtain ⟨c, hc, rfl⟩ := Option.map_eq_some_iff.mp hi
            exact hgone.name_ne h hfind hc
          have hkeeps := keeps_start_iff h err hfree ((hshows _).trans hcreated)
          have herror := call_error err "start container" (fun u =>
            ((), docker.start (some err) (docker.create none { info.config with env := env }
              info.hostConfig info.name s').1 u)) t
          rw [himage] at hkeeps
          constructor
          · intro hall
            obtain ⟨hauto, hsame⟩ := hkeeps.mp (hall _ _ (bind_error herror))
            exact ⟨rfl, .inr ⟨hauto, congrArg (fun i => i.config.env) hsame,
              congrArg Identity.image hsame⟩⟩
          · rintro ⟨-, hnone | ⟨hauto, rfl, hid⟩⟩
            · cases hnone
            · exact forall_error (bind_error herror) (hkeeps.mpr ⟨hauto, by rw [hid]⟩)

theorem keeps_remove_iff (h : docker.Documented) (hfind : docker.container s id = some info) :
    (∀ err t, (do
          call faults.remove "remove container" fun u => ((), docker.remove faults.remove id u)
          recreate docker faults { info with name := "/" ++ info.name } env)
          (docker.stop none id s) = .error err t → docker.Keeps t info.toIdentity) ↔
      (faults.remove ≠ none ∧ ¬info.Ephemeral) ∨
      (faults.remove = none ∧ faults.create = none ∧ (faults.start = none ∨
        info.hostConfig.autoRemove = false ∧ env = info.config.env ∧
          docker.imageID s info.config.image = info.image)) := by
  cases hremove : faults.remove with
  | none =>
      have hgone := remove_gone h fun other hother => h.stop_other none id s other hother
      have himage : docker.imageID (docker.remove none id (docker.stop none id s)) =
          docker.imageID s := (h.remove_imageID _ _ _).trans (h.stop_imageID _ _ _)
      rw [bind_ok (call_ok _ _ _), keeps_recreate_iff h hfind hgone himage]
      simp
  | some err =>
      have herror := call_error err "remove container"
        (fun u => ((), docker.remove (some err) id u)) (docker.stop none id s)
      have hsame := h.remove_failed err id (docker.stop none id s)
      by_cases hephemeral : info.Ephemeral
      · have hgone : Gone docker id s (docker.remove (some err) id (docker.stop none id s)) :=
          ⟨hsame.trans (h.stop_ephemeral id s info hfind hephemeral), fun other hother =>
            (h.remove_other _ _ _ _ hother).trans (h.stop_other _ _ _ _ hother)⟩
        refine iff_of_false (fun hall => hgone.not_keeps h hfind (hall _ _ (bind_error herror))) ?_
        rintro (⟨-, hnot⟩ | ⟨hnone, -⟩)
        · exact hnot hephemeral
        · cases hnone
      · refine iff_of_true (forall_error (bind_error herror) ⟨id, ?_⟩) (.inl ⟨by simp, hephemeral⟩)
        rw [Docker.shows, hsame, h.stopped id s info hfind hephemeral]
        rfl

end

/-! ### A daemon -/

structure Daemon where
  container : ContainerID → Option Container
  imageID : String → String
  nextID : ContainerID
  unique : ∀ id id' c c', container id = some c → container id' = some c' → c.name = c'.name →
    id = id'
  fresh : ∀ id, nextID ≤ id → container id = none

namespace Daemon

structure Edit where
  apply : Container → Container
  identity : ∀ c, (apply c).toIdentity = c.toIdentity

def stopped : Edit := ⟨fun c => { c with running := false }, fun _ => rfl⟩

def started : Edit := ⟨fun c => { c with running := true }, fun _ => rfl⟩

def attached (network : String) (settings : EndpointSettings) : Edit :=
  ⟨fun c => { c with networks := c.networks ++ [(network, settings)] }, fun _ => rfl⟩

def shown (d : Daemon) (id : ContainerID) : Option Identity :=
  (d.container id).map Container.toIdentity

theorem shown_update (d : Daemon) (id : ContainerID) (edit : Edit) (other : ContainerID) :
    (Function.update d.container id ((d.container id).map edit.apply) other).map
      Container.toIdentity = d.shown other := by
  by_cases hother : other = id
  · subst hother
    rw [Function.update_self, Option.map_map, shown]
    exact congrArg (Option.map · _) (funext edit.identity)
  · rw [Function.update_of_ne hother, shown]

def edit (d : Daemon) (id : ContainerID) (edit : Edit) : Daemon where
  container := Function.update d.container id ((d.container id).map edit.apply)
  imageID := d.imageID
  nextID := d.nextID
  unique := by
    intro i j c c' hc hc' hname
    have hi := shown_update d id edit i
    have hj := shown_update d id edit j
    rw [hc] at hi
    rw [hc'] at hj
    obtain ⟨a, ha, hac⟩ := Option.map_eq_some_iff.mp hi.symm
    obtain ⟨b, hb, hbc⟩ := Option.map_eq_some_iff.mp hj.symm
    refine d.unique i j a b ha hb ?_
    rw [congrArg Identity.name hac, hname, congrArg Identity.name hbc]
  fresh := by
    intro i hi
    have hshown := shown_update d id edit i
    rw [shown, d.fresh i hi] at hshown
    exact Option.map_eq_none_iff.mp hshown

def erase (d : Daemon) (id : ContainerID) : Daemon where
  container := Function.update d.container id none
  imageID := d.imageID
  nextID := d.nextID
  unique := by
    intro i j c c' hc hc' hname
    have hold : ∀ k a, Function.update d.container id none k = some a →
        d.container k = some a := by
      intro k a ha
      by_cases hk : k = id
      · simp [hk] at ha
      · rwa [Function.update_of_ne hk] at ha
    exact d.unique i j c c' (hold i c hc) (hold j c' hc') hname
  fresh := by
    intro i hi
    by_cases h : i = id
    · rw [h, Function.update_self]
    · rw [Function.update_of_ne h, d.fresh i hi]

def Free (d : Daemon) (name : String) : Prop :=
  ∀ id < d.nextID, ∀ c ∈ d.container id, c.name ≠ name

instance (d : Daemon) (name : String) : Decidable (d.Free name) :=
  inferInstanceAs (Decidable (∀ id < d.nextID, ∀ c ∈ d.container id, c.name ≠ name))

theorem Free.name_ne {d : Daemon} {name : String} (h : d.Free name) {id : ContainerID}
    {c : Container} (hc : d.container id = some c) : c.name ≠ name := by
  refine h id (Nat.lt_of_not_le fun hle => ?_) c hc
  cases hc.symm.trans (d.fresh id hle)

def add (d : Daemon) (c : Container) (hname : d.Free c.name) : Daemon where
  container := Function.update d.container d.nextID (some c)
  imageID := d.imageID
  nextID := d.nextID + 1
  unique := by
    intro i j a b ha hb hsame
    by_cases hi : i = d.nextID <;> by_cases hj : j = d.nextID
    · rw [hi, hj]
    · subst hi
      rw [Function.update_self] at ha
      rw [Function.update_of_ne hj] at hb
      exact absurd (Option.some.inj ha ▸ hsame.symm) (hname.name_ne hb)
    · subst hj
      rw [Function.update_of_ne hi] at ha
      rw [Function.update_self] at hb
      exact absurd (Option.some.inj hb ▸ hsame) (hname.name_ne ha)
    · rw [Function.update_of_ne hi] at ha
      rw [Function.update_of_ne hj] at hb
      exact d.unique i j a b ha hb hsame
  fresh := by
    intro i hi
    rw [Function.update_of_ne (Nat.ne_of_gt hi)]
    exact d.fresh i (Nat.le_of_succ_le hi)

/-- A container is left where it is by a call that fails, but for one that removes itself. -/
def docker : Docker Daemon where
  container := container
  imageID := imageID
  stop fault id d :=
    match fault with
    | some _ => d
    | none => if ∃ c ∈ d.container id, c.Ephemeral then d.erase id else d.edit id stopped
  remove fault id d :=
    match fault with
    | some _ => d
    | none => d.erase id
  create fault config hostConfig name d :=
    match fault with
    | some _ => (d.nextID, d)
    | none =>
        if hname : d.Free name then
          (d.nextID, d.add ⟨⟨name, d.imageID config.image, config, hostConfig⟩, [], false⟩ hname)
        else (d.nextID, d)
  networkConnect fault network id settings d :=
    match fault with
    | some _ => d
    | none => d.edit id (attached network settings)
  start fault id d :=
    match fault with
    | some _ => if ∃ c ∈ d.container id, c.hostConfig.autoRemove then d.erase id else d
    | none => d.edit id started

theorem container_edit_other {d : Daemon} {id other : ContainerID} (change : Edit)
    (h : other ≠ id) : (d.edit id change).container other = d.container other :=
  Function.update_of_ne h _ _

theorem container_edit_self {d : Daemon} {id : ContainerID} {c : Container} (change : Edit)
    (h : d.container id = some c) : (d.edit id change).container id = some (change.apply c) :=
  (Function.update_self _ _ _).trans (congrArg (Option.map change.apply) h)

theorem container_erase_other {d : Daemon} {id other : ContainerID} (h : other ≠ id) :
    (d.erase id).container other = d.container other := Function.update_of_ne h _ _

theorem container_erase_self (d : Daemon) (id : ContainerID) : (d.erase id).container id = none :=
  Function.update_self _ _ _

theorem container_add_other {d : Daemon} {c : Container} (hname : d.Free c.name)
    {id : ContainerID} (h : id ≠ d.nextID) : (d.add c hname).container id = d.container id :=
  Function.update_of_ne h _ _

theorem container_add_self {d : Daemon} {c : Container} (hname : d.Free c.name) :
    (d.add c hname).container d.nextID = some c := Function.update_self _ _ _

theorem stop_eq {d : Daemon} {id : ContainerID} {c : Container} (h : d.container id = some c) :
    docker.stop none id d = if c.Ephemeral then d.erase id else d.edit id stopped := by
  simp only [docker, h, Option.mem_some_iff, exists_eq_left']

theorem start_failed_eq {d : Daemon} {id : ContainerID} {c : Container} (err : String)
    (h : d.container id = some c) :
    docker.start (some err) id d = if c.hostConfig.autoRemove then d.erase id else d := by
  simp only [docker, h, Option.mem_some_iff, exists_eq_left']

theorem create_eq {d : Daemon} {name : String} (hname : d.Free name) (config : ContainerConfig)
    (hostConfig : HostConfig) : docker.create none config hostConfig name d =
      (d.nextID, d.add ⟨⟨name, d.imageID config.image, config, hostConfig⟩, [], false⟩ hname) :=
  dif_pos hname

theorem documented : docker.Documented where
  uniqueNames d := d.unique
  stop_other fault id d other h := by
    dsimp only [docker]
    split
    · rfl
    · split
      · exact container_erase_other h
      · exact container_edit_other _ h
  stop_failed _ _ _ := rfl
  stopped id d c hc h := by
    rw [stop_eq hc, if_neg h]
    exact container_edit_self stopped hc
  stop_ephemeral id d c hc h := by
    rw [stop_eq hc, if_pos h]
    exact container_erase_self d id
  stop_imageID fault id d := by
    dsimp only [docker]
    split
    · rfl
    · split <;> rfl
  remove_other fault id d other h := by
    dsimp only [docker]
    split
    · rfl
    · exact container_erase_other h
  remove_failed _ _ _ := rfl
  removed id d := container_erase_self d id
  remove_imageID fault id d := by
    dsimp only [docker]
    split <;> rfl
  create_failed _ _ _ _ _ _ := rfl
  create_other config hostConfig name d id h := by
    by_cases hname : d.Free name
    · have hne : id ≠ d.nextID := by rwa [create_eq hname] at h
      rw [create_eq hname]
      exact container_add_other hname hne
    · dsimp only [docker]
      rw [dif_neg hname]
  created config hostConfig name d h := by
    have hname : d.Free name := fun id _ c hc => h id c hc
    rw [create_eq hname]
    exact congrArg (Option.map Container.toIdentity) (container_add_self hname)
  connected fault network id settings d other := by
    dsimp only [docker]
    split
    · rfl
    · exact shown_update d id (attached network settings) other
  start_other fault id d other h := by
    dsimp only [docker]
    split
    · split
      · exact container_erase_other h
      · rfl
    · exact container_edit_other _ h
  start_failed err id d c hc h := by
    rw [start_failed_eq err hc, if_neg (by simp [h])]
    exact congrArg (Option.map _) hc
  start_autoRemove err id d c hc h := by
    rw [start_failed_eq err hc, if_pos h]
    exact container_erase_self d id

end Daemon

/-! ### A web server -/

def noFaults : Faults := ⟨none, none, none, none, none, fun _ => none, none⟩

def webContainer : Container :=
  ⟨⟨"web", "sha256:1", ⟨"nginx:1.25", ["MODE=dev"], ""⟩, ⟨false, ""⟩⟩, [("front", ⟨"net1", ""⟩)],
    true⟩

def webDaemon : Daemon where
  container id := if id = 7 then some webContainer else none
  imageID _ := "sha256:1"
  nextID := 8
  unique i j c c' hc hc' _ := by
    simp only [Option.ite_none_right_eq_some] at hc hc'
    rw [hc.1, hc'.1]
  fresh id h := if_neg (Nat.ne_of_gt h)

end Wiremap.Service.ContainerService
