import Wiremap.Library.KeyedPolls
import Wiremap.Library.Machine
import Wiremap.Library.Text
import Wiremap.Service.DockerLists

/-! The lists of a Docker host that the dashboard polls, with the server and the daemon behind.
An answer is only taken over where its key is another than that of what is shown. -/
namespace Wiremap.Client.DockerDashboard

open Wiremap.Library Wiremap.Library.KeyedPolls Wiremap.Service.DockerLists

/-! ### The hooks -/

/-- `seen` is the last change that an answer knows of, where it tells all there was then. -/
structure Hook (α : Type) where
  data : α
  loading : Bool := true
  error : Option String := none
  initialLoad : Bool := true
  seen : Option Nat := none

namespace Hook

variable {α : Type}

def refresh (h : Hook α) : Hook α := { h with loading := h.initialLoad || h.loading }

def settle (key : α → String) (h : Hook α) (seen : Option Nat) : Except String α → Hook α
  | .ok data =>
      { data := adopt key h.data data, loading := false, error := none, initialLoad := false
        seen := seen }
  | .error message =>
      { h with loading := false, error := some message, initialLoad := false, seen := none }

end Hook

/-- `useContainers` tells lists apart by this. -/
def containersKey (containers : List ContainerListItem) : String :=
  Text.join ',' (containers.map fun c => c.id ++ ":" ++ c.state)

def networksKey (networks : List NetworkDto) : String :=
  Text.join ',' (networks.map NetworkDto.id)

/-! ### The page -/

inductive ContainersRequest where
  | sent
  | answered (seen : Option Nat) (answer : Except String (List ContainerListItem))

/-- The networks are listed and then inspected one at a time; `whole` while none of them was
sent as it was listed. -/
inductive NetworksRequest where
  | sent
  | inspecting (change : Nat) (whole : Bool) (done : List NetworkDto) (todo : List Network)
  | answered (seen : Option Nat) (answer : Except String (List NetworkDto))

structure Dashboard where
  daemon : Daemon := {}
  changes : Nat := 0
  containers : Hook (List ContainerListItem) := { data := [] }
  networks : Hook (List NetworkDto) := { data := [] }
  containersRequests : List ContainersRequest := [.sent]
  networksRequests : List NetworksRequest := [.sent]

inductive Event where
  /-- Anything happens to the containers and networks of the host. -/
  | change (d : Daemon)
  | pollContainers
  | pollNetworks
  | listContainers (i : Nat)
  | failContainers (i : Nat) (message : String)
  | containersAnswered (i : Nat)
  | listNetworks (i : Nat)
  | inspectNetwork (i : Nat) (ok : Bool)
  | respondNetworks (i : Nat)
  | failNetworks (i : Nat) (message : String)
  | networksAnswered (i : Nat)

namespace Dashboard

def setContainers (s : Dashboard) (i : Nat) (r : ContainersRequest) : Dashboard :=
  { s with containersRequests := s.containersRequests.set i r }

def setNetworks (s : Dashboard) (i : Nat) (r : NetworksRequest) : Dashboard :=
  { s with networksRequests := s.networksRequests.set i r }

/-- A network that cannot be inspected is sent as it was listed. -/
def inspect (s : Dashboard) (n : Network) (ok : Bool) : NetworkDto :=
  if ok then inspected s.daemon n else toDto n

def containersAnswered (s : Dashboard) (i : Nat) (seen : Option Nat)
    (answer : Except String (List ContainerListItem)) : Dashboard :=
  { s with
    containers := s.containers.settle containersKey seen answer
    containersRequests := s.containersRequests.eraseIdx i }

def networksAnswered (s : Dashboard) (i : Nat) (seen : Option Nat)
    (answer : Except String (List NetworkDto)) : Dashboard :=
  { s with
    networks := s.networks.settle networksKey seen answer
    networksRequests := s.networksRequests.eraseIdx i }

end Dashboard

def step (s : Dashboard) : Event → Option Dashboard
  | .change d => some { s with daemon := d, changes := s.changes + 1 }
  | .pollContainers =>
      some { s with
        containers := s.containers.refresh
        containersRequests := s.containersRequests ++ [.sent] }
  | .pollNetworks =>
      some { s with
        networks := s.networks.refresh
        networksRequests := s.networksRequests ++ [.sent] }
  | .listContainers i =>
      match s.containersRequests[i]? with
      | some .sent =>
          some (s.setContainers i (.answered (some s.changes) (.ok (listContainers s.daemon))))
      | _ => none
  | .failContainers i message =>
      match s.containersRequests[i]? with
      | some .sent => some (s.setContainers i (.answered none (.error message)))
      | _ => none
  | .containersAnswered i =>
      match s.containersRequests[i]? with
      | some (.answered seen answer) => some (s.containersAnswered i seen answer)
      | _ => none
  | .listNetworks i =>
      match s.networksRequests[i]? with
      | some .sent => some (s.setNetworks i (.inspecting s.changes true [] s.daemon.networkList))
      | _ => none
  | .inspectNetwork i ok =>
      match s.networksRequests[i]? with
      | some (.inspecting change whole done (n :: todo)) =>
          some (s.setNetworks i (.inspecting change (whole && ok) (done ++ [s.inspect n ok]) todo))
      | _ => none
  | .respondNetworks i =>
      match s.networksRequests[i]? with
      | some (.inspecting change whole done []) =>
          some (s.setNetworks i (.answered (if whole then some change else none) (.ok done)))
      | _ => none
  | .failNetworks i message =>
      match s.networksRequests[i]? with
      | some .sent | some (.inspecting _ _ _ _) =>
          some (s.setNetworks i (.answered none (.error message)))
      | _ => none
  | .networksAnswered i =>
      match s.networksRequests[i]? with
      | some (.answered seen answer) => some (s.networksAnswered i seen answer)
      | _ => none

def machine : Machine Dashboard Event where
  init := {}
  step := step

def Admitted (_ : Dashboard) : Event → Prop
  | .change d => (d.networks.map Network.id).Nodup
  | _ => True

/-- Both lists have been answered since the last change, and whole. -/
structure Current (s : Dashboard) : Prop where
  containers : s.containers.seen = some s.changes
  networks : s.networks.seen = some s.changes

/-! ### What an answer tells -/

variable {s s' : Dashboard} {i : Nat}

def ContainersRequest.Sound (s : Dashboard) : ContainersRequest → Prop
  | .answered (some seen) (.ok items) =>
      seen ≤ s.changes ∧ (seen = s.changes → items = Service.DockerLists.listContainers s.daemon)
  | _ => True

def NetworksRequest.Sound (s : Dashboard) : NetworksRequest → Prop
  | .sent => True
  | .inspecting change whole done todo =>
      change ≤ s.changes ∧ (done.map NetworkDto.id ++ todo.map Network.id).Nodup ∧
        (change = s.changes → whole = true →
          done ++ todo.map (inspected s.daemon) = Service.DockerLists.listNetworks s.daemon)
  | .answered seen answer => ∀ items, answer = .ok items → (items.map NetworkDto.id).Nodup ∧
      ∀ change ∈ seen, change ≤ s.changes ∧
        (change = s.changes → items = Service.DockerLists.listNetworks s.daemon)

theorem NetworksRequest.sound_error (message : String) :
    (NetworksRequest.answered none (.error message)).Sound s := by
  intro items hitems
  cases hitems

structure Sound (s : Dashboard) : Prop where
  daemon : (s.daemon.networks.map Network.id).Nodup
  containers : ∀ change ∈ s.containers.seen, change ≤ s.changes ∧ (change = s.changes →
    containersKey s.containers.data = containersKey (listContainers s.daemon))
  networks : ∀ change ∈ s.networks.seen, change ≤ s.changes ∧ (change = s.changes →
    networksKey s.networks.data = networksKey (listNetworks s.daemon))
  nodup : (s.networks.data.map NetworkDto.id).Nodup
  containersRequests : ∀ r ∈ s.containersRequests, r.Sound s
  networksRequests : ∀ r ∈ s.networksRequests, r.Sound s

theorem Sound.change (h : Sound s) {d : Daemon} (hd : (d.networks.map Network.id).Nodup) :
    Sound { s with daemon := d, changes := s.changes + 1 } where
  daemon := hd
  containers change hchange := by
    have hle := (h.containers change hchange).1
    exact ⟨Nat.le_succ_of_le hle, fun heq => absurd hle (heq ▸ Nat.not_succ_le_self _)⟩
  networks change hchange := by
    have hle := (h.networks change hchange).1
    exact ⟨Nat.le_succ_of_le hle, fun heq => absurd hle (heq ▸ Nat.not_succ_le_self _)⟩
  nodup := h.nodup
  containersRequests r hr := by
    have hsound := h.containersRequests r hr
    unfold ContainersRequest.Sound at hsound ⊢
    split
    · obtain ⟨hle, -⟩ := hsound
      exact ⟨Nat.le_succ_of_le hle, fun heq => absurd hle (heq ▸ Nat.not_succ_le_self _)⟩
    · trivial
  networksRequests r hr := by
    have hsound := h.networksRequests r hr
    cases r with
    | sent => trivial
    | inspecting change whole done todo =>
        obtain ⟨hle, hnodup, -⟩ := hsound
        exact ⟨Nat.le_succ_of_le hle, hnodup,
          fun heq => absurd hle (heq ▸ Nat.not_succ_le_self _)⟩
    | answered seen answer =>
        intro items hitems
        obtain ⟨hnodup, hseen⟩ := hsound items hitems
        refine ⟨hnodup, fun change hchange => ?_⟩
        have hle := (hseen change hchange).1
        exact ⟨Nat.le_succ_of_le hle, fun heq => absurd hle (heq ▸ Nat.not_succ_le_self _)⟩

theorem Sound.setContainers (h : Sound s) {r : ContainersRequest} (hr : r.Sound s) :
    Sound (s.setContainers i r) := by
  refine { h with containersRequests := fun r' hr' => ?_ }
  rcases List.mem_or_eq_of_mem_set hr' with hold | rfl
  · exact h.containersRequests r' hold
  · exact hr

theorem Sound.setNetworks (h : Sound s) {r : NetworksRequest} (hr : r.Sound s) :
    Sound (s.setNetworks i r) := by
  refine { h with networksRequests := fun r' hr' => ?_ }
  rcases List.mem_or_eq_of_mem_set hr' with hold | rfl
  · exact h.networksRequests r' hold
  · exact hr

theorem Sound.containersAnswered (h : Sound s) {seen : Option Nat}
    {answer : Except String (List ContainerListItem)}
    (hr : s.containersRequests[i]? = some (.answered seen answer)) :
    Sound (s.containersAnswered i seen answer) := by
  have hsound := h.containersRequests _ (List.mem_of_getElem? hr)
  have hrest : ∀ r ∈ s.containersRequests.eraseIdx i, r.Sound s := fun r hmem =>
    h.containersRequests r (List.mem_of_mem_eraseIdx hmem)
  cases answer with
  | error message => exact { h with containersRequests := hrest, containers := nofun }
  | ok items =>
      refine { h with containersRequests := hrest, containers := fun change hchange => ?_ }
      obtain rfl : seen = some change := hchange
      obtain ⟨hle, hitems⟩ := hsound
      refine ⟨hle, fun heq => ?_⟩
      exact (key_adopt containersKey).trans (congrArg containersKey (hitems heq))

theorem Sound.networksAnswered (h : Sound s) {seen : Option Nat}
    {answer : Except String (List NetworkDto)}
    (hr : s.networksRequests[i]? = some (.answered seen answer)) :
    Sound (s.networksAnswered i seen answer) := by
  have hsound := h.networksRequests _ (List.mem_of_getElem? hr)
  have hrest : ∀ r ∈ s.networksRequests.eraseIdx i, r.Sound s := fun r hmem =>
    h.networksRequests r (List.mem_of_mem_eraseIdx hmem)
  cases answer with
  | error message => exact { h with networksRequests := hrest, networks := nofun }
  | ok items =>
      obtain ⟨hnodup, hseen⟩ := hsound items rfl
      refine { h with networksRequests := hrest, networks := fun change hchange => ?_, nodup := ?_ }
      · obtain ⟨hle, hitems⟩ := hseen change hchange
        refine ⟨hle, fun heq => ?_⟩
        exact (key_adopt networksKey).trans (congrArg networksKey (hitems heq))
      · rcases adopt_cases networksKey s.networks.data items with hshown | hshown
        · exact (congrArg (fun data => (data.map NetworkDto.id).Nodup) hshown).mpr h.nodup
        · exact (congrArg (fun data => (data.map NetworkDto.id).Nodup) hshown).mpr hnodup

theorem Sound.inspect (h : Sound s) {change : Nat} {whole ok : Bool} {done : List NetworkDto}
    {n : Network} {todo : List Network}
    (hr : s.networksRequests[i]? = some (.inspecting change whole done (n :: todo))) :
    Sound (s.setNetworks i (.inspecting change (whole && ok) (done ++ [s.inspect n ok]) todo)) := by
  obtain ⟨hle, hnodup, htold⟩ := h.networksRequests _ (List.mem_of_getElem? hr)
  have hid : (s.inspect n ok).id = n.id := by
    unfold Dashboard.inspect
    split
    · exact id_inspected s.daemon n
    · rfl
  refine h.setNetworks ⟨hle, ?_, fun heq hwhole => ?_⟩
  · rw [List.map_append, List.map_singleton, hid, List.append_assoc]
    exact hnodup
  · rw [Bool.and_eq_true] at hwhole
    rw [← htold heq hwhole.1, Dashboard.inspect, if_pos hwhole.2, List.append_assoc]
    rfl

theorem sound_step {e : Event} (h : Sound s) (hadmitted : Admitted s e)
    (hstep : step s e = some s') : Sound s' := by
  cases e with
  | change d =>
      obtain rfl := Option.some.inj hstep
      exact h.change hadmitted
  | pollContainers =>
      obtain rfl := Option.some.inj hstep
      refine { h with containersRequests := fun r hr => ?_ }
      rcases List.mem_append.mp hr with hold | hnew
      · exact h.containersRequests r hold
      · obtain rfl := List.mem_singleton.mp hnew
        trivial
  | pollNetworks =>
      obtain rfl := Option.some.inj hstep
      refine { h with networksRequests := fun r hr => ?_ }
      rcases List.mem_append.mp hr with hold | hnew
      · exact h.networksRequests r hold
      · obtain rfl := List.mem_singleton.mp hnew
        trivial
  | listContainers i =>
      unfold step at hstep
      dsimp only at hstep
      split at hstep <;> cases hstep
      exact h.setContainers ⟨Nat.le_refl _, fun _ => rfl⟩
  | failContainers i message =>
      unfold step at hstep
      dsimp only at hstep
      split at hstep <;> cases hstep
      exact h.setContainers trivial
  | containersAnswered i =>
      unfold step at hstep
      dsimp only at hstep
      split at hstep <;> cases hstep
      exact h.containersAnswered ‹_›
  | listNetworks i =>
      unfold step at hstep
      dsimp only at hstep
      split at hstep <;> cases hstep
      refine h.setNetworks ⟨Nat.le_refl _, ?_, fun _ _ => rfl⟩
      have hids : s.daemon.networkList.map Network.id = s.daemon.networks.map Network.id := by
        rw [Daemon.networkList, List.map_map]
        rfl
      rw [List.map_nil, List.nil_append, hids]
      exact h.daemon
  | inspectNetwork i ok =>
      unfold step at hstep
      dsimp only at hstep
      split at hstep <;> cases hstep
      exact h.inspect ‹_›
  | respondNetworks i =>
      unfold step at hstep
      dsimp only at hstep
      split at hstep <;> cases hstep
      rename_i change whole done hr
      obtain ⟨hle, hnodup, htold⟩ := h.networksRequests _ (List.mem_of_getElem? hr)
      rw [List.map_nil, List.append_nil] at hnodup
      refine h.setNetworks fun items hitems => ?_
      obtain rfl := Except.ok.inj hitems
      refine ⟨hnodup, fun seen hseen => ?_⟩
      split at hseen
      · rename_i hwhole
        obtain rfl := Option.some.inj hseen
        exact ⟨hle, fun heq => (List.append_nil done).symm.trans (htold heq hwhole)⟩
      · cases hseen
  | failNetworks i message =>
      unfold step at hstep
      dsimp only at hstep
      split at hstep <;> cases hstep
      · exact h.setNetworks (NetworksRequest.sound_error message)
      · exact h.setNetworks (NetworksRequest.sound_error message)
  | networksAnswered i =>
      unfold step at hstep
      dsimp only at hstep
      split at hstep <;> cases hstep
      exact h.networksAnswered ‹_›

theorem sound_run {events : List Event} (hrun : machine.Run Admitted events s) : Sound s := by
  refine hrun.invariant (I := Sound) ?_ fun _ _ _ h hguard hs => sound_step h hguard hs
  constructor <;> simp [machine, ContainersRequest.Sound, NetworksRequest.Sound]

/-! ### Polls -/

theorem poll_containers {events : List Event} (hrun : machine.Run Admitted events s) :
    ∃ events', machine.Run Admitted events' { s with
      containers := s.containers.settle containersKey (some s.changes)
        (.ok (listContainers s.daemon)) } := by
  let requests := s.containersRequests
  let asked : Dashboard := { s with
    containers := s.containers.refresh, containersRequests := requests ++ [.sent] }
  let answer : ContainersRequest := .answered (some s.changes) (.ok (listContainers s.daemon))
  have hserve : machine.step asked (.listContainers requests.length) =
      some { asked with containersRequests := requests ++ [answer] } := by
    simp [machine, step, asked, answer, Dashboard.setContainers]
  have hanswer : machine.step { asked with containersRequests := requests ++ [answer] }
      (.containersAnswered requests.length) = some { s with
        containers := s.containers.settle containersKey (some s.changes)
          (.ok (listContainers s.daemon)) } := by
    simp [machine, step, asked, answer, Dashboard.containersAnswered, Hook.settle, Hook.refresh,
      List.eraseIdx_append_of_length_le, requests]
  have hasked : machine.Run Admitted (events ++ [.pollContainers]) asked := hrun.snoc trivial rfl
  exact ⟨_, (hasked.snoc (by exact trivial) hserve).snoc (by exact trivial) hanswer⟩

theorem inspect_all {change : Nat} {events : List Event} {requests : List NetworksRequest}
    (done : List NetworkDto) (todo : List Network)
    (hrun : machine.Run Admitted events { s with
      networksRequests := requests ++ [.inspecting change true done todo] }) :
    ∃ events', machine.Run Admitted events' { s with
      networksRequests :=
        requests ++ [.inspecting change true (done ++ todo.map (inspected s.daemon)) []] } := by
  induction todo generalizing done events with
  | nil => exact ⟨events, by simpa using hrun⟩
  | cons n todo ih =>
      have hinspect : machine.step { s with
            networksRequests := requests ++ [.inspecting change true done (n :: todo)] }
          (.inspectNetwork requests.length true) = some { s with networksRequests :=
            requests ++ [.inspecting change true (done ++ [inspected s.daemon n]) todo] } := by
        simp [machine, step, Dashboard.setNetworks, Dashboard.inspect]
      obtain ⟨events', hrest⟩ := ih _ (hrun.snoc (by exact trivial) hinspect)
      exact ⟨events', by simpa using hrest⟩

theorem poll_networks {events : List Event} (hrun : machine.Run Admitted events s) :
    ∃ events', machine.Run Admitted events' { s with
      networks := s.networks.settle networksKey (some s.changes)
        (.ok (listNetworks s.daemon)) } := by
  let requests := s.networksRequests
  let asked : Dashboard := { s with networks := s.networks.refresh }
  have hasked : machine.Run Admitted (events ++ [.pollNetworks])
      { asked with networksRequests := requests ++ [.sent] } := hrun.snoc trivial rfl
  have hlist : machine.step { asked with networksRequests := requests ++ [.sent] }
      (.listNetworks requests.length) = some { asked with
        networksRequests := requests ++ [.inspecting s.changes true [] s.daemon.networkList] } := by
    simp [machine, step, asked, Dashboard.setNetworks]
  obtain ⟨events', hinspected⟩ := inspect_all [] s.daemon.networkList
    (hasked.snoc (by exact trivial) hlist)
  let answer : NetworksRequest := .answered (some s.changes) (.ok (listNetworks s.daemon))
  have hrespond : machine.step { asked with networksRequests := requests ++
        [.inspecting s.changes true ([] ++ s.daemon.networkList.map (inspected asked.daemon)) []] }
      (.respondNetworks requests.length) =
        some { asked with networksRequests := requests ++ [answer] } := by
    simp [machine, step, asked, answer, Dashboard.setNetworks, Service.DockerLists.listNetworks]
  have hanswer : machine.step { asked with networksRequests := requests ++ [answer] }
      (.networksAnswered requests.length) = some { s with
        networks := s.networks.settle networksKey (some s.changes)
          (.ok (listNetworks s.daemon)) } := by
    simp [machine, step, asked, answer, Dashboard.networksAnswered, Hook.settle, Hook.refresh,
      List.eraseIdx_append_of_length_le, requests]
  exact ⟨_, (hinspected.snoc (by exact trivial) hrespond).snoc (by exact trivial) hanswer⟩

theorem poll_both {events : List Event} (hrun : machine.Run Admitted events s) :
    ∃ events' t, machine.Run Admitted events' t ∧ Current t ∧ t.daemon = s.daemon ∧
      t.containers.data = adopt containersKey s.containers.data (listContainers s.daemon) ∧
      t.networks.data = adopt networksKey s.networks.data (listNetworks s.daemon) := by
  obtain ⟨events', hcontainers⟩ := poll_containers hrun
  obtain ⟨events'', hnetworks⟩ := poll_networks hcontainers
  exact ⟨events'', _, hnetworks, ⟨rfl, rfl⟩, rfl, rfl, rfl⟩

/-! ### What is shown -/

end Wiremap.Client.DockerDashboard
