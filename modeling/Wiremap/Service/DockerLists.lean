import Wiremap.Errors
import Wiremap.Library.StringMap

/-! The containers and the networks of a Docker host as the dashboard lists them. -/
namespace Wiremap.Service.DockerLists

open Wiremap.Library

structure Port where
  ip : String
  privatePort : Nat
  publicPort : Nat
  type : String

structure NetworkAttachment where
  ipAddress : String
  gateway : String
  macAddress : String
  networkID : String
  aliases : List String

/-- A container as the daemon lists it; `networks` is absent where it has no settings. -/
structure Container where
  id : String
  names : List String
  image : String
  state : String
  status : String
  created : Int
  ports : List Port
  labels : StringMap String
  networks : Option (StringMap NetworkAttachment)

structure ContainerListItem where
  id : String
  names : List String
  image : String
  state : String
  status : String
  created : Int
  ports : List Port
  labels : StringMap String
  networks : StringMap NetworkAttachment

def containerListItem (ct : Container) : ContainerListItem where
  id := ct.id
  names := ct.names
  image := ct.image
  state := ct.state
  status := ct.status
  created := ct.created
  ports := ct.ports
  labels := ct.labels
  networks := ct.networks.getD ∅

structure NetworkContainer where
  name : String
  ipv4Address : String
  macAddress : String

structure IPAMConfig where
  subnet : String
  gateway : String

structure Network where
  id : String
  name : String
  driver : String
  scope : String
  ipam : List IPAMConfig
  containers : StringMap NetworkContainer

structure NetworkDto where
  id : String
  name : String
  driver : String
  scope : String
  subnet : String
  gateway : String
  containers : StringMap NetworkContainer

def toDto (n : Network) : NetworkDto where
  id := n.id
  name := n.name
  driver := n.driver
  scope := n.scope
  subnet := (n.ipam.head?.map IPAMConfig.subnet).getD ""
  gateway := (n.ipam.head?.map IPAMConfig.gateway).getD ""
  containers := n.containers

structure Daemon where
  containers : List Container := []
  networks : List Network := []

namespace Daemon

/-- A list of networks does not tell the containers in them. -/
def networkList (d : Daemon) : List Network := d.networks.map fun n => { n with containers := ∅ }

def networkInspect (d : Daemon) (id : String) : Option Network := d.networks.find? (·.id = id)

end Daemon

def listContainers (d : Daemon) : List ContainerListItem := d.containers.map containerListItem

/-- One network of the list, as it is when its turn comes; as it was listed where it is gone. -/
def inspected (d : Daemon) (n : Network) : NetworkDto := toDto ((d.networkInspect n.id).getD n)

def listNetworks (d : Daemon) : List NetworkDto := d.networkList.map (inspected d)

theorem id_inspected (d : Daemon) (n : Network) : (inspected d n).id = n.id := by
  unfold inspected Daemon.networkInspect
  cases hfound : d.networks.find? (·.id = n.id) with
  | none => rfl
  | some found => simpa [toDto] using List.find?_some hfound

theorem ids_listNetworks (d : Daemon) :
    (listNetworks d).map NetworkDto.id = d.networks.map Network.id := by
  simp [listNetworks, Daemon.networkList, List.map_map, Function.comp_def, id_inspected]

theorem listNetworks_eq {d : Daemon} (h : (d.networks.map Network.id).Nodup) :
    listNetworks d = d.networks.map toDto := by
  rw [listNetworks, Daemon.networkList, List.map_map]
  refine List.map_congr_left fun n hn => ?_
  have hfound : d.networkInspect n.id = some n := by
    unfold Daemon.networkInspect
    cases hfind : d.networks.find? (·.id = n.id) with
    | none => simpa using List.find?_eq_none.mp hfind n hn
    | some found =>
        have hid : found.id = n.id := by simpa using List.find?_some hfind
        rw [List.inj_on_of_nodup_map h (List.mem_of_find?_eq_some hfind) hn hid]
  rw [Function.comp_apply, inspected, hfound, Option.getD_some]

/-! Every list is one that a daemon could give. -/

def ContainerListItem.container (item : ContainerListItem) : Container where
  id := item.id
  names := item.names
  image := item.image
  state := item.state
  status := item.status
  created := item.created
  ports := item.ports
  labels := item.labels
  networks := some item.networks

def NetworkDto.network (dto : NetworkDto) : Network where
  id := dto.id
  name := dto.name
  driver := dto.driver
  scope := dto.scope
  ipam := [⟨dto.subnet, dto.gateway⟩]
  containers := dto.containers

def daemonOf (containers : List ContainerListItem) (networks : List NetworkDto) : Daemon where
  containers := containers.map ContainerListItem.container
  networks := networks.map NetworkDto.network

@[simp] theorem listContainers_daemonOf (containers : List ContainerListItem)
    (networks : List NetworkDto) : listContainers (daemonOf containers networks) = containers := by
  rw [listContainers, daemonOf, List.map_map]
  exact List.map_id _

theorem ids_daemonOf (containers : List ContainerListItem) (networks : List NetworkDto) :
    (daemonOf containers networks).networks.map Network.id = networks.map NetworkDto.id := by
  rw [daemonOf, List.map_map]
  rfl

theorem listNetworks_daemonOf (containers : List ContainerListItem) {networks : List NetworkDto}
    (h : (networks.map NetworkDto.id).Nodup) :
    listNetworks (daemonOf containers networks) = networks := by
  rw [listNetworks_eq (ids_daemonOf containers networks ▸ h), daemonOf, List.map_map]
  exact List.map_id _

end Wiremap.Service.DockerLists
