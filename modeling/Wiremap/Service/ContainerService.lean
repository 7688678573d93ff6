import Wiremap.Errors
import Wiremap.Library.Stateful
import Wiremap.Library.Text

/-! Changing the environment of a Docker container: the daemon cannot edit a container in place,
so it is stopped, removed and created anew, and each call may fail. -/
namespace Wiremap.Service.ContainerService

open Wiremap.Library

/-- The fields `UpdateEnv` only hands back are kept together, as encoded. -/
structure ContainerConfig where
  image : String
  env : List String
  rest : String
  deriving DecidableEq, Repr

structure HostConfig where
  autoRemove : Bool
  rest : String
  deriving DecidableEq, Repr

structure EndpointSettings where
  networkID : String
  rest : String
  deriving DecidableEq, Repr

/-- What a user knows a container by, and what it was set up with. -/
structure Identity where
  name : String
  image : String
  config : ContainerConfig
  hostConfig : HostConfig
  deriving DecidableEq, Repr

abbrev ContainerID := Nat

/-- `image` is the ID that `config.image` stood for at creation. -/
structure Container extends Identity where
  networks : List (String × EndpointSettings)
  running : Bool
  deriving DecidableEq, Repr

def Container.Ephemeral (c : Container) : Prop := c.running ∧ c.hostConfig.autoRemove

instance (c : Container) : Decidable c.Ephemeral := inferInstanceAs (Decidable (_ ∧ _))

/-! ### The daemon -/

/-- A daemon whose states are `σ`: the containers it has, what its image references stand for, and
the state that a call leaves, which fails with a message or succeeds. -/
structure Docker (σ : Type) where
  container : σ → ContainerID → Option Container
  imageID : σ → String → String
  stop : Option String → ContainerID → σ → σ
  remove : Option String → ContainerID → σ → σ
  create : Option String → ContainerConfig → HostConfig → String → σ → ContainerID × σ
  networkConnect : Option String → String → ContainerID → EndpointSettings → σ → σ
  start : Option String → ContainerID → σ → σ

/-- What is documented of the calls.  A container set to be removed on exit is gone once it has
been stopped, unless it was not running, and once it could not be started. -/
structure Docker.Documented {σ : Type} (docker : Docker σ) : Prop where
  uniqueNames : ∀ s id id' c c', docker.container s id = some c →
    docker.container s id' = some c' → c.name = c'.name → id = id'
  stop_other : ∀ fault id s id', id' ≠ id →
    docker.container (docker.stop fault id s) id' = docker.container s id'
  stop_failed : ∀ err id s,
    docker.container (docker.stop (some err) id s) id = docker.container s id
  stopped : ∀ id s c, docker.container s id = some c → ¬c.Ephemeral →
    docker.container (docker.stop none id s) id = some { c with running := false }
  stop_ephemeral : ∀ id s c, docker.container s id = some c → c.Ephemeral →
    docker.container (docker.stop none id s) id = none
  stop_imageID : ∀ fault id s, docker.imageID (docker.stop fault id s) = docker.imageID s
  remove_other : ∀ fault id s id', id' ≠ id →
    docker.container (docker.remove fault id s) id' = docker.container s id'
  remove_failed : ∀ err id s,
    docker.container (docker.remove (some err) id s) id = docker.container s id
  removed : ∀ id s, docker.container (docker.remove none id s) id = none
  remove_imageID : ∀ fault id s, docker.imageID (docker.remove fault id s) = docker.imageID s
  create_failed : ∀ err config hostConfig name s id,
    docker.container (docker.create (some err) config hostConfig name s).2 id =
      docker.container s id
  create_other : ∀ config hostConfig name s id,
    id ≠ (docker.create none config hostConfig name s).1 →
    docker.container (docker.create none config hostConfig name s).2 id = docker.container s id
  /-- A name that is not in use. -/
  created : ∀ config hostConfig name s,
    (∀ id c, docker.container s id = some c → c.name ≠ name) →
    (docker.container (docker.create none config hostConfig name s).2
      (docker.create none config hostConfig name s).1).map Container.toIdentity =
        some ⟨name, docker.imageID s config.image, config, hostConfig⟩
  connected : ∀ fault network id settings s id',
    (docker.container (docker.networkConnect fault network id settings s) id').map
      Container.toIdentity = (docker.container s id').map Container.toIdentity
  start_other : ∀ fault id s id', id' ≠ id →
    docker.container (docker.start fault id s) id' = docker.container s id'
  start_failed : ∀ err id s c, docker.container s id = some c → c.hostConfig.autoRemove = false →
    (docker.container (docker.start (some err) id s) id).map Container.toIdentity =
      some c.toIdentity
  start_autoRemove : ∀ err id s c, docker.container s id = some c → c.hostConfig.autoRemove →
    docker.container (docker.start (some err) id s) id = none

structure Faults where
  host : Option AppError
  inspect : Option String
  stop : Option String
  remove : Option String
  create : Option String
  networkConnect : String → Option String
  start : Option String

/-! ### The calls -/

section

variable {σ : Type} (docker : Docker σ) (faults : Faults)

abbrev DockerM (σ : Type) := EStateM AppError σ

/-- The state is the one the call leaves, also where it fails. -/
def call (fault : Option String) (action : String) (run : σ → α × σ) : DockerM σ α := fun s =>
  match fault with
  | some err => .error (.internal s!"failed to {action}: {err}") (run s).2
  | none => .ok (run s).1 (run s).2

def getClient : DockerM σ Unit :=
  match faults.host with
  | some err => throw err
  | none => pure ()

/-- The API writes the name with a slash before it. -/
def inspect (id : ContainerID) : DockerM σ Container := fun s =>
  match faults.inspect, docker.container s id with
  | none, some c => .ok { c with name := "/" ++ c.name } s
  | none, none => .error (.internal s!"failed to inspect container: No such container: {id}") s
  | some err, _ => .error (.internal s!"failed to inspect container: {err}") s

/-- A network that cannot be joined again is passed over: the container exists. -/
def reconnect (id : ContainerID) : List (String × EndpointSettings) → DockerM σ Unit
  | [] => pure ()
  | (_, settings) :: rest => fun s =>
      reconnect id rest (docker.networkConnect (faults.networkConnect settings.networkID)
        settings.networkID id settings s)

/-- The second half of `UpdateEnv`, from the moment the container is gone. -/
def recreate (info : Container) (env : List String) : DockerM σ ContainerID := do
  let config := { info.config with env := env }
  let created ← call faults.create "recreate container"
    (docker.create faults.create config info.hostConfig (Text.trimPrefix info.name "/"))
  reconnect docker faults created info.networks
  call faults.start "start container" fun s => ((), docker.start faults.start created s)
  return created

def updateEnv (id : ContainerID) (env : List String) : DockerM σ ContainerID := do
  getClient faults
  let info ← inspect docker faults id
  call faults.stop "stop container" fun s => ((), docker.stop faults.stop id s)
  call faults.remove "remove container" fun s => ((), docker.remove faults.remove id s)
  recreate docker faults info env

end

end Wiremap.Service.ContainerService
