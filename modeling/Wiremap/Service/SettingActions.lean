import Wiremap.Kube.MergePatch
import Wiremap.Service.ActionService
import Wiremap.Service.NodeActions
import Wiremap.Service.ResourceService

/-! Scaling, restarting, suspending and cordoning.  Each action sends a merge patch for one
value and reads nothing first, so it leaves alone whatever else has changed. -/
namespace Wiremap.Service.SettingActions

open Wiremap.Kube Wiremap.Library
open Wiremap.Service.ActionService (ObjectRef)
open Wiremap.Service.NodeActions (unschedulablePatch)
open Wiremap.Service.ResourceService (restartableKinds actionsFor toInt32)

structure Timestamp where
  text : String
  plain : ∀ ch ∈ text.toList, ch.isDigit ∨ ch ∈ ['-', '+', ':', 'T', 'Z']

inductive Action where
  | scale (replicas : Int32)
  | restart
  | suspend (suspended : Bool)
  | cordon (unschedulable : Bool)

/-- An action that is asked for, the time, and what it meets: whether the cluster has a client,
what its kind is mapped to, and what the server has against the request, if anything. -/
structure Issued where
  ref : ObjectRef
  action : Action
  now : Timestamp
  pool : Option AppError
  mapping : Except AppError ResourceMapping
  refused : Option ApiError

abbrev Objects := AList fun _ : ObjectRef => Object

/-- The API server: how it decodes a patch, where an object that can be scaled keeps its
replicas, and what it answers a merge patch of an object, or of its scale, and stores then. -/
structure Server where
  decode : String → Option Json
  scaled : ObjectRef → Option (List String)
  patch : Option ApiError → Objects → ObjectRef → String → Bool → Except ApiError Objects

/-! ### The patches -/

def scalePatch (replicas : Int32) : String :=
  "\x7b\"spec\":\x7b\"replicas\":" ++ toString replicas.toInt ++ "\x7d\x7d"

def restartedAt : String := "kubectl.kubernetes.io/restartedAt"

def restartPatch (now : String) : String :=
  "\x7b\"spec\":\x7b\"template\":\x7b\"metadata\":\x7b\"annotations\":\x7b\"" ++ restartedAt ++
    "\":\"" ++ now ++ "\"\x7d\x7d\x7d\x7d\x7d"

def suspendPatch (suspended : Bool) : String :=
  "\x7b\"spec\":\x7b\"suspend\":" ++ toString suspended ++ "\x7d\x7d"

/-! ### The server -/

/-- What the server writes to an object itself. -/
def bookkeeping : List (List String) :=
  [["metadata", "resourceVersion"], ["metadata", "generation"], ["metadata", "managedFields"],
    ["status"]]

/-- A false may as well be left out. -/
def Shape.setting : Option Shape → Option Shape
  | some (.value (.bool false)) => none
  | shape => shape

/-- Everywhere but in the server's own fields both are set to the same. -/
def SameSettings (obj obj' : Object) : Prop :=
  ∀ path, (∀ p ∈ bookkeeping, ¬p <+: path) →
    Shape.setting (obj'.shapeAt path) = Shape.setting (obj.shapeAt path)

/-- How the API server is documented to answer patches: what it has something against is an
error, and so is an object that is not there, or a scale of one that cannot be scaled.  Else the
object is patched, and a scale's replicas become the object's; beside that the server writes its
own fields, and leaves out a false where its types do. -/
structure Server.Documented (server : Server) : Prop where
  scaled : ∀ ref, server.scaled ref ≠ some []
  refused : ∀ err objects ref text sub, server.patch (some err) objects ref text sub = .error err
  missing : ∀ objects ref text sub, objects.lookup ref = none →
    ∃ err, server.patch none objects ref text sub = .error err
  unscaled : ∀ objects ref text, server.scaled ref = none →
    ∃ err, server.patch none objects ref text true = .error err
  patched : ∀ objects ref obj text fields, objects.lookup ref = some obj →
    server.decode text = some (.obj fields) →
      ∃ obj', server.patch none objects ref text false = .ok (objects.insert ref obj') ∧
        SameSettings (obj.mergePatch (.obj fields)) obj'
  rescaled : ∀ objects ref obj text path n, objects.lookup ref = some obj →
    server.decode text = some (Json.at ["spec", "replicas"] (.num n)) →
      server.scaled ref = some path →
        ∃ obj', server.patch none objects ref text true = .ok (objects.insert ref obj') ∧
          SameSettings (obj.mergePatch (Json.at path (.num n))) obj'

/-! ### The actions -/

abbrev SettingM := EStateM AppError Objects

/-- The object that the client of a kind writes to; one that is not namespaced has no namespace. -/
def Issued.resourceClient (issued : Issued) : Except AppError ObjectRef :=
  match issued.pool, issued.mapping with
  | some err, _ => .error err
  | none, .error err => .error err
  | none, .ok mapping =>
      .ok { issued.ref with ns := if mapping.namespaced then issued.ref.ns else "" }

def Issued.nodeClient (issued : Issued) : Except AppError ObjectRef :=
  match issued.pool with
  | some err => .error err
  | none => .ok ⟨issued.ref.cluster, "", "Node", "", issued.ref.name⟩

def patch (server : Server) (issued : Issued) (client : Except AppError ObjectRef)
    (text action : String) (subresource : Bool) : SettingM Unit := do
  match client with
  | .error err => throw err
  | .ok ref =>
      match server.patch issued.refused (← get) ref text subresource with
      | .error err => throw (wrapError err action)
      | .ok objects => set objects

section

variable (server : Server) (issued : Issued)

def scale (replicas : Int32) : SettingM Unit :=
  if replicas < 0 then throw (.badRequest "replicas can't be negative")
  else
    patch server issued issued.resourceClient (scalePatch replicas)
      s!"scale {issued.ref.kind} {issued.ref.name}" true

def restart : SettingM Unit :=
  if restartableKinds.contains (issued.ref.group ++ "/" ++ issued.ref.kind) then
    patch server issued issued.resourceClient (restartPatch issued.now.text)
      s!"restart {issued.ref.kind} {issued.ref.name}" false
  else throw (.badRequest s!"{issued.ref.kind} can't be restarted")

def setSuspended (suspended : Bool) : SettingM Unit :=
  if issued.ref.group ≠ "batch" ∨ issued.ref.kind ≠ "CronJob" then
    throw (.badRequest s!"{issued.ref.kind} can't be suspended")
  else
    patch server issued issued.resourceClient (suspendPatch suspended)
      s!"suspend {issued.ref.kind} {issued.ref.name}" false

def setUnschedulable (unschedulable : Bool) : SettingM Unit :=
  patch server issued issued.nodeClient (unschedulablePatch unschedulable)
    ("update node " ++ issued.ref.name) false

def perform : SettingM Unit :=
  match issued.action with
  | .scale replicas => scale server issued replicas
  | .restart => restart server issued
  | .suspend suspended => setSuspended server issued suspended
  | .cordon unschedulable => setUnschedulable server issued unschedulable

end

def run (server : Server) : List Issued → Objects → List (Except AppError Unit) × Objects
  | [], objects => ([], objects)
  | issued :: rest, objects =>
      match perform server issued objects with
      | .ok done next => ((run server rest next).1.cons (.ok done), (run server rest next).2)
      | .error err next => ((run server rest next).1.cons (.error err), (run server rest next).2)

/-! ### What the actions are for -/

structure Write where
  ref : ObjectRef
  path : List String
  value : Json

/-- What an action writes, unless it is turned down whatever is stored. -/
def Issued.write (server : Server) (issued : Issued) : Option Write :=
  if issued.refused.isSome then none
  else
    match issued.action with
    | .scale replicas =>
        if replicas < 0 then none
        else
          issued.resourceClient.toOption.bind fun ref =>
            (server.scaled ref).map fun path => ⟨ref, path, .num replicas.toInt⟩
    | .restart =>
        if restartableKinds.contains (issued.ref.group ++ "/" ++ issued.ref.kind) then
          issued.resourceClient.toOption.map fun ref =>
            ⟨ref, ["spec", "template", "metadata", "annotations", restartedAt],
              .str issued.now.text⟩
        else none
    | .suspend suspended =>
        if issued.ref.group ≠ "batch" ∨ issued.ref.kind ≠ "CronJob" then none
        else issued.resourceClient.toOption.map fun ref => ⟨ref, ["spec", "suspend"], .bool suspended⟩
    | .cordon unschedulable =>
        issued.nodeClient.toOption.map fun ref =>
          ⟨ref, ["spec", "unschedulable"], .bool unschedulable⟩

def accepted (server : Server) (objects : Objects) (issued : Issued) : Option Write :=
  (issued.write server).filter fun write => (objects.lookup write.ref).isSome

def Action.applied (action : Action) (actions : ResourceService.KubeActions) :
    ResourceService.KubeActions :=
  match action with
  | .scale replicas => { actions with replicas := some replicas.toInt }
  | .restart => actions
  | .suspend suspended => { actions with suspended := some suspended }
  | .cordon unschedulable => { actions with unschedulable := some unschedulable }

/-- The server takes the text of a patch for the JSON it spells. -/
def Server.Reads (server : Server) (issued : Issued) : Prop :=
  match issued.action with
  | .scale replicas => server.decode (scalePatch replicas) =
      some (Json.at ["spec", "replicas"] (.num replicas.toInt))
  | .restart => server.decode (restartPatch issued.now.text) =
      some (Json.at ["spec", "template", "metadata", "annotations", restartedAt]
        (.str issued.now.text))
  | .suspend suspended => server.decode (suspendPatch suspended) =
      some (Json.at ["spec", "suspend"] (.bool suspended))
  | .cordon unschedulable => server.decode (unschedulablePatch unschedulable) =
      some (Json.at ["spec", "unschedulable"] (.bool unschedulable))

def writesTo (server : Server) (objects : Objects) (ref : ObjectRef) (all : List Issued) :
    List (Overlay (List String) (Option Shape)) :=
  all.filterMap fun issued =>
    (accepted server objects issued).bind fun write =>
      if write.ref = ref then some (line write.path write.value) else none

def actionsOn (server : Server) (objects : Objects) (ref : ObjectRef) (all : List Issued) :
    List Action :=
  all.filterMap fun issued =>
    (accepted server objects issued).bind fun write =>
      if write.ref = ref then some issued.action else none

/-- What a sequence of actions comes to, told from the objects there were before. -/
structure Settled (server : Server) (objects : Objects) (all : List Issued)
    (outcomes : List (Except AppError Unit)) (objects' : Objects) : Prop where
  outcomes : outcomes.map Except.isOk = all.map fun issued => (accepted server objects issued).isSome
  same : ∀ ref, ref ∈ objects' ↔ ref ∈ objects
  written : ∀ ref obj obj', objects.lookup ref = some obj → objects'.lookup ref = some obj' →
    ∀ path, (∀ p ∈ bookkeeping, ¬p <+: path) →
      Shape.setting (obj'.shapeAt path) =
        Shape.setting ((Overlay.inTurn (writesTo server objects ref all)).apply obj.shapeAt path)
  shown : ∀ ref obj obj', objects.lookup ref = some obj → objects'.lookup ref = some obj' →
    (∀ path ∈ server.scaled ref, path = ["spec", "replicas"]) →
      actionsFor obj' ref.group ref.kind =
        (actionsOn server objects ref all).foldl (fun actions action => action.applied actions)
          (actionsFor obj ref.group ref.kind)

/-! ### One patch -/

def Wrote (write : Write) (obj obj' : Object) : Prop :=
  ∀ path, (∀ p ∈ bookkeeping, ¬p <+: path) →
    Shape.setting (obj'.shapeAt path) =
      Shape.setting ((line write.path write.value).apply obj.shapeAt path)

def CarriesOut (objects : Objects) (call : SettingM Unit) (write : Option Write) : Prop :=
  match write.filter fun write => (objects.lookup write.ref).isSome with
  | some write => ∃ obj obj', objects.lookup write.ref = some obj ∧
      call objects = .ok () (objects.insert write.ref obj') ∧ Wrote write obj obj'
  | none => ∃ err, call objects = .error err objects

theorem shapeAt_mergePatch_at (obj : Object) {path : List String} (hpath : path ≠ []) {value : Json}
    (hvalue : value.Scalar) :
    (obj.mergePatch (Json.at path value)).shapeAt = (line path value).apply obj.shapeAt := by
  match path with
  | [] => exact absurd rfl hpath
  | field :: rest =>
      rw [Json.at, Object.shapeAt_mergePatch]
      funext other
      rw [Overlay.apply, Json.overlayFields_at hvalue, Overlay.apply]

section

variable {server : Server} {objects : Objects}

theorem patch_eq (server : Server) (issued : Issued) (objects : Objects)
    (client : Except AppError ObjectRef) (text action : String) (subresource : Bool) :
    patch server issued client text action subresource objects =
      match client with
      | .error err => .error err objects
      | .ok ref =>
          match server.patch issued.refused objects ref text subresource with
          | .error err => .error (wrapError err action) objects
          | .ok objects' => .ok () objects' := by
  cases client with
  | error err => rfl
  | ok ref =>
      have hrun : patch server issued (.ok ref) text action subresource objects =
          (match server.patch issued.refused objects ref text subresource with
          | .error err => throw (wrapError err action)
          | .ok objects' => set objects' : SettingM Unit) objects := rfl
      rw [hrun]
      dsimp only
      cases server.patch issued.refused objects ref text subresource <;> rfl

theorem carriesOut_of_some {call : SettingM Unit} {write : Option Write} {w : Write}
    {obj obj' : Object} (hwrite : write = some w) (hobj : objects.lookup w.ref = some obj)
    (hcall : call objects = .ok () (objects.insert w.ref obj')) (hwrote : Wrote w obj obj') :
    CarriesOut objects call write := by
  subst hwrite
  have hfilter : (some w).filter (fun write => (objects.lookup write.ref).isSome) = some w := by
    simp [hobj]
  rw [CarriesOut, hfilter]
  exact ⟨obj, obj', hobj, hcall, hwrote⟩

theorem carriesOut_of_none {call : SettingM Unit} {write : Option Write} {err : AppError}
    (hwrite : ∀ w ∈ write, objects.lookup w.ref = none) (hcall : call objects = .error err objects) :
    CarriesOut objects call write := by
  have hfilter : write.filter (fun write => (objects.lookup write.ref).isSome) = none := by
    cases write with
    | none => rfl
    | some w => simp [hwrite w rfl]
  rw [CarriesOut, hfilter]
  exact ⟨err, hcall⟩

theorem carriesOut_patch (hdoc : server.Documented) (issued : Issued)
    (client : Except AppError ObjectRef) (text action : String) (subresource : Bool)
    (place : ObjectRef → Option (List String)) (value : Json)
    (hpatched : ∀ ref obj, objects.lookup ref = some obj →
      match place ref with
      | some path => ∃ obj', server.patch none objects ref text subresource =
          .ok (objects.insert ref obj') ∧ Wrote ⟨ref, path, value⟩ obj obj'
      | none => ∃ err, server.patch none objects ref text subresource = .error err) :
    CarriesOut objects (patch server issued client text action subresource)
      (if issued.refused.isSome then none
      else client.toOption.bind fun ref => (place ref).map fun path => ⟨ref, path, value⟩) := by
  have hrun := patch_eq server issued objects client text action subresource
  cases client with
  | error err => exact carriesOut_of_none (by simp [Except.toOption]) hrun
  | ok ref =>
      dsimp only at hrun
      cases hrefused : issued.refused with
      | some err =>
          rw [hrefused, hdoc.refused] at hrun
          exact carriesOut_of_none (by simp) hrun
      | none =>
          rw [hrefused] at hrun
          cases hobj : objects.lookup ref with
          | none =>
              obtain ⟨err, hmissing⟩ := hdoc.missing objects ref text subresource hobj
              rw [hmissing] at hrun
              refine carriesOut_of_none (fun w hw => ?_) hrun
              obtain ⟨path, -, rfl⟩ := Option.map_eq_some_iff.mp hw
              exact hobj
          | some obj =>
              have hpatch := hpatched ref obj hobj
              cases hplace : place ref with
              | none =>
                  rw [hplace] at hpatch
                  obtain ⟨err, herr⟩ := hpatch
                  rw [herr] at hrun
                  exact carriesOut_of_none (by simp [Except.toOption, hplace]) hrun
              | some path =>
                  rw [hplace] at hpatch
                  obtain ⟨obj', hok, hwrote⟩ := hpatch
                  rw [hok] at hrun
                  have hwrite : (Except.ok ref : Except AppError ObjectRef).toOption.bind
                      (fun ref => (place ref).map fun path => (⟨ref, path, value⟩ : Write)) =
                      some ⟨ref, path, value⟩ := by
                    simp [Except.toOption, hplace]
                  exact carriesOut_of_some hwrite hobj hrun hwrote

theorem SameSettings.wrote {ref : ObjectRef} {path : List String} {value : Json} {obj obj' : Object}
    (h : SameSettings (obj.mergePatch (Json.at path value)) obj') (hpath : path ≠ [])
    (hvalue : value.Scalar) : Wrote ⟨ref, path, value⟩ obj obj' := by
  intro other hother
  rw [h other hother, shapeAt_mergePatch_at obj hpath hvalue]

theorem carriesOut_plain (hdoc : server.Documented) (issued : Issued)
    (client : Except AppError ObjectRef) {text : String} (action : String) {field : String}
    {rest : List String} {value : Json} (hvalue : value.Scalar)
    (hdecode : server.decode text = some (Json.at (field :: rest) value)) :
    CarriesOut objects (patch server issued client text action false)
      (if issued.refused.isSome then none
      else client.toOption.map fun ref => ⟨ref, field :: rest, value⟩) := by
  have hpatched : ∀ ref obj, objects.lookup ref = some obj →
      ∃ obj', server.patch none objects ref text false = .ok (objects.insert ref obj') ∧
        Wrote ⟨ref, field :: rest, value⟩ obj obj' := by
    intro ref obj hobj
    obtain ⟨obj', hok, hsame⟩ := hdoc.patched objects ref obj text _ hobj hdecode
    exact ⟨obj', hok, hsame.wrote (List.cons_ne_nil field rest) hvalue⟩
  have hcarries := carriesOut_patch hdoc issued client text action false
    (fun _ => some (field :: rest)) value hpatched
  simpa [Option.map_eq_bind, Function.comp_def] using hcarries

theorem carriesOut_throw (issued : Issued) (err : AppError) :
    CarriesOut objects (throw err : SettingM Unit) (if issued.refused.isSome then none else none) :=
  carriesOut_of_none (by simp) rfl

theorem carriesOut_perform (hdoc : server.Documented) {issued : Issued} (hreads : server.Reads issued)
    (objects : Objects) : CarriesOut objects (perform server issued) (issued.write server) := by
  unfold perform Issued.write
  cases haction : issued.action with
  | scale replicas =>
      rw [Server.Reads, haction] at hreads
      dsimp only at hreads ⊢
      unfold scale
      by_cases hnegative : replicas < 0
      · simp only [if_pos hnegative]
        exact carriesOut_throw issued _
      · simp only [if_neg hnegative]
        refine carriesOut_patch hdoc issued _ _ _ true server.scaled _ fun ref obj hobj => ?_
        cases hscaled : server.scaled ref with
        | none => exact hdoc.unscaled objects ref _ hscaled
        | some path =>
            have hpath : path ≠ [] := fun hnil => hdoc.scaled ref (hnil ▸ hscaled)
            obtain ⟨obj', hok, hsame⟩ :=
              hdoc.rescaled objects ref obj _ path _ hobj hreads hscaled
            exact ⟨obj', hok, hsame.wrote hpath trivial⟩
  | restart =>
      rw [Server.Reads, haction] at hreads
      dsimp only
      unfold restart
      by_cases hkind : restartableKinds.contains (issued.ref.group ++ "/" ++ issued.ref.kind) = true
      · simp only [if_pos hkind]
        exact carriesOut_plain hdoc issued _ _ trivial hreads
      · simp only [if_neg hkind]
        exact carriesOut_throw issued _
  | suspend suspended =>
      rw [Server.Reads, haction] at hreads
      dsimp only
      unfold setSuspended
      by_cases hkind : issued.ref.group ≠ "batch" ∨ issued.ref.kind ≠ "CronJob"
      · simp only [if_pos hkind]
        exact carriesOut_throw issued _
      · simp only [if_neg hkind]
        exact carriesOut_plain hdoc issued _ _ trivial hreads
  | cordon unschedulable =>
      rw [Server.Reads, haction] at hreads
      exact carriesOut_plain hdoc issued _ _ trivial hreads

/-! ### A sequence of actions -/

theorem accepted_congr {objects' : Objects} (h : ∀ ref, ref ∈ objects' ↔ ref ∈ objects) :
    accepted server objects' = accepted server objects := by
  funext issued
  refine congrArg (fun p => Option.filter p (issued.write server)) (funext fun write => ?_)
  rw [Bool.eq_iff_iff, AList.lookup_isSome, AList.lookup_isSome, h]

theorem mem_insert_of_mem {ref : ObjectRef} (h : ref ∈ objects) (obj : Object) (other : ObjectRef) :
    other ∈ objects.insert ref obj ↔ other ∈ objects := by
  rw [AList.mem_insert, or_iff_right_iff_imp]
  rintro rfl
  exact h

def Shape.read {α : Type u} (f : Json → Option α) (shape : Option Shape) : Option α :=
  shape.bind fun
    | .map => none
    | .value value => f value

theorem Shape.read_setting {f : Json → Option α} (hf : f (.bool false) = none)
    (shape : Option Shape) : Shape.read f (Shape.setting shape) = Shape.read f shape := by
  unfold Shape.setting
  split
  · exact hf.symm
  · rfl

theorem Shape.getD_read_setting (shape : Option Shape) :
    (Shape.read Json.bool? (Shape.setting shape)).getD false =
      (Shape.read Json.bool? shape).getD false := by
  unfold Shape.setting
  split <;> rfl

theorem nestedInt64_eq (obj : Object) (path : List String) :
    obj.nestedInt64 path = Shape.read Json.int64? (obj.shapeAt path) :=
  Object.bind_nestedField obj path fun _ => rfl

theorem nestedBool_eq (obj : Object) (path : List String) :
    obj.nestedBool path = (Shape.read Json.bool? (obj.shapeAt path)).getD false :=
  congrArg (Option.getD · false) (Object.bind_nestedField obj path fun _ => rfl)

theorem specPath_not_bookkeeping (field : String) : ∀ p ∈ bookkeeping, ¬p <+: ["spec", field] := by
  simp [bookkeeping]

theorem line_spec (field other : String) (value : Json) :
    line ["spec", field] value ["spec", other] =
      if other = field then some (some value.shape) else none := by
  unfold line
  by_cases h : other = field
  · simp [h]
  · simp [h, Ne.symm h]

theorem line_below_spec (field next : String) (rest : List String) {other : String}
    (h : other ≠ field) (value : Json) :
    line ("spec" :: field :: next :: rest) value ["spec", other] = none := by
  simp [line, h]

theorem int64?_toInt (replicas : Int32) : (Json.num replicas.toInt).int64? = some replicas.toInt := by
  have hlo := replicas.le_toInt
  have hhi := replicas.toInt_lt
  have hrange : -9223372036854775808 ≤ replicas.toInt ∧ replicas.toInt < 9223372036854775808 := by
    omega
  simp [Json.int64?, hrange]

theorem toInt32_toInt (replicas : Int32) : toInt32 replicas.toInt = replicas.toInt := by
  have hlo := replicas.le_toInt
  have hhi := replicas.toInt_lt
  unfold toInt32
  omega

theorem resourceClient_kind {issued : Issued} {ref : ObjectRef}
    (h : issued.resourceClient.toOption = some ref) :
    ref.group = issued.ref.group ∧ ref.kind = issued.ref.kind := by
  unfold Issued.resourceClient at h
  split at h
  · cases h
  · cases h
  · cases h
    exact ⟨rfl, rfl⟩

theorem nodeClient_kind {issued : Issued} {ref : ObjectRef}
    (h : issued.nodeClient.toOption = some ref) : ref.group = "" ∧ ref.kind = "Node" := by
  unfold Issued.nodeClient at h
  split at h
  · cases h
  · cases h
    exact ⟨rfl, rfl⟩

theorem actionsFor_eq (obj : Object) (group kind : String) :
    actionsFor obj group kind =
      { replicas := (obj.nestedInt64 ["spec", "replicas"]).map toInt32
        restart := restartableKinds.contains (group ++ "/" ++ kind)
        trigger := group ++ "/" ++ kind = "batch/CronJob"
        suspended :=
          if group ++ "/" ++ kind = "batch/CronJob" then some (obj.nestedBool ["spec", "suspend"])
          else none
        unschedulable :=
          if group ++ "/" ++ kind = "/Node" then some (obj.nestedBool ["spec", "unschedulable"])
          else none } := by
  unfold actionsFor
  dsimp only
  generalize group ++ "/" ++ kind = key
  split
  · rfl
  · rfl
  · rename_i hcron hnode
    rw [if_neg hcron, if_neg hnode, decide_eq_false hcron]

theorem Wrote.nestedBool {write : Write} {obj obj' : Object} (h : Wrote write obj obj')
    (field : String) :
    (∀ b, line write.path write.value ["spec", field] = some (some (.value (.bool b))) →
        obj'.nestedBool ["spec", field] = b) ∧
      (line write.path write.value ["spec", field] = none →
        obj'.nestedBool ["spec", field] = obj.nestedBool ["spec", field]) := by
  have hread : obj'.nestedBool ["spec", field] = (Shape.read Json.bool?
      ((line write.path write.value).apply obj.shapeAt ["spec", field])).getD false := by
    rw [nestedBool_eq, ← Shape.getD_read_setting, h _ (specPath_not_bookkeeping field),
      Shape.getD_read_setting]
  constructor
  · intro b hline
    rw [hread, Overlay.apply, hline]
    rfl
  · intro hline
    rw [hread, Overlay.apply, hline, nestedBool_eq]
    rfl

theorem Wrote.nestedInt64 {write : Write} {obj obj' : Object} (h : Wrote write obj obj')
    (field : String) :
    (∀ n, line write.path write.value ["spec", field] = some (some (.value (.num n))) →
        obj'.nestedInt64 ["spec", field] = (Json.num n).int64?) ∧
      (line write.path write.value ["spec", field] = none →
        obj'.nestedInt64 ["spec", field] = obj.nestedInt64 ["spec", field]) := by
  have hread : obj'.nestedInt64 ["spec", field] = Shape.read Json.int64?
      ((line write.path write.value).apply obj.shapeAt ["spec", field]) := by
    rw [nestedInt64_eq, ← Shape.read_setting rfl, h _ (specPath_not_bookkeeping field),
      Shape.read_setting rfl]
  constructor
  · intro n hline
    rw [hread, Overlay.apply, hline]
    rfl
  · intro hline
    rw [hread, Overlay.apply, hline, nestedInt64_eq]
    rfl

theorem Shape.setting_apply {o : Overlay (List String) (Option Shape)}
    {f g : List String → Option Shape} {path : List String}
    (h : Shape.setting (f path) = Shape.setting (g path)) :
    Shape.setting (o.apply f path) = Shape.setting (o.apply g path) := by
  unfold Overlay.apply
  cases o path with
  | some written => rfl
  | none => exact h

theorem actionsFor_wrote {issued : Issued} {write : Write} {obj obj' : Object}
    (hwrite : issued.write server = some write)
    (hscaled : ∀ path ∈ server.scaled write.ref, path = ["spec", "replicas"])
    (h : Wrote write obj obj') :
    actionsFor obj' write.ref.group write.ref.kind =
      issued.action.applied (actionsFor obj write.ref.group write.ref.kind) := by
  obtain ⟨hreplicas, hreplicas'⟩ := h.nestedInt64 "replicas"
  obtain ⟨hsuspend, hsuspend'⟩ := h.nestedBool "suspend"
  obtain ⟨hcordon, hcordon'⟩ := h.nestedBool "unschedulable"
  rw [actionsFor_eq, actionsFor_eq]
  unfold Issued.write at hwrite
  split at hwrite
  · cases hwrite
  cases haction : issued.action with
  | scale replicas =>
      rw [haction] at hwrite
      dsimp only at hwrite
      split at hwrite
      · cases hwrite
      obtain ⟨ref, -, hpath⟩ := Option.bind_eq_some_iff.mp hwrite
      obtain ⟨path, hplace, rfl⟩ := Option.map_eq_some_iff.mp hpath
      obtain rfl := hscaled path hplace
      rw [hreplicas replicas.toInt (by simp [line_spec, Json.shape]), int64?_toInt,
        hsuspend' (by simp [line_spec]), hcordon' (by simp [line_spec])]
      simp [Action.applied, toInt32_toInt]
  | restart =>
      rw [haction] at hwrite
      dsimp only at hwrite
      split at hwrite
      · obtain ⟨ref, -, rfl⟩ := Option.map_eq_some_iff.mp hwrite
        rw [hreplicas' (line_below_spec _ _ _ (by decide) _),
          hsuspend' (line_below_spec _ _ _ (by decide) _),
          hcordon' (line_below_spec _ _ _ (by decide) _)]
        rfl
      · cases hwrite
  | suspend suspended =>
      rw [haction] at hwrite
      dsimp only at hwrite
      split at hwrite
      · cases hwrite
      · rename_i hkind
        obtain ⟨ref, href, rfl⟩ := Option.map_eq_some_iff.mp hwrite
        obtain ⟨hgroup, hkind'⟩ := resourceClient_kind href
        simp only [not_or, not_not] at hkind
        have hcron : ref.group = "batch" ∧ ref.kind = "CronJob" :=
          ⟨hgroup.trans hkind.1, hkind'.trans hkind.2⟩
        rw [hreplicas' (by simp [line_spec]), hsuspend suspended (by simp [line_spec, Json.shape]),
          hcordon' (by simp [line_spec])]
        simp [Action.applied, hcron]
  | cordon unschedulable =>
      rw [haction] at hwrite
      obtain ⟨ref, href, rfl⟩ := Option.map_eq_some_iff.mp hwrite
      have hnode := nodeClient_kind href
      rw [hreplicas' (by simp [line_spec]), hsuspend' (by simp [line_spec]),
        hcordon unschedulable (by simp [line_spec, Json.shape])]
      simp [Action.applied, hnode]

/-- An action that is answered without an error has been carried out, and any other has
changed nothing. -/
theorem perform_cases (hdoc : server.Documented) {issued : Issued} (hreads : server.Reads issued)
    (objects : Objects) :
    (∃ write obj obj', accepted server objects issued = some write ∧
      issued.write server = some write ∧ objects.lookup write.ref = some obj ∧
      perform server issued objects = .ok () (objects.insert write.ref obj') ∧
      Wrote write obj obj') ∨
    accepted server objects issued = none ∧ ∃ err, perform server issued objects = .error err objects := by
  have hcarries := carriesOut_perform hdoc hreads objects
  unfold CarriesOut at hcarries
  cases haccepted : accepted server objects issued with
  | none =>
      rw [accepted] at haccepted
      rw [haccepted] at hcarries
      exact .inr ⟨rfl, hcarries⟩
  | some write =>
      have hwrite := (Option.filter_eq_some_iff.mp haccepted).1
      rw [accepted] at haccepted
      rw [haccepted] at hcarries
      obtain ⟨obj, obj', hobj, hperform, hwrote⟩ := hcarries
      exact .inl ⟨write, obj, obj', rfl, hwrite, hobj, hperform, hwrote⟩

theorem Settled.nil (server : Server) (objects : Objects) : Settled server objects [] [] objects where
  outcomes := rfl
  same _ := Iff.rfl
  written ref obj obj' hobj hobj' path _ := by
    obtain rfl := Option.some.inj (hobj.symm.trans hobj')
    rfl
  shown ref obj obj' hobj hobj' _ := by
    obtain rfl := Option.some.inj (hobj.symm.trans hobj')
    rfl

theorem Settled.refused {issued : Issued} {rest : List Issued} {objects' : Objects}
    {outcomes : List (Except AppError Unit)} (h : Settled server objects rest outcomes objects')
    (haccepted : accepted server objects issued = none) (err : AppError) :
    Settled server objects (issued :: rest) (.error err :: outcomes) objects' where
  outcomes := by simp [h.outcomes, haccepted, Except.isOk, Except.toBool]
  same := h.same
  written ref obj obj' hobj hobj' := by
    have hskip : writesTo server objects ref (issued :: rest) = writesTo server objects ref rest := by
      simp [writesTo, haccepted]
    rw [hskip]
    exact h.written ref obj obj' hobj hobj'
  shown ref obj obj' hobj hobj' := by
    have hskip : actionsOn server objects ref (issued :: rest) = actionsOn server objects ref rest := by
      simp [actionsOn, haccepted]
    rw [hskip]
    exact h.shown ref obj obj' hobj hobj'

/-- An action that is carried out, before the rest: it comes first in what is written to its
object, and to no other. -/
theorem Settled.done {issued : Issued} {rest : List Issued} {objects' : Objects}
    {outcomes : List (Except AppError Unit)} {write : Write} {old new : Object}
    (h : Settled server (objects.insert write.ref new) rest outcomes objects')
    (haccepted : accepted server objects issued = some write)
    (hwrite : issued.write server = some write) (hold : objects.lookup write.ref = some old)
    (hwrote : Wrote write old new) :
    Settled server objects (issued :: rest) (.ok () :: outcomes) objects' := by
  have hmem : write.ref ∈ objects := AList.lookup_isSome.mp (by simp [hold])
  have hsame := mem_insert_of_mem hmem new
  have hcongr : accepted server (objects.insert write.ref new) = accepted server objects :=
    accepted_congr hsame
  have hwrites : ∀ ref, writesTo server (objects.insert write.ref new) ref rest =
      writesTo server objects ref rest := fun ref => by rw [writesTo, hcongr, ← writesTo]
  have hactions : ∀ ref, actionsOn server (objects.insert write.ref new) ref rest =
      actionsOn server objects ref rest := fun ref => by rw [actionsOn, hcongr, ← actionsOn]
  have hother : ∀ {ref : ObjectRef}, write.ref ≠ ref →
      (objects.insert write.ref new).lookup ref = objects.lookup ref := fun href =>
    AList.lookup_insert_ne (Ne.symm href)
  refine ⟨?_, fun ref => (h.same ref).trans (hsame ref), ?_, ?_⟩
  · have hrest := h.outcomes
    rw [hcongr] at hrest
    simp [hrest, haccepted, Except.isOk, Except.toBool]
  · intro ref obj obj' hobj hobj' path hpath
    by_cases href : write.ref = ref
    · subst href
      obtain rfl := Option.some.inj (hold.symm.trans hobj)
      have hcons : writesTo server objects write.ref (issued :: rest) =
          line write.path write.value :: writesTo server objects write.ref rest := by
        simp [writesTo, haccepted]
      rw [h.written write.ref new obj' (AList.lookup_insert _) hobj' path hpath, hwrites, hcons,
        Overlay.apply_inTurn_cons, Shape.setting_apply (hwrote path hpath)]
    · have hskip : writesTo server objects ref (issued :: rest) =
          writesTo server objects ref rest := by
        simp [writesTo, haccepted, href]
      rw [h.written ref obj obj' ((hother href).trans hobj) hobj' path hpath, hwrites, hskip]
  · intro ref obj obj' hobj hobj' hscaled
    by_cases href : write.ref = ref
    · subst href
      obtain rfl := Option.some.inj (hold.symm.trans hobj)
      have hcons : actionsOn server objects write.ref (issued :: rest) =
          issued.action :: actionsOn server objects write.ref rest := by
        simp [actionsOn, haccepted]
      rw [h.shown write.ref new obj' (AList.lookup_insert _) hobj' hscaled, hactions, hcons,
        List.foldl_cons, actionsFor_wrote hwrite hscaled hwrote]
    · have hskip : actionsOn server objects ref (issued :: rest) =
          actionsOn server objects ref rest := by
        simp [actionsOn, haccepted, href]
      rw [h.shown ref obj obj' ((hother href).trans hobj) hobj' hscaled, hactions, hskip]

/-- Whatever actions follow each other, on whatever objects: each is answered as what it asks
for and what is stored decide, of each value the last action that sets it stays, and all else
is as it was before them. -/
theorem actions_settle (server : Server) (hdoc : server.Documented) (all : List Issued)
    (hreads : ∀ issued ∈ all, server.Reads issued) (objects : Objects) :
    Settled server objects all (run server all objects).1 (run server all objects).2 := by
  induction all generalizing objects with
  | nil => exact .nil server objects
  | cons issued rest ih =>
      obtain ⟨hfirst, hrest⟩ := List.forall_mem_cons.mp hreads
      rw [run]
      rcases perform_cases hdoc hfirst objects with
        ⟨write, old, new, haccepted, hwrite, hold, hperform, hwrote⟩ | ⟨haccepted, err, hperform⟩
      · rw [hperform]
        exact (ih hrest (objects.insert write.ref new)).done haccepted hwrite hold hwrote
      · rw [hperform]
        exact (ih hrest objects).refused haccepted err

end

/-! ### A server -/

theorem SameSettings.refl (obj : Object) : SameSettings obj obj := fun _ _ => rfl

theorem SameSettings.trans {obj obj' obj'' : Object} (h : SameSettings obj obj')
    (h' : SameSettings obj' obj'') : SameSettings obj obj'' := fun path hpath =>
  (h' path hpath).trans (h path hpath)

def omitted : List String := ["spec", "unschedulable"]

def tidied (obj : Object) : Object :=
  match obj.nestedField omitted with
  | some (.bool false) => obj.removeNestedField omitted
  | _ => obj

def versioned (obj : Object) : Object :=
  match obj.lookup "metadata" with
  | some (.obj _) =>
      obj.mergePatch (Json.at ["metadata", "resourceVersion"]
        (.str ((obj.nestedString ["metadata", "resourceVersion"]).push '1')))
  | _ => obj

theorem shapeAt_below_bool {obj : Object} {field next : String} {b : Bool}
    (h : obj.nestedField [field, next] = some (.bool b)) (other : String) (rest : List String) :
    obj.shapeAt (field :: next :: other :: rest) = none := by
  rw [Object.nestedField_cons_cons] at h
  obtain ⟨json, hfield, hnext⟩ := Option.bind_eq_some_iff.mp h
  have hbool : json.object.lookup next = some (.bool b) := hnext
  rw [Object.shapeAt_cons_cons, hfield, Option.bind_some, Object.shapeAt_cons_cons, hbool,
    Option.bind_some]
  exact Object.shapeAt_empty _

theorem sameSettings_tidied (obj : Object) : SameSettings obj (tidied obj) := by
  intro path hpath
  unfold tidied
  split
  · rename_i hfalse
    rw [Object.shapeAt_removeNestedField obj (by simp [omitted]) path]
    split
    · rename_i hbelow
      obtain ⟨more, rfl⟩ := hbelow
      cases more with
      | nil =>
          have hshape : obj.shapeAt omitted = some (.value (.bool false)) := by
            rw [Object.shapeAt, hfalse]
            rfl
          rw [List.append_nil, hshape]
          rfl
      | cons other rest => rw [omitted, List.cons_append, List.cons_append, List.nil_append,
          shapeAt_below_bool hfalse other rest]
    · rfl
  · rfl

theorem sameSettings_versioned (obj : Object) : SameSettings obj (versioned obj) := by
  intro path hpath
  unfold versioned
  split
  · rename_i fields hmetadata
    have hscalar : (Json.str ((obj.nestedString ["metadata", "resourceVersion"]).push '1')).Scalar :=
      trivial
    rw [shapeAt_mergePatch_at obj (List.cons_ne_nil "metadata" ["resourceVersion"]) hscalar,
      Overlay.apply]
    have hnot : ¬["metadata", "resourceVersion"] <+: path :=
      hpath _ (by simp [bookkeeping])
    have hmap : obj.shapeAt ["metadata"] = some .map := by
      rw [Object.shapeAt_single, hmetadata]
      rfl
    have hother : path ≠ ["metadata", "resourceVersion"] := by
      rintro rfl
      exact hnot (List.prefix_refl _)
    rw [line, if_neg hother, if_neg hnot]
    split
    · rename_i hway
      obtain ⟨hsome, more, hmore⟩ := hway
      cases path with
      | nil => exact absurd rfl hsome
      | cons field rest =>
          obtain ⟨rfl, hrest⟩ := List.cons.inj hmore
          cases rest with
          | nil =>
              rw [hmap]
              rfl
          | cons next rest =>
              obtain ⟨rfl, -⟩ := List.cons.inj hrest
              exact absurd ⟨rest, rfl⟩ hnot
    · rfl
  · rfl

def notFound (ref : ObjectRef) : ApiError := ⟨.notFound, s!"{ref.kind} \"{ref.name}\" not found"⟩

def malformed : ApiError := ⟨.other, "the patch could not be decoded"⟩

/-- A server that keeps objects as it is documented to. -/
def apiServer (decode : String → Option Json) (scaled : ObjectRef → Option (List String)) : Server where
  decode := decode
  scaled := scaled
  patch fault objects ref text subresource :=
    let store (obj : Object) := objects.insert ref (versioned (tidied obj))
    match fault, objects.lookup ref, decode text with
    | some err, _, _ => .error err
    | none, none, _ => .error (notFound ref)
    | none, some _, none => .error malformed
    | none, some obj, some patch =>
        if subresource then
          match scaled ref, patch.object.nestedField ["spec", "replicas"] with
          | none, _ => .error (notFound ref)
          | some path, some replicas => .ok (store (obj.mergePatch (Json.at path replicas)))
          | some _, none => .ok (store obj)
        else .ok (store (obj.mergePatch patch))

theorem apiServer_documented (decode : String → Option Json)
    {scaled : ObjectRef → Option (List String)} (hscaled : ∀ ref, scaled ref ≠ some []) :
    (apiServer decode scaled).Documented where
  scaled := hscaled
  refused err objects ref text sub := rfl
  missing objects ref text sub hnone := ⟨notFound ref, by simp [apiServer, hnone]⟩
  unscaled objects ref text hnone := by
    have hnone' : scaled ref = none := hnone
    simp only [apiServer]
    split
    · exact ⟨_, rfl⟩
    · exact ⟨_, rfl⟩
    · exact ⟨_, rfl⟩
    · rw [hnone']
      exact ⟨_, rfl⟩
  patched objects ref obj text fields hobj hdecode := by
    have hdecode' : decode text = some (.obj fields) := hdecode
    refine ⟨versioned (tidied (obj.mergePatch (.obj fields))), ?_,
      (sameSettings_tidied _).trans (sameSettings_versioned _)⟩
    simp [apiServer, hobj, hdecode']
  rescaled objects ref obj text path n hobj hdecode hpath := by
    have hdecode' : decode text = some (Json.at ["spec", "replicas"] (.num n)) := hdecode
    have hpath' : scaled ref = some path := hpath
    have hreplicas : (Json.at ["spec", "replicas"] (.num n)).object.nestedField
        ["spec", "replicas"] = some (.num n) := rfl
    refine ⟨versioned (tidied (obj.mergePatch (Json.at path (.num n)))), ?_,
      (sameSettings_tidied _).trans (sameSettings_versioned _)⟩
    simp [apiServer, hobj, hdecode', hpath', hreplicas]

/-! ### A deployment that is scaled and restarted, and a node that is out of use for a while -/

def web : ObjectRef := ⟨"prod", "apps", "Deployment", "shop", "web"⟩

def worker : ObjectRef := ⟨"prod", "", "Node", "", "node-1"⟩

def noon : Timestamp := ⟨"2026-01-01T12:00:00Z", by simp⟩

def ask (action : Action) : Issued :=
  ⟨web, action, noon, none, .ok ⟨"apps", "Deployment", true⟩, none⟩

def askNode (action : Action) : Issued :=
  ⟨worker, action, noon, none, .ok ⟨"", "Node", false⟩, none⟩

def rollout : List Issued :=
  [ask (.scale 5), askNode (.cordon true), ask .restart, ask (.scale (-1)), ask (.scale 2),
    askNode (.cordon false)]

def rolloutServer : Server :=
  apiServer
    (fun text =>
      [(scalePatch 5, Json.at ["spec", "replicas"] (.num 5)),
        (scalePatch (-1), Json.at ["spec", "replicas"] (.num (-1))),
        (scalePatch 2, Json.at ["spec", "replicas"] (.num 2)),
        (restartPatch noon.text,
          Json.at ["spec", "template", "metadata", "annotations", restartedAt] (.str noon.text)),
        (unschedulablePatch true, Json.at ["spec", "unschedulable"] (.bool true)),
        (unschedulablePatch false, Json.at ["spec", "unschedulable"] (.bool false))].lookup text)
    (fun ref => if ref.kind = "Deployment" then some ["spec", "replicas"] else none)

def rolloutObjects : Objects :=
  [⟨web, ([⟨"metadata", .obj [("resourceVersion", .str "7")]⟩,
      ⟨"spec", .obj [("replicas", .num 3), ("paused", .bool true)]⟩].toAList : Object)⟩,
    ⟨worker, ([⟨"metadata", .obj [("resourceVersion", .str "8")]⟩,
      ⟨"spec", .obj [("podCIDR", .str "10.0.0.0/24")]⟩].toAList : Object)⟩].toAList

/-- The node is left without the field. -/
theorem actions_settle_rollout :
    Settled rolloutServer rolloutObjects rollout (run rolloutServer rollout rolloutObjects).1
        (run rolloutServer rollout rolloutObjects).2 ∧
      actionsOn rolloutServer rolloutObjects web rollout = [.scale 5, .restart, .scale 2] ∧
      ((run rolloutServer rollout rolloutObjects).2.lookup worker).bind
        (fun node => node.shapeAt ["spec", "unschedulable"]) = none := by
  have hscaled : ∀ ref, rolloutServer.scaled ref ≠ some [] := fun ref => by
    simp only [rolloutServer, apiServer]
    split <;> simp
  refine ⟨actions_settle rolloutServer (apiServer_documented _ hscaled) rollout ?_ rolloutObjects,
    rfl, rfl⟩
  simp only [rollout, List.forall_mem_cons]
  exact ⟨rfl, rfl, rfl, rfl, rfl, rfl, by simp⟩

end Wiremap.Service.SettingActions
