import Wiremap.Handler.Router

/-! What stands before the handlers.  A page of another site may make the browser send any
request; such requests only read, and what they read is not shown to the page. -/
namespace Wiremap.Handler.Middleware

open Wiremap.Library Wiremap.Library.Routes
open Wiremap.Handler.KubeClusterHandler (Query)
open Wiremap.Handler.Router

abbrev Server := String → List String → Outcome Endpoint

/-- A request as it arrives; `origin` is "" where no site is named, and `upgrade` asks for a
WebSocket. -/
structure Incoming where
  method : String
  host : String
  origin : String
  upgrade : Bool
  segments : List String
  query : Query
  body : Option Body

inductive Answer (ρ : Type u) where
  | preflight
  | refused (err : AppError)
  | failed (err : AppError)
  | called (result : ρ)
  | connected (result : ρ)
  | notUpgraded
  | redirected
  | notFound

def Answer.isSocket {ρ : Type u} : Answer ρ → Bool
  | .connected _ => true
  | _ => false

structure Response (ρ : Type u) where
  headers : List (String × String)
  answer : Answer ρ

/-! ### The guards -/

def devOrigin : String := "http://localhost:5173"

def forbidden : AppError := .forbidden "cross-origin requests are not allowed"

def security : List (String × String) :=
  [("X-Content-Type-Options", "nosniff"), ("X-Frame-Options", "DENY"),
    ("X-XSS-Protection", "1; mode=block"),
    ("Referrer-Policy", "strict-origin-when-cross-origin"),
    ("Permissions-Policy", "camera=(), microphone=(), geolocation=()")]

def allowOrigin : String := "Access-Control-Allow-Origin"

def cors (devMode : Bool) : List (String × String) :=
  (if devMode then [(allowOrigin, devOrigin)] else []) ++
    [("Access-Control-Allow-Methods", "GET, PUT, POST, DELETE, OPTIONS"),
      ("Access-Control-Allow-Headers", "Content-Type")]

def sameOrigin (devMode : Bool) (req : Incoming) : Option AppError :=
  match req.method with
  | "GET" | "HEAD" | "OPTIONS" => none
  | _ =>
      if req.origin = "" ∨ req.origin = "http://" ++ req.host ∨
          req.origin = "https://" ++ req.host ∨ (devMode ∧ req.origin = devOrigin) then
        none
      else some forbidden

def checkOrigin (devMode : Bool) (req : Incoming) : Bool :=
  if req.origin = "" then true
  else if req.origin = "http://" ++ req.host ∨ req.origin = "https://" ++ req.host then true
  else if devMode ∧ req.origin = devOrigin then true
  else false

/-- The handlers that upgrade the connection before anything else. -/
def upgrades : Endpoint → Bool
  | .ws | .wsExec | .wsKube | .wsKubeExec => true
  | _ => false

section

variable {σ : Type u} {ρ : Type v}

/-- What the services make of a call, in the state the clusters and the hosts are in. -/
abbrev Services (σ : Type u) (ρ : Type v) := σ → Call → σ × ρ

variable (devMode : Bool) (serve : Server) (services : Services σ ρ)

def perform (s : σ) (e : Endpoint) (call : Call) : σ × Answer ρ :=
  let (s', result) := services s call
  (s', if upgrades e then .connected result else .called result)

def dispatch (s : σ) (req : Incoming) (e : Endpoint) (params : Params) : σ × Answer ρ :=
  if upgrades e && !(req.upgrade && checkOrigin devMode req) then (s, .notUpgraded)
  else
    match handle params req.query req.body e with
    | .ok call => perform services s e call
    | .error err => (s, .failed err)

/-- Preflight requests are answered first, whoever they are from. -/
def guarded (s : σ) (req : Incoming) (next : σ × Answer ρ) : σ × Response ρ :=
  let headers := security ++ cors devMode
  if req.method = "OPTIONS" then (s, ⟨headers, .preflight⟩)
  else
    match sameOrigin devMode req with
    | some err => (s, ⟨headers, .refused err⟩)
    | none => (next.1, ⟨headers, next.2⟩)

/-- Only a redirect is not behind the guards. -/
def respond (s : σ) (req : Incoming) : σ × Response ρ :=
  match serve req.method req.segments with
  | .handled e params => guarded devMode s req (dispatch devMode services s req e params)
  | .redirected _ => (s, ⟨[], .redirected⟩)
  | .notFound => guarded devMode s req (s, .notFound)

def unguarded (s : σ) (req : Incoming) : σ × Answer ρ :=
  match serve req.method req.segments with
  | .handled e params =>
      if upgrades e && !req.upgrade then (s, .notUpgraded)
      else
        match handle params req.query req.body e with
        | .ok call => perform services s e call
        | .error err => (s, .failed err)
  | .redirected _ => (s, .redirected)
  | .notFound => (s, .notFound)

def reads : Call → Bool
  | .listContainers _ | .inspectContainer _ _ | .files (.listDir _) | .files (.readFile _)
  | .listNetworks _ | .inspectNetwork _ _ | .listClusters | .topology _ _ | .kinds _
  | .listObjects _ _ _ _ _ _ | .counts _ _ _ | .getResource _ _ _ _ _ | .inspectPod _ _ _
  | .hosts => true
  | .updateEnv _ _ _ | .files (.writeFile _ _) | .update _ _ | .delete _ | .scale _ _ | .restart _
  | .trigger _ | .suspend _ _ | .cordon _ _ _ | .drain _ _ | .subscribe | .exec _ _
  | .subscribeKube | .execPod _ _ _ _ => false

/-- The services that read leave everything as it is. -/
def Steady : Prop := ∀ s call, reads call → (services s call).1 = s

/-! ### Pages -/

def Trusted (origin host : String) : Prop :=
  origin = "http://" ++ host ∨ origin = "https://" ++ host ∨ (devMode ∧ origin = devOrigin)

instance (origin host : String) : Decidable (Trusted devMode origin host) :=
  inferInstanceAs (Decidable (_ ∨ _ ∨ _))

def Own (req : Incoming) : Prop := req.origin = "" ∨ Trusted devMode req.origin req.host

structure Sent where
  page : Option String
  req : Incoming

def foreign (sent : Sent) : Bool :=
  match sent.page with
  | some page => !decide (Trusted devMode page sent.req.host)
  | none => false

/-- What a browser lets a page send, and what it shows the page of the answer. -/
structure Browser (ρ : Type v) where
  sends : String → Incoming → Prop
  shows : String → Incoming → Response ρ → Option (Answer ρ)

/-- The rules of origins that browsers keep. -/
structure Browser.Documented (b : Browser ρ) : Prop where
  /-- The page may be left unnamed only where it could read as well, and is named or else
  called "null". -/
  names : ∀ {page req}, b.sends page req →
    (req.origin ≠ "" ∧ (req.origin = page ∨ req.origin = "null")) ∨
      (req.origin = "" ∧ req.upgrade = false ∧ req.method ∈ ["GET", "HEAD"])
  /-- But for sockets, an answer of another origin is shown only if its headers allow it. -/
  hides : ∀ {page req} {res : Response ρ}, b.sends page req → page ≠ "http://" ++ req.host →
    page ≠ "https://" ++ req.host → (allowOrigin, page) ∉ res.headers →
    (allowOrigin, "*") ∉ res.headers → res.answer.isSocket = false → b.shows page req res = none

/-! ### Runs -/

/-- A request arrives, or the clusters and hosts change by themselves. -/
inductive Event (σ : Type u) where
  | sent (sent : Sent)
  | elapse (change : σ → σ)

def run (s : σ) : List (Event σ) → σ × List (Sent × Response ρ)
  | [] => (s, [])
  | .elapse change :: events => run (change s) events
  | .sent sent :: events =>
      let handled := respond devMode serve services s sent.req
      let rest := run handled.1 events
      (rest.1, (sent, handled.2) :: rest.2)

def foreignEvent : Event σ → Bool
  | .sent sent => foreign devMode sent
  | .elapse _ => false

def SentBy (b : Browser ρ) : Event σ → Prop
  | .sent sent => ∀ page ∈ sent.page, b.sends page sent.req
  | .elapse _ => True

/-- The state, and the answers to all other requests, are as if no page of another site had
sent any; such a page is shown nothing, and what names no other site is answered as if there
were no guard. -/
structure Isolated (b : Browser ρ) (s : σ) (events : List (Event σ)) : Prop where
  state : (run devMode serve services s events).1 =
    (run devMode serve services s (events.filter (!foreignEvent devMode ·))).1
  answers : (run devMode serve services s events).2.filter (!foreign devMode ·.1) =
    (run devMode serve services s (events.filter (!foreignEvent devMode ·))).2
  hidden : ∀ answer ∈ (run devMode serve services s events).2, ∀ page ∈ answer.1.page,
    foreign devMode answer.1 → b.shows page answer.1.req answer.2 = none
  own : ∀ s req, Own devMode req → req.method ≠ "OPTIONS" →
    ((respond devMode serve services s req).1, (respond devMode serve services s req).2.answer) =
      unguarded serve services s req

end

/-! ### What the guards let pass -/

section

variable {devMode : Bool} {serve : Server} {req : Incoming}

theorem checkOrigin_iff : checkOrigin devMode req ↔ Own devMode req := by
  unfold checkOrigin Own Trusted
  split
  · simp_all
  · split
    · rename_i hhost
      simp only [true_iff]
      exact .inr (hhost.elim .inl fun h => .inr (.inl h))
    · split
      · simp_all
      · simp_all

theorem sameOrigin_own (h : Own devMode req) : sameOrigin devMode req = none := by
  unfold sameOrigin
  split
  · rfl
  · rfl
  · rfl
  · exact if_pos h

theorem sameOrigin_foreign (h : ¬Own devMode req) (hmethod : req.method ∉ ["GET", "HEAD", "OPTIONS"]) :
    sameOrigin devMode req = some forbidden := by
  unfold sameOrigin
  split
  · simp_all
  · simp_all
  · simp_all
  · exact if_neg h

/-- All that is not only read is behind a method that is guarded, or upgraded to. -/
theorem guarded_of_handle {e : Endpoint} {params : Params} {q : Query} {body : Option Body}
    {call : Call} (h : handle params q body e = .ok call) (hreads : reads call = false) :
    method e ∉ ["GET", "HEAD", "OPTIONS"] ∨ upgrades e := by
  cases e with
  | updateEnv | writeFile | update | delete | scale | restart | trigger | suspend | cordon
  | drain => exact .inl (by decide)
  | ws | wsExec | wsKube | wsKubeExec => exact .inr rfl
  | listDir =>
      obtain ⟨files, hfiles, rfl⟩ := Fallible.map_eq_ok.mp h
      obtain ⟨-, rfl⟩ := FilesystemHandler.accepted_of_bind hfiles
      cases hreads
  | readFile =>
      obtain ⟨files, hfiles, rfl⟩ := Fallible.map_eq_ok.mp h
      unfold FilesystemHandler.readFile at hfiles
      dsimp only at hfiles
      split at hfiles
      · cases hfiles
      · obtain ⟨-, rfl⟩ := FilesystemHandler.accepted_of_bind hfiles
        cases hreads
  | listContainers | inspectContainer | listNetworks | inspectNetwork | listClusters | topology
  | kinds | listObjects | counts | getResource | inspectPod | hosts =>
      cases h
      cases hreads

theorem method_of_served (hserve : Serves initRoutes serve) {e : Endpoint} {params : Params}
    (h : serve req.method req.segments = .handled e params) : method e = req.method := by
  obtain ⟨r, hr, hmethod, rfl, -⟩ := hserve.sound h
  rw [← hmethod]
  exact (congrArg Route.method (eq_of_mem_initRoutes hr)).symm

variable {σ : Type u} {ρ : Type v} {services : Services σ ρ} {s : σ}

/-- A request that cannot do more than read: it names another site, or is a plain read. -/
def Barred (devMode : Bool) (req : Incoming) : Prop :=
  ¬Own devMode req ∨ (req.upgrade = false ∧ req.method ∈ ["GET", "HEAD"])

theorem null_not_own (host : String) :
    "null" ≠ "http://" ++ host ∧ "null" ≠ "https://" ++ host := by
  constructor <;>
  · intro h
    have hfirst := congrArg (fun text => text.toList.head?) h
    simp at hfirst

theorem barred_of_foreign {b : Browser ρ} (hb : b.Documented) {sent : Sent} {page : String}
    (hpage : page ∈ sent.page) (hsent : b.sends page sent.req) (h : foreign devMode sent) :
    Barred devMode sent.req := by
  have hforeign : ¬Trusted devMode page sent.req.host := by
    simpa [foreign, Option.mem_def.mp hpage] using h
  rcases hb.names hsent with ⟨hnamed, horigin | hnull⟩ | hplain
  · refine Or.inl ?_
    rintro (hempty | htrusted)
    · exact hnamed hempty
    · exact hforeign (horigin ▸ htrusted)
  · refine Or.inl ?_
    rintro (hempty | hhttp | hhttps | ⟨-, hdev⟩)
    · exact hnamed hempty
    · exact (null_not_own _).1 (hnull.symm.trans hhttp)
    · exact (null_not_own _).2 (hnull.symm.trans hhttps)
    · exact absurd (hnull.symm.trans hdev) (by decide)
  · exact Or.inr hplain.2

theorem not_upgraded (h : Barred devMode req) : (req.upgrade && checkOrigin devMode req) = false := by
  rcases h with hforeign | ⟨hplain, -⟩
  · rw [Bool.and_eq_false_iff]
    exact Or.inr (by simpa using mt checkOrigin_iff.mp hforeign)
  · rw [hplain, Bool.false_and]

theorem reads_of_barred (hserve : Serves initRoutes serve) (h : Barred devMode req) {e : Endpoint}
    {params : Params} (hserved : serve req.method req.segments = .handled e params)
    (hguard : sameOrigin devMode req = none) (hupgrade : upgrades e = false) {call : Call}
    (hcall : handle params req.query req.body e = .ok call) : reads call := by
  by_contra hwrites
  rcases guarded_of_handle hcall (by simpa using hwrites) with hmethod | hupgrades
  · rw [method_of_served hserve hserved] at hmethod
    rcases h with hforeign | ⟨-, hplain⟩
    · rw [sameOrigin_foreign hforeign hmethod] at hguard
      cases hguard
    · refine hmethod ?_
      simp only [List.mem_cons, List.not_mem_nil, or_false] at hplain ⊢
      exact hplain.elim Or.inl fun hhead => Or.inr (Or.inl hhead)
  · rw [hupgrade] at hupgrades
    cases hupgrades

theorem dispatch_barred (hserve : Serves initRoutes serve) (hreads : Steady services)
    (h : Barred devMode req) {e : Endpoint} {params : Params}
    (hserved : serve req.method req.segments = .handled e params)
    (hguard : sameOrigin devMode req = none) :
    (dispatch devMode services s req e params).1 = s ∧
      (dispatch devMode services s req e params).2.isSocket = false := by
  unfold dispatch
  rw [not_upgraded h, Bool.not_false, Bool.and_true]
  split
  · exact ⟨rfl, rfl⟩
  · rename_i hupgrade
    have hnone : upgrades e = false := by simpa using hupgrade
    split
    · rename_i call hcall
      have hread := reads_of_barred hserve h hserved hguard hnone hcall
      refine ⟨hreads s call hread, ?_⟩
      rw [perform, hnone]
      rfl
    · exact ⟨rfl, rfl⟩

theorem guarded_cases {next : σ × Answer ρ} (hnext : sameOrigin devMode req = none →
      next.1 = s ∧ next.2.isSocket = false) :
    (guarded devMode s req next).1 = s ∧
      (guarded devMode s req next).2.headers = security ++ cors devMode ∧
        (guarded devMode s req next).2.answer.isSocket = false := by
  unfold guarded
  dsimp only
  split
  · exact ⟨rfl, rfl, rfl⟩
  · split
    · exact ⟨rfl, rfl, rfl⟩
    · rename_i hguard
      exact ⟨(hnext hguard).1, rfl, (hnext hguard).2⟩

/-- A barred request leaves everything as it is, and is answered without a socket. -/
theorem respond_barred (hserve : Serves initRoutes serve) (hreads : Steady services)
    (h : Barred devMode req) :
    (respond devMode serve services s req).1 = s ∧
      (∀ header ∈ (respond devMode serve services s req).2.headers,
        header ∈ security ++ cors devMode) ∧
      (respond devMode serve services s req).2.answer.isSocket = false := by
  unfold respond
  split
  · rename_i e params hserved
    obtain ⟨hstate, hheaders, hanswer⟩ :=
      guarded_cases fun hguard => dispatch_barred (s := s) hserve hreads h hserved hguard
    exact ⟨hstate, fun header hheader => hheaders ▸ hheader, hanswer⟩
  · refine ⟨rfl, fun header hheader => ?_, rfl⟩
    cases hheader
  · have hnext : sameOrigin devMode req = none →
        (s, (.notFound : Answer ρ)).1 = s ∧ (s, (.notFound : Answer ρ)).2.isSocket = false :=
      fun _ => ⟨rfl, rfl⟩
    obtain ⟨hstate, hheaders, hanswer⟩ := guarded_cases hnext
    exact ⟨hstate, fun header hheader => hheaders ▸ hheader, hanswer⟩

/-- No origin but the development server's is let in by a header. -/
theorem origin_of_header {origin : String} (h : (allowOrigin, origin) ∈ security ++ cors devMode) :
    devMode ∧ origin = devOrigin := by
  cases devMode with
  | true => simpa [security, cors, allowOrigin] using h
  | false => simp [security, cors, allowOrigin] at h

theorem hidden_of_foreign {b : Browser ρ} (hb : b.Documented) (hserve : Serves initRoutes serve)
    (hreads : Steady services) {sent : Sent} {page : String} (hpage : page ∈ sent.page)
    (hsent : b.sends page sent.req) (h : foreign devMode sent) :
    b.shows page sent.req (respond devMode serve services s sent.req).2 = none := by
  have hforeign : ¬Trusted devMode page sent.req.host := by
    simpa [foreign, Option.mem_def.mp hpage] using h
  obtain ⟨-, hheaders, hanswer⟩ :=
    respond_barred (s := s) hserve hreads (barred_of_foreign hb hpage hsent h)
  refine hb.hides hsent (fun heq => hforeign (Or.inl heq)) (fun heq => hforeign (Or.inr (Or.inl heq)))
    (fun hheader => ?_) (fun hheader => ?_) hanswer
  · exact hforeign (Or.inr (Or.inr (origin_of_header (hheaders _ hheader))))
  · exact absurd (origin_of_header (hheaders _ hheader)).2 (by decide)

theorem respond_own (h : Own devMode req) (hmethod : req.method ≠ "OPTIONS") :
    ((respond devMode serve services s req).1, (respond devMode serve services s req).2.answer) =
      unguarded serve services s req := by
  have hcheck : checkOrigin devMode req = true := checkOrigin_iff.mpr h
  have hguarded : ∀ next : σ × Answer ρ, ((guarded devMode s req next).1,
      (guarded devMode s req next).2.answer) = next := fun next => by
    rw [guarded, if_neg hmethod, sameOrigin_own h]
  unfold respond unguarded
  split
  · rw [hguarded, dispatch, hcheck, Bool.and_true]
  · rfl
  · exact hguarded _

/-! ### Runs -/

theorem run_filter (hserve : Serves initRoutes serve) (hreads : Steady services) {b : Browser ρ}
    (hb : b.Documented) (events : List (Event σ)) (hsent : ∀ event ∈ events, SentBy b event) (s : σ) :
    run devMode serve services s (events.filter (!foreignEvent devMode ·)) =
      ((run devMode serve services s events).1,
        (run devMode serve services s events).2.filter (!foreign devMode ·.1)) := by
  induction events generalizing s with
  | nil => rfl
  | cons event events ih =>
      have hrest := ih fun event hevent => hsent event (List.mem_cons_of_mem _ hevent)
      cases event with
      | elapse change =>
          rw [List.filter_cons_of_pos (by simp [foreignEvent])]
          exact hrest (change s)
      | sent sent =>
          cases hforeign : foreign devMode sent with
          | false =>
              rw [List.filter_cons_of_pos (by simpa [foreignEvent] using hforeign)]
              simp only [run, hrest, List.filter_cons, hforeign, Bool.not_false, if_true]
          | true =>
              obtain ⟨page, hpage⟩ : ∃ page, page ∈ sent.page := by
                unfold foreign at hforeign
                split at hforeign
                · exact ⟨_, ‹_›⟩
                · cases hforeign
              have hbarred := barred_of_foreign hb hpage
                (hsent _ List.mem_cons_self page hpage) hforeign
              rw [List.filter_cons_of_neg (by simpa [foreignEvent] using hforeign)]
              simp only [run, hrest, (respond_barred (s := s) hserve hreads hbarred).1,
                List.filter_cons, hforeign, Bool.not_true, Bool.false_eq_true, if_false]

theorem hidden_run (hserve : Serves initRoutes serve) (hreads : Steady services) {b : Browser ρ}
    (hb : b.Documented) (events : List (Event σ)) (hsent : ∀ event ∈ events, SentBy b event) (s : σ) :
    ∀ answer ∈ (run devMode serve services s events).2, ∀ page ∈ answer.1.page,
      foreign devMode answer.1 → b.shows page answer.1.req answer.2 = none := by
  induction events generalizing s with
  | nil => exact fun answer hanswer => by cases hanswer
  | cons event events ih =>
      have hrest := ih fun event hevent => hsent event (List.mem_cons_of_mem _ hevent)
      cases event with
      | elapse change => exact hrest (change s)
      | sent sent =>
          intro answer hanswer page hpage hforeign
          rcases List.mem_cons.mp hanswer with rfl | hlater
          · exact hidden_of_foreign hb hserve hreads hpage
              (hsent _ List.mem_cons_self page hpage) hforeign
          · exact hrest _ answer hlater page hpage hforeign

end

def logged : Services (List Call) (List Call) := fun s call =>
  if reads call then (s, s) else (s ++ [call], s)

/-- A browser that shows a page whatever it may. -/
def lenient : Browser (List Call) where
  sends page req := (req.origin ≠ "" ∧ req.origin = page) ∨
    (req.origin = "" ∧ req.upgrade = false ∧ req.method ∈ ["GET", "HEAD"])
  shows page req res :=
    if res.answer.isSocket ∨ page = "http://" ++ req.host ∨ page = "https://" ++ req.host ∨
        (allowOrigin, page) ∈ res.headers ∨ (allowOrigin, "*") ∈ res.headers then some res.answer
    else none

theorem lenient_documented : lenient.Documented where
  names h := h.imp_left fun hnamed => ⟨hnamed.1, Or.inl hnamed.2⟩
  hides _ hhttp hhttps hheader hstar hsocket :=
    if_neg (by simp [hhttp, hhttps, hheader, hstar, hsocket])

def requestFrom (origin method : String) (upgrade : Bool) (path : List String) : Event (List Call) :=
  .sent ⟨some origin, ⟨method, "localhost:7070", origin, upgrade, "" :: path, [], none⟩⟩

def drainPath : List String := ["api", "k8s", "clusters", "prod", "nodes", "node-1", "drain"]

/-- Another site would like to drain a node, to see the clusters and to follow them. -/
def sitesAndPages : List (Event (List Call)) :=
  [requestFrom "https://evil.example" "POST" false drainPath,
    requestFrom "http://localhost:7070" "POST" false drainPath,
    requestFrom "https://evil.example" "GET" false ["api", "k8s", "clusters"],
    requestFrom "https://evil.example" "GET" true ["ws", "k8s"],
    requestFrom "http://localhost:7070" "GET" true ["ws", "k8s"]]

end Wiremap.Handler.Middleware
